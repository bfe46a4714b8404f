import PatternFs.Json

/-! What a library for JSON offers: texts are read as values, values are written as texts, and a
type gets its form in JSON from a description of the type. Which library it is stays open here. -/
namespace PatternFs.Json

/-- The form that a type has in JSON. -/
structure Codec (α : Type) where
  form : α → Json
  read? : Json → Option α

/-- A field of a record, with the change of the record that a value of the field brings. -/
structure Field (α : Type) where
  name : String
  form : α → Json
  read? : Json → Option (α → α)

def Codec.field {α β : Type} (codec : Codec β) (name : String) (get : α → β) (set : β → α → α) :
    Field α where
  name
  form a := codec.form (get a)
  read? v := (codec.read? v).map set

/-- What a tag stands for. -/
inductive Case (α : Type)
  | constant (a : α)
  | holding (read? : Json → Option α)

structure Library where
  parse? : String → Option Json
  written : Json → String
  string : Codec String
  flag : Codec Bool
  byte : Codec UInt8
  array {α : Type} (n : Nat) (item : Codec α) : Codec (Vector α n)
  optional {α : Type} (part : Codec α) : Codec (Option α)
  /-- One of several values, which are told by their names. -/
  choice {α : Type} (name : α → String) (all : List α) : Codec α
  /-- A value with its tag in one member and its content, if it has one, in another. -/
  tagged {α : Type} (tag content : String) (sort : α → String × Option Json)
    (cases : List (String × Case α)) : Codec α
  /-- A record, in which a field that is missing is as in `default`. -/
  record {α : Type} (default : α) (fields : List (Field α)) : Codec α

end PatternFs.Json
