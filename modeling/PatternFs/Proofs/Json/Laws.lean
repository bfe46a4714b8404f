import PatternFs.Json.Library
import PatternFs.Proofs.Json.Reading

/-! What is relied on of a library for JSON. It follows the grammar of texts, and the forms of types
are those that are documented for them: a value is told by what it says, in any spelling; the
members of a record stand in any order, a missing one has its default, an unknown one is passed
over, and one that comes twice is refused; a tag and its content stand in either order. -/
namespace PatternFs.Json

variable {α : Type}

/-- The string is the text, in any spelling. -/
def IsText (s : String) (v : Json) : Prop := v.text? = some s

/-- The member has the name as its key, in any spelling, and a value of the kind. -/
def Names (name : String) (kind : Json → Prop) (member : List Nat × Json) : Prop :=
  textOfUnits? member.1 = some name ∧ kind member.2

/-- Two members have the name as their key, with any values. -/
def Repeats (name : String) (members : List (List Nat × Json)) : Prop :=
  ∃ front first middle second back, members = front ++ first :: (middle ++ second :: back) ∧
    Names name (fun _ => True) first ∧ Names name (fun _ => True) second

/-- Members of an object that give the named fields, each of them once, among others that name no
field, and the changes that they bring. -/
inductive Gives (fields : List (Field α)) :
    List String → List (List Nat × Json) → List (α → α) → Prop
  | nil : Gives fields [] [] []
  | field {field : Field α} {name : String} {given : List String} {key : List Nat} {v : Json}
      {members : List (List Nat × Json)} {change : α → α} {changes : List (α → α)} :
      textOfUnits? key = some name → fields.find? (·.name = name) = some field → name ∉ given →
      field.read? v = some change → Gives fields given members changes →
      Gives fields (name :: given) ((key, v) :: members) (change :: changes)
  | other {name : String} {given : List String} {key : List Nat} {v : Json}
      {members : List (List Nat × Json)} {changes : List (α → α)} :
      textOfUnits? key = some name → fields.find? (·.name = name) = none →
      Gives fields given members changes → Gives fields given ((key, v) :: members) changes

theorem field_read {β : Type} {codec : Codec β} {name : String} {get : α → β} {set : β → α → α}
    {v : Json} {part : β} (read : codec.read? v = some part) :
    (codec.field name get set).read? v = some (set part) := congrArg (Option.map set) read

structure Library.Lawful (l : Library) : Prop where
  parse {v : Json} {s : String} : Laid v.tokens s.toList → l.parse? s = some v
  written {v : Json} : v.Writable → Laid v.tokens (l.written v).toList
  string_form (s : String) : IsText s (l.string.form s)
  string_read {s : String} {v : Json} : IsText s v → l.string.read? v = some s
  flag_form (b : Bool) : l.flag.form b = .bool b
  flag_read (b : Bool) : l.flag.read? (.bool b) = some b
  byte_form (b : UInt8) : l.byte.form b = ofNat b.toNat
  byte_read (b : UInt8) : l.byte.read? (ofNat b.toNat) = some b
  array_form {α : Type} {n : Nat} (item : Codec α) (values : Vector α n) :
    (l.array n item).form values = .array (values.toList.map item.form)
  array_read {α : Type} {n : Nat} (item : Codec α) (values : Vector α n) :
    (∀ a ∈ values.toList, item.read? (item.form a) = some a) →
      (l.array n item).read? (.array (values.toList.map item.form)) = some values
  optional_form {α : Type} (part : Codec α) (a? : Option α) :
    (l.optional part).form a? = (a?.map part.form).getD .null
  optional_null {α : Type} (part : Codec α) : (l.optional part).read? .null = some none
  optional_read {α : Type} (part : Codec α) {v : Json} :
    v ≠ .null → (l.optional part).read? v = (part.read? v).map some
  choice_form {α : Type} (name : α → String) (all : List α) (a : α) :
    IsText (name a) ((l.choice name all).form a)
  choice_read {α : Type} (name : α → String) {all : List α} {a : α} {v : Json} :
    a ∈ all → (∀ b ∈ all, name b = name a → b = a) → IsText (name a) v →
      (l.choice name all).read? v = some a
  constant_form {α : Type} {tag content name : String} {sort : α → String × Option Json}
    (cases : List (String × Case α)) {a : α} : sort a = (name, none) →
      ∃ member, Names tag (IsText name) member ∧
        (l.tagged tag content sort cases).form a = .object [member]
  constant_read {α : Type} {tag content name : String} (sort : α → String × Option Json)
    {cases : List (String × Case α)} {a : α} {member : List Nat × Json} : tag ≠ content →
      cases.lookup name = some (.constant a) → Names tag (IsText name) member →
      (l.tagged tag content sort cases).read? (.object [member]) = some a
  holding_form {α : Type} {tag content name : String} {sort : α → String × Option Json}
    (cases : List (String × Case α)) {a : α} {v : Json} : sort a = (name, some v) →
      ∃ first second, Names tag (IsText name) first ∧ Names content (· = v) second ∧
        (l.tagged tag content sort cases).form a = .object [first, second]
  holding_read {α : Type} {tag content name : String} (sort : α → String × Option Json)
    {cases : List (String × Case α)} {read? : Json → Option α} {first second : List Nat × Json} :
      tag ≠ content → cases.lookup name = some (.holding read?) →
      Names tag (IsText name) first → Names content (fun _ => True) second →
      (l.tagged tag content sort cases).read? (.object [first, second]) = read? second.2 ∧
        (l.tagged tag content sort cases).read? (.object [second, first]) = read? second.2
  record_form {α : Type} (default : α) (fields : List (Field α)) (a : α) :
    ∃ key : String → List Nat, (∀ name, textOfUnits? (key name) = some name) ∧
      (l.record default fields).form a =
        .object (fields.map fun field => (key field.name, field.form a))
  record_read {α : Type} {default : α} {fields : List (Field α)} {given : List String}
    {members : List (List Nat × Json)} {changes : List (α → α)} :
      Gives fields given members changes → (l.record default fields).read? (.object members) =
        some (changes.foldl (fun a change => change a) default)
  record_repeats {α : Type} {default : α} {fields : List (Field α)} {field : Field α}
    {name : String} {members : List (List Nat × Json)} :
      fields.find? (·.name = name) = some field → Repeats name members →
      (l.record default fields).read? (.object members) = none

end PatternFs.Json
