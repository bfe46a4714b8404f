import PatternFs.Json.Document
import PatternFs.Json.Library

/-! A library for JSON. Records are objects or, without the names, arrays; members with other names
are passed over, and a name that comes twice is refused. -/
namespace PatternFs.Json.Standard

variable {α : Type}

def string : Codec String := ⟨ofText, text?⟩

def flag : Codec Bool where
  form := .bool
  read?
    | .bool b => some b
    | _ => none

/-- A number written as digits only, and at most 255. -/
def byte : Codec UInt8 where
  form b := ofNat b.toNat
  read?
    | .number literal =>
      if literal.all Char.isDigit && Nat.ofDigitChars 10 literal 0 < 256 then
        some (UInt8.ofNat (Nat.ofDigitChars 10 literal 0))
      else none
    | _ => none

def array (n : Nat) (item : Codec α) : Codec (Vector α n) where
  form values := .array (values.toList.map item.form)
  read?
    | .array items => do
      let values ← items.mapM item.read?
      if length : values.length = n then return ⟨values.toArray, length⟩ else none
    | _ => none

def optional (part : Codec α) : Codec (Option α) where
  form
    | none => .null
    | some a => part.form a
  read?
    | .null => some none
    | v => (part.read? v).map some

/-- A name, or an object with the name as its only key and null as its value. -/
def name? : Json → Option String
  | .string units => textOfUnits? units
  | .object [(key, .null)] => textOfUnits? key
  | _ => none

def choice (name : α → String) (all : List α) : Codec α where
  form a := ofText (name a)
  read? v := do
    let chosen ← name? v
    all.find? (name · = chosen)

/-- Takes one member of an object for the tag or the content. One that comes twice is refused. -/
def part? (tag content : String) (parts : Option Json × Option Json) (member : List Nat × Json) :
    Option (Option Json × Option Json) := do
  let name ← textOfUnits? member.1
  if name = tag then
    if parts.1.isSome then none else return (some member.2, parts.2)
  else if name = content then
    if parts.2.isSome then none else return (parts.1, some member.2)
  else return parts

/-- A constant has no content, or a null in its place. -/
def Case.value? (content? : Option Json) : Case α → Option α
  | .constant a =>
    match content? with
    | none | some .null => some a
    | _ => none
  | .holding read? => content?.bind read?

/-- An object with the parts in either order, or both parts in an array. -/
def tagged (tag content : String) (sort : α → String × Option Json)
    (cases : List (String × Case α)) : Codec α where
  form a :=
    let (name, content?) := sort a
    .object ((unitsOfText tag, ofText name) ::
      (content?.map fun v => (unitsOfText content, v)).toList)
  read?
    | .object members => do
      let (tag?, content?) ← members.foldlM (part? tag content) (none, none)
      Case.value? content? (← cases.lookup (← name? (← tag?)))
    | .array [tag, content] => do
      Case.value? (some content) (← cases.lookup (← name? tag))
    | _ => none

/-- Reads one member. The names of the fields that were read before come with the record. -/
def member? (fields : List (Field α)) (read : α × List String) (member : List Nat × Json) :
    Option (α × List String) := do
  let name ← textOfUnits? member.1
  match fields.find? (·.name = name) with
  | none => return read
  | some field =>
    if name ∈ read.2 then none else return ((← field.read? member.2) read.1, name :: read.2)

def items? (a : α) : List (Field α) → List Json → Option α
  | _, [] => some a
  | [], _ :: _ => none
  | field :: fields, v :: items => do items? ((← field.read? v) a) fields items

def record (default : α) (fields : List (Field α)) : Codec α where
  form a := .object (fields.map fun field => (unitsOfText field.name, field.form a))
  read?
    | .object members => (members.foldlM (member? fields) (default, [])).map Prod.fst
    | .array items => items? default fields items
    | _ => none

def library : Library :=
  { parse?
    written := text
    string
    flag
    byte
    array
    optional
    choice
    tagged
    record }

end PatternFs.Json.Standard
