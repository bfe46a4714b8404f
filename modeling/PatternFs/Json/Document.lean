import PatternFs.Json.Token

/-! JSON documents: one value and nothing after it. Reading folds over the tokens with a stack of
unfinished places, the innermost first, so values may be nested to any depth. Writing goes the other
way and puts no blanks between tokens. -/
namespace PatternFs.Json

/-- Where in an unfinished value the next token falls. -/
inductive Place
  | document
  | finished (v : Json)
  /-- After the opening bracket. -/
  | arrayStart
  /-- After a comma, where an item has to follow. -/
  | arrayItem (items : List Json)
  /-- After an item. -/
  | arrayRest (items : List Json)
  /-- After the opening brace. -/
  | objectStart
  /-- After a comma, where a key has to follow. -/
  | objectKey (members : List (List Nat × Json))
  | objectColon (members : List (List Nat × Json)) (key : List Nat)
  | objectValue (members : List (List Nat × Json)) (key : List Nat)
  /-- After a member. -/
  | objectRest (members : List (List Nat × Json))

/-- The place after a whole value, where one may stand. -/
def Place.put? (place : Place) (v : Json) : Option Place :=
  match place with
  | .document => some (.finished v)
  | .arrayStart => some (.arrayRest [v])
  | .arrayItem items => some (.arrayRest (items ++ [v]))
  | .objectValue members key => some (.objectRest (members ++ [(key, v)]))
  | _ => none

def Place.wantsValue : Place → Bool
  | .document | .arrayStart | .arrayItem _ | .objectValue _ _ => true
  | _ => false

/-- The value that a closing bracket completes. -/
def Place.array? : Place → Option Json
  | .arrayStart => some (.array [])
  | .arrayRest items => some (.array items)
  | _ => none

/-- The value that a closing brace completes. -/
def Place.object? : Place → Option Json
  | .objectStart => some (.object [])
  | .objectRest members => some (.object members)
  | _ => none

def put? (v : Json) : List Place → Option (List Place)
  | [] => none
  | place :: outer => (place.put? v).map (· :: outer)

def open? (inner : Place) : List Place → Option (List Place)
  | [] => none
  | place :: outer => if place.wantsValue then some (inner :: place :: outer) else none

def feed? (stack : List Place) (t : Token) : Option (List Place) :=
  match t, stack with
  | .null, _ => put? .null stack
  | .bool b, _ => put? (.bool b) stack
  | .number literal, _ => put? (.number literal) stack
  | .string key, .objectStart :: outer => some (.objectColon [] key :: outer)
  | .string key, .objectKey members :: outer => some (.objectColon members key :: outer)
  | .string units, _ => put? (.string units) stack
  | .openArray, _ => open? .arrayStart stack
  | .openObject, _ => open? .objectStart stack
  | .colon, .objectColon members key :: outer => some (.objectValue members key :: outer)
  | .comma, .arrayRest items :: outer => some (.arrayItem items :: outer)
  | .comma, .objectRest members :: outer => some (.objectKey members :: outer)
  | .closeArray, place :: outer => do put? (← place.array?) outer
  | .closeObject, place :: outer => do put? (← place.object?) outer
  | _, _ => none

def ofTokens? (tokens : List Token) : Option Json :=
  match tokens.foldlM feed? [.document] with
  | some [.finished v] => some v
  | _ => none

def parse? (s : String) : Option Json := do ofTokens? (← tokens? s.toList)

mutual

def tokens : Json → List Token
  | .null => [.null]
  | .bool b => [.bool b]
  | .number literal => [.number literal]
  | .string units => [.string units]
  | .array [] => [.openArray, .closeArray]
  | .array (item :: items) => .openArray :: tokens item ++ tokensOfItems items ++ [.closeArray]
  | .object [] => [.openObject, .closeObject]
  | .object ((key, v) :: members) =>
    .openObject :: .string key :: .colon :: tokens v ++ tokensOfMembers members ++ [.closeObject]

/-- The tokens of the items after the first one. -/
def tokensOfItems : List Json → List Token
  | [] => []
  | item :: items => .comma :: tokens item ++ tokensOfItems items

/-- The tokens of the members after the first one. -/
def tokensOfMembers : List (List Nat × Json) → List Token
  | [] => []
  | (key, v) :: members => .comma :: .string key :: .colon :: tokens v ++ tokensOfMembers members

end

def text (v : Json) : String := String.ofList (v.tokens.flatMap Token.written)

end PatternFs.Json
