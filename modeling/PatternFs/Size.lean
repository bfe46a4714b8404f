import PatternFs.Failure
import PatternFs.Text.Blank

/-! Byte counts as people write them: decimal digits and at most one unit. A count has to fit 64
bits. `compact` writes the largest unit that divides the count. -/
namespace PatternFs.Size

/-- Suffix and number of bytes of each unit, the largest first. -/
def units : List (String × Nat) :=
  [("tb", 0x10000000000), ("gb", 0x40000000), ("mb", 0x100000), ("kb", 0x400)]

/-- Takes the unit off the end of a text in lower case. -/
def splitUnit (cs : List Char) : List Char × Nat :=
  match units.find? fun unit => unit.1.toList.isSuffixOf cs with
  | some unit => (cs.take (cs.length - unit.1.length), unit.2)
  | none => (cs, 1)

/-- Sizes and positions of files are below 2^64. -/
def limit : Nat := 0x10000000000000000

def ofDigits? (digits : List Char) (factor : Nat) : Option Nat :=
  if digits ≠ [] && digits.all Char.isDigit then
    let count := Nat.ofDigitChars 10 digits 0 * factor
    if count < limit then some count else none
  else none

def ofText? (s : String) : Option Nat :=
  let split := splitUnit ((Text.trimBlank s.toList).map Char.toLower)
  ofDigits? split.1 split.2

def ofText (s : String) : Except Failure Nat :=
  match ofText? s with
  | some count => .ok count
  | none => .error (.invalidArgument s .notASize)

def compact (count : Nat) : String :=
  match units.find? fun unit => 0 < count && count % unit.2 == 0 with
  | some unit => toString (count / unit.2) ++ unit.1
  | none => toString count

end PatternFs.Size
