import PatternFs.Failure
import PatternFs.Pattern
import PatternFs.Text.LowerCase

/-! The pattern of a synthetic file whose name does not start with eight hexadecimal digits. -/
namespace PatternFs

inductive Fallback
  /-- The file's sequence id. -/
  | counter
  | fixed (pattern : Pattern)
  /-- No such file is created. -/
  | reject
  deriving DecidableEq

namespace Fallback

def ofText? (s : String) : Option Fallback :=
  let lower := Text.lowerCase s
  if lower = "counter" then some .counter
  else if lower = "reject" then some .reject
  else (Pattern.ofDigits? lower.toList).map .fixed

def unknownMessage (s : String) : String := "Unknown fallback pattern: " ++ s

end Fallback

/-- The pattern of a file that is created under `name` with the sequence id `id`. -/
def Pattern.derive (fallback : Fallback) (name : String) (id : Nat) : Except Failure Pattern :=
  match Pattern.ofName? name, fallback with
  | some pattern, _ => .ok pattern
  | none, .counter => .ok (.ofSequence id)
  | none, .fixed pattern => .ok pattern
  | none, .reject => .error (.invalidArgument name .noPatternDigits)

end PatternFs
