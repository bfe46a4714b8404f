import PatternFs.Pattern
import PatternFs.Size

/-! Names of mock files: a pattern, a size and a chunk size, joined by underscores. The mount itself
looks only at the pattern; the other two fields are for the tools that fill and read the files, and
may be any text. -/
namespace PatternFs

structure Mock where
  pattern : Pattern
  size : String
  chunk : String
  deriving DecidableEq

namespace Mock

def name (m : Mock) : String := m.pattern.text ++ "_" ++ m.size ++ "_" ++ m.chunk

def ofName? (name : String) : Option Mock :=
  match name.toList.splitOn '_' with
  | [pattern, size, chunk] =>
    (Pattern.ofDigits? pattern).map fun p => ⟨p, String.ofList size, String.ofList chunk⟩
  | _ => none

def byteCount (m : Mock) : Except Failure Nat := Size.ofText m.size

end Mock

end PatternFs
