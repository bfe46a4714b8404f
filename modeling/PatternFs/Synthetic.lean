import PatternFs.Failure
import PatternFs.Entry
import PatternFs.Size

/-! Reading and writing files that exist only as a pattern and a size. A read that starts inside the
file gives as many bytes as it asks for: the pattern up to the end of the file, aligned to absolute
positions, and zeros after it. A write moves the end of the file and nothing else. -/
namespace PatternFs.Synthetic

def byte (pattern : Pattern) (size position : Nat) : UInt8 :=
  if position < size then pattern.byteAt position else 0

def read (pattern : Pattern) (size offset length : Nat) : List UInt8 :=
  if offset ≥ size then []
  else
    let available := min (size - offset) length
    (List.range available).map (fun i => pattern.byteAt (offset + i)) ++
      List.replicate (length - available) 0

/-- The size after a write of `length` bytes, unless its end is out of range. -/
def grown? (size offset length : Nat) : Option Nat :=
  if offset + length < Size.limit then some (max size (offset + length)) else none

/-- The whole length counts as written. -/
def write (e : Entry) (offset length : Nat) : Except Failure Nat × Entry :=
  match grown? e.size offset length with
  | some size => (.ok length, e.resize size)
  | none => (.error (.invalidPath e.path (.pastRange offset)), e)

/-- Past the end of the pattern a read goes on with zeros. -/
theorem read_eq_map (pattern : Pattern) (size offset length : Nat) (inside : offset < size) :
    read pattern size offset length =
      (List.range length).map fun i => byte pattern size (offset + i) := by
  unfold read
  rw [if_neg (by omega)]
  apply List.ext_getElem
  · rw [List.length_append, List.length_map, List.length_range, List.length_replicate,
      List.length_map, List.length_range]
    omega
  · intro i h _
    simp only [List.getElem_append, List.length_map, List.length_range, List.getElem_map,
      List.getElem_range, List.getElem_replicate, byte]
    by_cases here : i < min (size - offset) length
    · have : offset + i < size := by omega
      simp [here, this]
    · have : ¬ offset + i < size := by simp at h; omega
      simp [here, this]

end PatternFs.Synthetic
