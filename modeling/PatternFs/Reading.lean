import PatternFs.Failure

/-! Positioned reads. The host may answer each call with fewer bytes than there is room for, or be
interrupted before it has any; a read asks again at the position reached until it has all it wants,
until a call brings nothing, which marks the end of the file, or until a call fails. -/
namespace PatternFs

/-- What one call brings. -/
inductive Answer
  | bytes (chunk : List UInt8)
  | interrupted
  | failed (e : HostError)
  deriving DecidableEq

inductive Reading
  | going (got : List UInt8)
  | ended (r : Except HostError (List UInt8))

namespace Reading

/-- A read of no bytes makes no call. -/
def start (length : Nat) : Reading := if length = 0 then .ended (.ok []) else .going []

def take (length : Nat) (r : Reading) (a : Answer) : Reading :=
  match r, a with
  | .ended r, _ => .ended r
  | .going got, .bytes [] => .ended (.ok got)
  | .going got, .bytes chunk =>
    if (got ++ chunk).length < length then .going (got ++ chunk) else .ended (.ok (got ++ chunk))
  | .going got, .interrupted => .going got
  | .going _, .failed e => .ended (.error e)

def result : Reading → Except HostError (List UInt8)
  | .going got => .ok got
  | .ended r => r

def run (length : Nat) (answers : List Answer) : Reading :=
  answers.foldl (take length) (start length)

/-- A host that gives all it has at once, and nothing after that, is read in full. -/
theorem run_whole (length : Nat) (chunk : List UInt8) (fits : chunk.length ≤ length) :
    (run length [.bytes chunk, .bytes []]).result = .ok chunk := by
  unfold run start
  split
  · next h =>
    have : chunk = [] := List.eq_nil_of_length_eq_zero (by omega)
    simp [take, result, this]
  · cases chunk with
    | nil => simp [take, result]
    | cons b rest =>
      have first : take length (.going []) (.bytes (b :: rest)) =
          if (b :: rest).length < length then .going (b :: rest)
          else .ended (.ok (b :: rest)) := rfl
      rw [List.foldl_cons, first]
      split <;> rfl

end Reading

end PatternFs
