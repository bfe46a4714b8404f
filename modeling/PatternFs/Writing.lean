import PatternFs.Content
import PatternFs.Failure

/-! Positioned writes. The host may take fewer bytes than it is offered, or be interrupted before it
takes any; a write offers the rest at the position reached until all of it is there, until a call
takes nothing, or until a call fails. What was taken before stays in the file. -/
namespace PatternFs

/-- What one call brings. -/
inductive Taking
  | took (count : Nat)
  | interrupted
  | failed (e : HostError)
  deriving DecidableEq

/-- What the file holds, with how many bytes of the data. -/
inductive Writing
  | going (content : Content) (taken : Nat)
  | ended (content : Content) (taken : Nat) (r : Except HostError Unit)

namespace Writing

/-- A write of no bytes makes no call. -/
def start (c : Content) (data : List UInt8) : Writing :=
  if data = [] then .ended c 0 (.ok ()) else .going c 0

def take (offset : Nat) (data : List UInt8) (w : Writing) (a : Taking) : Writing :=
  match w, a with
  | .ended c n r, _ => .ended c n r
  | .going c n, .took 0 => .ended c n (.error .unnumbered)
  | .going c n, .took count =>
    let c := c.splice (offset + n) ((data.drop n).take count)
    if n + count < data.length then .going c (n + count) else .ended c data.length (.ok ())
  | .going c n, .interrupted => .going c n
  | .going c n, .failed e => .ended c n (.error e)

/-- A host that is out of answers takes all that is left. -/
def run (c : Content) (offset : Nat) (data : List UInt8) (answers : List Taking) : Writing :=
  (answers ++ [Taking.took data.length]).foldl (take offset data) (start c data)

def content : Writing → Content
  | .going c _ => c
  | .ended c _ _ => c

def taken : Writing → Nat
  | .going _ n => n
  | .ended _ n _ => n

def result : Writing → Except HostError Unit
  | .going _ _ => .ok ()
  | .ended _ _ r => r

end Writing

end PatternFs
