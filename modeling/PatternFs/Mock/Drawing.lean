import PatternFs.Pattern

/-! Drawing fresh patterns. Patterns come one by one from any source of draws; one that is taken
already is passed over, and drawing stops as soon as enough fresh ones have come. -/
namespace PatternFs

/-- There are 2^32 patterns in all. -/
def patternCount : Nat := 0x100000000

inductive Drawing
  /-- More patterns are asked for than are left. -/
  | refused (available : Nat)
  /-- The fresh patterns in the order of their draws, and all that are taken now. -/
  | done (fresh taken : List Pattern)
  /-- The draws ended before enough fresh ones had come. -/
  | unfinished
  deriving DecidableEq

namespace Drawing

def cons (p : Pattern) : Drawing → Drawing
  | .done fresh taken => .done (p :: fresh) taken
  | d => d

def take (draws : List Pattern) (count : Nat) (taken : List Pattern) : Drawing :=
  match count, draws with
  | 0, _ => .done [] taken
  | _ + 1, [] => .unfinished
  | count + 1, p :: draws =>
    if p ∈ taken then take draws (count + 1) taken else (take draws count (p :: taken)).cons p

def available (taken : List Pattern) : Nat := patternCount - taken.length

/-- The count is checked before the first draw. `taken` lists no pattern twice. -/
def ofDraws (draws : List Pattern) (count : Nat) (taken : List Pattern) : Drawing :=
  if count > available taken then .refused (available taken) else take draws count taken

def refusalMessage (available count : Nat) : String :=
  "Only " ++ toString available ++ " unused patterns remain, " ++ toString count ++ " requested"

end Drawing

end PatternFs
