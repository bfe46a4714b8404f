import PatternFs.Proofs.Filesystem.Failures
import PatternFs.Proofs.Filesystem.Linked
import PatternFs.Proofs.Filesystem.Locality

/-! Creating a file that is there, against opening it with its content thrown away. The ways are
different: a creation makes a descriptor of its own and spends an id before it finds out whether the
file needs them. What they leave behind is the same. -/
namespace PatternFs

namespace Entry

/-- The entry after one more client emptied the file, with `d` for a file that was closed. -/
def emptied (e : Entry) (d : Nat) : Entry :=
  { e with
    size := 0
    holding? :=
      match e.kind, e.holding? with
      | .synthetic, _ => none
      | .delegated, none => some ⟨d, 1⟩
      | .delegated, some h => some ⟨h.descriptor, h.opens + 1⟩ }

variable {e : Entry}

end Entry

namespace Filesystem

variable {fs : Filesystem} {path : Path} {e : Entry} {id mode : Nat} {flags flags' : OpenFlags}

theorem Tied.executeOn (tied : fs.Tied) (run : List (Platform × Operation)) :
    (Filesystem.executeOn run fs).Tied := by
  induction run generalizing fs with
  | nil => exact tied
  | cons met rest ih =>
    obtain ⟨platform, op⟩ := met
    have met := tied.on platform
    exact ih ((met.transition op).tied met)

end Filesystem

end PatternFs
