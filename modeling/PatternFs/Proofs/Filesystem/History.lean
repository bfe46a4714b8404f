import PatternFs.Proofs.Filesystem.Texts

/-! Histories of a mount: what it was asked and what it answered since it started, while others
changed the backing directory as they liked. A history says nothing about the state, so what can be
read off it is an independent account of what the state should be. -/
namespace PatternFs

/-- Operations with their answers, the last one first. -/
abbrev History := List (Operation × Except Failure Reply)

/-- What the operations of a history tell one after the other, the first of them after `blank`. -/
def History.told {α : Type} (tell : Told α → Operation → Told α) (blank : Told α) : History → Told α
  | [] => blank
  | (op, r) :: past => Told.after tell (told tell blank past) op r

namespace Filesystem

variable {fs : Filesystem} {past : History}

/-- The mounts that a history can lead to. -/
inductive Recorded : History → Filesystem → Prop
  | start (backingDirectory : String) (fallback : Fallback) {store : Store} :
      store.Unused → Recorded [] (start backingDirectory fallback store)
  | perform {past : History} {fs : Filesystem} (op : Operation) : Recorded past fs →
      Recorded ((op, (fs.perform op).1) :: past) (fs.perform op).2
  | outside {past : History} {fs : Filesystem} {store : Store} : Recorded past fs →
      fs.store.OutsideChange store → Recorded past { fs with store }

theorem Recorded.reachable (recorded : Recorded past fs) : fs.Reachable := by
  induction recorded with
  | start backingDirectory fallback unused =>
    exact .start backingDirectory fallback unused.descriptors
  | perform op _ before => exact .perform op before
  | outside _ change before => exact .outside before change

/-- A view that each operation changes as it tells, and that others cannot change, is told by the
history. -/
theorem Recorded.told_eq {α : Type} {view : Filesystem → Told α}
    {tell : Told α → Operation → Told α} {blank : Told α}
    (first : ∀ backingDirectory fallback store,
      view (Filesystem.start backingDirectory fallback store) = blank)
    (step : ∀ {fs after : Filesystem} {op : Operation} {r : Except Failure Reply}, fs.Sound →
      fs.Transition op r after → view after = Told.after tell (view fs) op r)
    (outside : ∀ (fs : Filesystem) (store : Store), view { fs with store } = view fs)
    (recorded : Recorded past fs) : view fs = past.told tell blank := by
  induction recorded with
  | start backingDirectory fallback _ => exact first backingDirectory fallback _
  | @perform past fs op before told =>
    have sound := before.reachable.sound
    rw [step sound (before.reachable.transition op), told]
    rfl
  | @outside past fs store _ _ told => exact (outside fs store).trans told

end Filesystem

end PatternFs
