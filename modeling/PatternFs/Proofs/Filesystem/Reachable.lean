import PatternFs.Proofs.Filesystem.Transition
import PatternFs.Proofs.Store.Descriptors

/-! The states of a mount: what operations make of a fresh one, in any order, while others change
the backing directory as they like. In all of them the entries keep their rules and no descriptor is
open that was not given out. -/
namespace PatternFs

namespace Filesystem

variable {fs base after : Filesystem} {path : Path} {e : Entry} {op : Operation}
  {r : Except Failure Reply}

/-- What holds between two operations, whatever others do. -/
structure Sound (fs : Filesystem) : Prop where
  formed : fs.catalog.WellFormed
  numbered : fs.store.Numbered

namespace Sound

theorem untouched (sound : fs.Sound) (same : fs.Untouched after) : after.Sound where
  formed := by
    rcases same.catalog with eq | eq <;> rw [eq]
    · exact sound.formed
    · exact sound.formed.takeSequence
  numbered := by
    rcases same.store with eq | eq <;> rw [eq]
    · exact sound.numbered
    · exact Store.numbered_passed sound.numbered

theorem resizeEntry (sound : fs.Sound) (path : Path) (size : Nat) :
    (fs.resizeEntry path size).Sound :=
  ⟨sound.formed.resize path size, sound.numbered⟩

theorem changeStore (sound : fs.Sound) {store : Store} (numbered : store.Numbered) :
    Sound { fs with store } := ⟨sound.formed, numbered⟩

theorem referred {d : Nat} (sound : fs.Sound) (found : fs.catalog.find? path = some e)
    (kind : e.kind = .delegated) (referred : fs.Referred path e d base) : base.Sound := by
  cases referred with
  | shared held =>
    exact ⟨sound.formed.modify (fun _ => rfl) fun _ _ rules => rules.acquire, sound.numbered⟩
  | opened closed there here =>
    refine ⟨sound.formed.modify (fun e => ?_) ?_, Store.numbered_register sound.numbered _⟩
    · unfold Entry.attach; split <;> rfl
    · intro entry here rules
      obtain rfl : e = entry := by rw [found] at here; cases here; rfl
      exact rules.attach kind _

theorem dropReference (sound : fs.Sound) (path : Path) : (fs.dropReference path).Sound := by
  unfold Filesystem.dropReference
  split
  · exact sound
  · exact ⟨sound.formed.modify (fun _ => rfl) fun _ _ rules => rules.release,
      Store.numbered_releaseAll sound.numbered _⟩

theorem forget (sound : fs.Sound) (path : Path) (e : Entry) : (fs.forget path e).Sound :=
  ⟨sound.formed.remove path, Store.numbered_releaseAll sound.numbered _⟩

theorem teardown (sound : fs.Sound) : fs.teardown.2.Sound :=
  ⟨.drained _, Store.numbered_releaseAll sound.numbered _⟩

end Sound

theorem Reached.numbered {target : Target} {store : Store} (reached : fs.Reached e target store)
    (numbered : fs.store.Numbered) : store.Numbered := by
  cases reached with
  | held => exact numbered
  | transient => exact Store.numbered_passed numbered

/-- One operation keeps the rules. -/
theorem Transition.sound (step : fs.Transition op r after) (sound : fs.Sound) : after.Sound := by
  have numbered := sound.numbered
  have sequenced := sound.formed.takeSequence
  cases step with
  | failed same => exact sound.untouched same
  | looked => exact sound
  | destroyed => exact sound.teardown
  | tornDown => exact sound.teardown
  | madeSynthetic place _ _ =>
    exact ⟨sequenced.put (Entry.wellFormed_synthetic place _ _), numbered⟩
  | resetSynthetic => exact sound.resizeEntry _ 0
  | madeDelegated place _ _ made _ =>
    exact ⟨sequenced.put (Entry.wellFormed_delegated place _ _),
      Store.numbered_register (made.numbered numbered) _⟩
  | resetOpen _ _ _ _ made _ =>
    exact ⟨sequenced.modify (fun _ => rfl) fun _ _ rules => (rules.resize 0).acquire,
      Store.numbered_passed (made.numbered numbered)⟩
  | resetClosed place found _ _ made _ =>
    refine ⟨sequenced.modify (fun e => ?_) ?_, Store.numbered_register (made.numbered numbered) _⟩
    · unfold Entry.attach; split <;> rfl
    · -- The resident entry is delegated, since its path is.
      intro e here rules
      have kind := Except.ok.inj (place.symm.trans (sound.formed.place here))
      exact (rules.resize 0).attach kind.symm _
  | openedSynthetic =>
    split
    · exact sound.resizeEntry _ 0
    · exact sound
  | openedDelegated found kind _ referred => exact sound.referred found kind referred
  | emptiedDelegated found kind _ referred _ =>
    have opened := sound.referred found kind referred
    exact (opened.resizeEntry _ 0).changeStore opened.numbered
  | read _ _ idle => exact sound.untouched idle.untouched
  | wroteSynthetic => exact sound.resizeEntry _ _
  | wroteNothing _ _ idle => exact (sound.untouched idle.untouched).resizeEntry _ _
  | wroteDelegated _ _ _ _ reached =>
    exact (sound.resizeEntry _ _).changeStore
      (Store.numbered_written (reached.numbered numbered) _ _ _)
  | brokeOff _ _ _ _ reached =>
    exact sound.changeStore (Store.numbered_written (reached.numbered numbered) _ _ _)
  | cutSynthetic => exact sound.resizeEntry _ _
  | cutDelegated =>
    exact (sound.resizeEntry _ _).changeStore (Store.numbered_passed numbered)
  | renamedSynthetic found kind _ place => exact ⟨sound.formed.move found (kind ▸ place), numbered⟩
  | renamedDelegated found kind _ place | renamedTwin found kind _ place =>
    exact ⟨sound.formed.move found (kind ▸ place), numbered⟩
  | unlinkedSynthetic => exact ⟨sound.formed.remove _, numbered⟩
  | @unlinkedDelegated path =>
    have unnamed : Store.Numbered { fs.store with names := fs.store.names.erase path.name } :=
      numbered
    exact (sound.changeStore unnamed).forget _ _
  | unlinkedMissing => exact sound.forget _ _
  | released => exact sound.dropReference _

/-- The states that a mount can be in while others use its backing directory. -/
inductive Reachable : Filesystem → Prop
  | start (backingDirectory : String) (fallback : Fallback) {store : Store} :
      store.descriptors = .empty → Reachable (start backingDirectory fallback store)
  | perform {fs : Filesystem} (op : Operation) : Reachable fs → Reachable (fs.perform op).2
  | outside {fs : Filesystem} {store : Store} : Reachable fs → fs.store.OutsideChange store →
      Reachable { fs with store }

theorem Reachable.sound (reachable : fs.Reachable) : fs.Sound := by
  induction reachable with
  | start _ _ unopened => exact ⟨.empty, fun d _ => by
    rw [Filesystem.start, unopened]
    rfl⟩
  | perform op _ sound =>
    exact (transition_perform sound.formed sound.numbered op).sound sound
  | outside _ change sound => exact sound.changeStore (change.numbered sound.numbered)

theorem Reachable.transition (reachable : fs.Reachable) (op : Operation) :
    fs.Transition op (fs.perform op).1 (fs.perform op).2 :=
  transition_perform reachable.sound.formed reachable.sound.numbered op

theorem Reachable.execute (reachable : fs.Reachable) (ops : List Operation) :
    (execute ops fs).Reachable := by
  induction ops generalizing fs with
  | nil => exact reachable
  | cons op rest ih => exact ih (.perform op reachable)

end Filesystem

end PatternFs
