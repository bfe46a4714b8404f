import PatternFs.Proofs.Filesystem.History

/-! Where descriptors go. Each one that was ever given out is either open, and then one entry holds
it, or it was closed, and that once. An operation may take a descriptor and close others, but it
leaves none behind, whichever of its steps fails. -/
namespace PatternFs

namespace Filesystem

variable {fs base after : Filesystem} {path : Path} {e : Entry} {op : Operation}
  {r : Except Failure Reply} {past : History}

/-- The entry at `path` holds the descriptor `d`. -/
def Holds (fs : Filesystem) (path : Path) (d : Nat) : Prop :=
  ∃ e h, fs.catalog.find? path = some e ∧ e.holding? = some h ∧ h.descriptor = d

theorem holds_iff {d : Nat} :
    fs.Holds path d ↔ fs.catalog.view Entry.descriptor? path = some d := by
  constructor
  · rintro ⟨e, h, found, held, rfl⟩
    rw [Catalog.view_of_find? found, Entry.descriptor?, held]
    rfl
  · intro viewed
    obtain ⟨e, found, holding⟩ := Option.bind_eq_some_iff.1 viewed
    obtain ⟨h, held, descriptor⟩ := Option.map_eq_some_iff.1 holding
    exact ⟨e, h, found, held, descriptor⟩

theorem holds_congr
    (same : after.catalog.view Entry.descriptor? = fs.catalog.view Entry.descriptor?) (d : Nat) :
    after.Holds path d ↔ fs.Holds path d := by
  rw [holds_iff, holds_iff, same]

theorem holds_of_find? (found : fs.catalog.find? path = some e) (d : Nat) :
    fs.Holds path d ↔ e.descriptor? = some d := by
  rw [holds_iff, Catalog.view_of_find? found]

theorem Holds.unique {d other : Nat} (holds : fs.Holds path d) (holds' : fs.Holds path other) :
    d = other :=
  Option.some.inj ((holds_iff.1 holds).symm.trans (holds_iff.1 holds'))

namespace Owned

theorem isOpen_iff (owned : fs.Owned) (d : Nat) :
    fs.store.IsOpen d ↔ ∃ path, fs.Holds path d := by
  constructor
  · rintro ⟨file, found⟩
    obtain ⟨path, held⟩ := owned.owned d file found
    exact ⟨path, holds_iff.2 held⟩
  · rintro ⟨path, held⟩
    obtain ⟨target, opened⟩ := owned.opened path d (holds_iff.1 held)
    exact ⟨_, opened⟩

theorem closes (owned : fs.Owned) {ds : List Nat} {store : Store} (once : ds.Nodup)
    (held : ∀ d ∈ ds, ∃ path, fs.Holds path d)
    (change : (fs.store.releaseAll ds).OutsideChange store) : fs.store.Turnover store := by
  refine .closed once (fun d member => ?_) change
  obtain ⟨path, holds⟩ := held d member
  exact owned.opened path d (holds_iff.1 holds)

/-- An entry lets go of its descriptor, if that is what happens to it. -/
theorem closes_one (owned : fs.Owned) (found : fs.catalog.find? path = some e) {d? : Option Nat}
    {store : Store} (held : ∀ d, d? = some d → e.descriptor? = some d)
    (change : (fs.store.releaseAll d?.toList).OutsideChange store) :
    fs.store.Turnover store := by
  refine owned.closes ?_ (fun d member => ⟨path, holds_iff.2 ?_⟩) change
  · cases d? <;> simp
  · rw [Catalog.view_of_find? found]
    exact held d (Option.mem_toList.1 member)

theorem held_nodup (owned : fs.Owned) :
    ((fs.catalog.entries.values.filterMap (·.holding?)).map Holding.descriptor).Nodup := by
  rw [List.map_filterMap, Table.values, List.filterMap_map, List.Nodup, List.pairwise_filterMap]
  have apart := List.pairwise_map.1 fs.catalog.entries.distinct
  refine apart.imp_of_mem ?_
  rintro ⟨path, e⟩ ⟨other, e'⟩ member member' different d held d' held' rfl
  have view : fs.catalog.view Entry.descriptor? path = some d := by
    rw [Catalog.view_of_find? (Table.mem_rows_iff.1 member)]
    exact held
  have view' : fs.catalog.view Entry.descriptor? other = some d := by
    rw [Catalog.view_of_find? (Table.mem_rows_iff.1 member')]
    exact held'
  exact different (owned.apart path other d view view')

theorem holds_of_held {d : Nat}
    (member : d ∈ (fs.catalog.entries.values.filterMap (·.holding?)).map Holding.descriptor) :
    ∃ path, fs.Holds path d := by
  obtain ⟨h, held, rfl⟩ := List.mem_map.1 member
  obtain ⟨e, live, holding⟩ := List.mem_filterMap.1 held
  obtain ⟨⟨path, _⟩, row, rfl⟩ := List.mem_map.1 live
  exact ⟨path, _, h, Table.mem_rows_iff.1 row, holding, rfl⟩

end Owned

theorem Untouched.turnover (same : fs.Untouched after) : fs.store.Turnover after.store := by
  rcases same.store with eq | eq <;> rw [eq]
  · exact .kept (.refl _)
  · exact .passed (.refl _)

theorem Referred.turnover {d : Nat} (referred : fs.Referred path e d base) :
    fs.store.Turnover base.store := by
  cases referred with
  | shared => exact .kept (.refl _)
  | opened => exact .taken _ (.refl _)

theorem Owned.turnover_dropReference (owned : fs.Owned) (path : Path) :
    fs.store.Turnover (fs.dropReference path).store := by
  unfold Filesystem.dropReference
  cases found : fs.catalog.find? path with
  | none => exact .kept (.refl _)
  | some e => exact owned.closes_one found (fun d last => Entry.descriptor?_of_last last) (.refl _)

/-- One operation leaves no descriptor behind. -/
theorem Transition.turnover (step : fs.Transition op r after) (owned : fs.Owned) :
    fs.store.Turnover after.store := by
  cases step with
  | failed same => exact same.turnover
  | looked => exact .kept (.refl _)
  | destroyed | tornDown =>
    exact owned.closes owned.held_nodup (fun d => Owned.holds_of_held) (.refl _)
  | madeSynthetic => exact .kept (.refl _)
  | resetSynthetic => exact .kept (.refl _)
  | madeDelegated _ _ _ made _ => exact .taken _ (made.change.register _)
  | resetOpen _ _ _ _ made _ => exact .passed made.change.passed
  | resetClosed _ _ _ _ made _ => exact .taken _ (made.change.register _)
  | openedSynthetic => split <;> exact .kept (.refl _)
  | openedDelegated _ _ _ referred => exact referred.turnover
  | emptiedDelegated _ _ _ referred _ => exact referred.turnover.change ⟨rfl, rfl, rfl⟩
  | read _ _ idle => exact idle.untouched.turnover
  | wroteSynthetic => exact .kept (.refl _)
  | wroteNothing _ _ idle => exact idle.untouched.turnover
  | wroteDelegated _ _ _ _ reached | brokeOff _ _ _ _ reached =>
    cases reached with
    | held => exact .kept (Store.outsideChange_written _ _ _ _)
    | transient => exact .passed (Store.outsideChange_written _ _ _ _)
  | cutSynthetic => exact .kept (.refl _)
  | cutDelegated => exact .passed ⟨rfl, rfl, rfl⟩
  | renamedSynthetic => exact .kept (.refl _)
  | renamedDelegated => exact .kept ⟨rfl, rfl, rfl⟩
  | renamedTwin => exact .kept (.refl _)
  | unlinkedSynthetic => exact .kept (.refl _)
  | unlinkedDelegated found =>
    refine owned.closes_one found (fun d held => held) (.releaseAll ?_ _)
    exact ⟨rfl, rfl, rfl⟩
  | unlinkedMissing found => exact owned.closes_one found (fun d held => held) (.refl _)
  | released => exact owned.turnover_dropReference _

theorem Recorded.conserved (recorded : Recorded past fs) : fs.store.Conserved := by
  induction recorded with
  | start _ _ unused => exact .of_unused unused
  | perform op before conserved =>
    have reachable := before.reachable
    exact ((reachable.transition op).turnover reachable.owned).conserved conserved
  | outside _ change conserved => exact conserved.change change

theorem Owned.closed_forget (owned : fs.Owned) (found : fs.catalog.find? path = some e) :
    (fs.forget path e).store.closed = e.descriptor?.toList ++ fs.store.closed := by
  change (fs.store.releaseAll e.descriptor?.toList).closed = _
  cases held : e.descriptor? with
  | none => rfl
  | some d =>
    obtain ⟨target, opened⟩ := owned.opened path d ((Catalog.view_of_find? found).trans held)
    rw [Option.toList_some, Store.releaseAll, List.foldl_cons, List.foldl_nil,
      Store.release_last opened]
    rfl

theorem Transition.closed_unlink (step : fs.Transition (.unlink path) (.ok .done) after)
    (sound : fs.Sound) (owned : fs.Owned) (d : Nat) :
    d ∈ after.store.closed ↔ fs.Holds path d ∨ d ∈ fs.store.closed := by
  cases step with
  | looked looks => cases looks
  | unlinkedSynthetic found kind =>
    have nothing := (sound.formed.formed path _ found).closed kind
    simp [holds_of_find? found, Entry.descriptor?, nothing]
  | unlinkedDelegated found =>
    have unnamed : Owned { fs with
        store := { fs.store with names := fs.store.names.erase path.name } } := owned
    rw [unnamed.closed_forget found, List.mem_append, Option.mem_toList, holds_of_find? found]
  | unlinkedMissing found =>
    rw [owned.closed_forget found, List.mem_append, Option.mem_toList, holds_of_find? found]

theorem Transition.find?_unlinked (step : fs.Transition (.unlink path) (.ok .done) after) :
    after.catalog.find? path = none := by
  cases step with
  | looked looks => cases looks
  | unlinkedSynthetic | unlinkedDelegated | unlinkedMissing =>
    exact (Catalog.find?_remove _ _ _).trans (if_pos rfl)

theorem teardown_count (fs : Filesystem) :
    fs.teardown.1 = fs.catalog.entries.values.countP Entry.isOpen :=
  List.length_filterMap_eq_countP

theorem Owned.teardown_isOpen (owned : fs.Owned) (d : Nat) : ¬ fs.teardown.2.store.IsOpen d := by
  intro opened
  obtain ⟨path, e, h, found, -⟩ := (owned.teardown.isOpen_iff d).1 opened
  cases found

/-- Every descriptor that was given out is either held by one entry, and open, or it was closed, and
that once. -/
structure Accounted (fs : Filesystem) : Prop extends fs.store.Conserved where
  isOpen : ∀ d, fs.store.IsOpen d ↔ ∃ path, fs.Holds path d
  apart : ∀ path other d, fs.Holds path d → fs.Holds other d → path = other

theorem Recorded.accounted (recorded : Recorded past fs) : fs.Accounted := by
  have owned := recorded.reachable.owned
  refine ⟨recorded.conserved, owned.isOpen_iff, fun path other d held held' => ?_⟩
  exact owned.apart path other d (holds_iff.1 held) (holds_iff.1 held')

/-- In every state of a mount the open descriptors are those that the entries hold. What an
operation opens is held or closed when it ends, whichever of its steps failed; unlinking closes what
the entry held, and tearing down closes all there is and touches no file. -/
theorem descriptors_of_recorded (recorded : Recorded past fs) :
    fs.Accounted ∧
      (∀ op, let after := (fs.perform op).2
        after.Accounted ∧ fs.store.closed <:+ after.store.closed ∧
          ∀ d, fs.store.nextDescriptor ≤ d → d < after.store.nextDescriptor →
            d ∈ after.store.closed ∨ ∃ path, after.Holds path d) ∧
      (∀ path, let after := (fs.perform (.unlink path)).2
        (fs.perform (.unlink path)).1 = .ok .done →
          after.catalog.find? path = none ∧
            ∀ d, d ∈ after.store.closed ↔ fs.Holds path d ∨ d ∈ fs.store.closed) ∧
      let after := (fs.perform .teardown).2
      (fs.perform .teardown).1 = .ok (.count (fs.catalog.entries.values.countP Entry.isOpen)) ∧
        after.catalog.entries = .empty ∧ (∀ d, ¬ after.store.IsOpen d) ∧
        after.store.names = fs.store.names ∧ after.store.files = fs.store.files ∧
        (after.perform .teardown).1 = .ok (.count 0) := by
  have reachable := recorded.reachable
  have sound := reachable.sound
  have owned := reachable.owned
  refine ⟨recorded.accounted, fun op => ?_, fun path removed => ?_, ?_⟩
  · have accounted := (recorded.perform op).accounted
    have turnover := (reachable.transition op).turnover owned
    refine ⟨accounted, turnover.closed_suffix, fun d _ taken => ?_⟩
    rw [← accounted.isOpen]
    exact (accounted.given d).1 taken
  · have step := reachable.transition (.unlink path)
    rw [removed] at step
    exact ⟨step.find?_unlinked, step.closed_unlink sound owned⟩
  · have same := Store.sameFiles_releaseAll fs.store
      ((fs.catalog.entries.values.filterMap (·.holding?)).map Holding.descriptor)
    refine ⟨?_, rfl, owned.teardown_isOpen, same.names, same.files, rfl⟩
    rw [← teardown_count]
    rfl

/-- A second creation finds the file open, and others take the file away. The other file is closed
when it is read. What was opened on the way is closed, and the first descriptor is still held. -/
theorem descriptors_of_recreated :
    let a : Path := ⟨["a.mhash"], by simp [IsComponent]⟩
    let b : Path := ⟨["b.mhash"], by simp [IsComponent]⟩
    let twice := execute [.create a 0o644 (.ofBits 6), .create a 0o644 (.ofBits 6)]
      (start "/d" .counter .empty)
    let store := (twice.store.outside "a.mhash" .remove).2
    let fs := execute [.truncate a 0, .create b 0o644 (.ofBits 6), .release b, .read b 0 1]
      { twice with store }
    fs.store.closed = [3, 2, 1] ∧ fs.store.IsOpen 0 ∧ (∃ path, fs.Holds path 0) ∧
      (fs.perform .teardown).1 = .ok (.count 1) := by
  intro a b twice store fs
  have first : Recorded [] (start "/d" .counter .empty) := .start "/d" .counter ⟨rfl, rfl, rfl⟩
  have before : Recorded _ twice := .perform (.create a _ _) (.perform (.create a _ _) first)
  have change := Store.outsideChange_outside twice.store "a.mhash" .remove
  have recorded : Recorded _ fs :=
    .perform (.read b 0 1) (.perform (.release b) (.perform (.create b _ _)
      (.perform (.truncate a 0) (.outside before change))))
  obtain ⟨accounted, -, -, answer, -⟩ := descriptors_of_recorded recorded
  have opened : fs.store.IsOpen 0 := ⟨⟨.file 0, 1⟩, by decide +kernel⟩
  refine ⟨by decide +kernel, opened, (accounted.isOpen 0).1 opened, answer.trans ?_⟩
  have one : fs.catalog.entries.values.countP Entry.isOpen = 1 := by decide +kernel
  rw [one]

end Filesystem

end PatternFs
