import PatternFs.Proofs.Catalog.Views
import PatternFs.Proofs.Filesystem.Reachable

/-! The open descriptors belong to the entries, one to each entry that is open. So what happens to
the descriptor of one entry concerns no other entry. -/
namespace PatternFs

/-- Who holds which descriptor, and the descriptors that are open: each of these has one holder. -/
structure Owns (holds : Path → Option Nat) (descriptors : Table Nat OpenFile) : Prop where
  opened : ∀ path d, holds path = some d → ∃ target, descriptors.find? d = some ⟨target, 1⟩
  apart : ∀ path other d, holds path = some d → holds other = some d → path = other
  owned : ∀ d file, descriptors.find? d = some file → ∃ path, holds path = some d

namespace Owns

variable {holds : Path → Option Nat} {descriptors : Table Nat OpenFile} {path : Path} {d : Nat}

theorem single (owns : Owns holds descriptors) {file : OpenFile}
    (found : descriptors.find? d = some file) : file.holders = 1 := by
  obtain ⟨path, held⟩ := owns.owned d file found
  obtain ⟨target, open'⟩ := owns.opened path d held
  rw [found] at open'
  cases open'
  rfl

theorem nobody (empty : ∀ d, descriptors.find? d = none) : Owns (fun _ => none) descriptors where
  opened _ _ held := by cases held
  apart _ _ _ held := by cases held
  owned d file found := by rw [empty] at found; cases found

theorem take (owns : Owns holds descriptors) (new : descriptors.find? d = none)
    (free : holds path = none) (target : Target) :
    Owns (fun other => if other = path then some d else holds other)
      (descriptors.insert d ⟨target, 1⟩) := by
  have stranger : ∀ other, holds other ≠ some d := by
    intro other held
    obtain ⟨target, open'⟩ := owns.opened other d held
    rw [new] at open'
    cases open'
  constructor
  · intro other d' held
    rw [Table.find?_insert]
    split at held
    · cases held
      exact ⟨target, if_pos rfl⟩
    · obtain ⟨before, open'⟩ := owns.opened other d' held
      have different : d' ≠ d := by rintro rfl; exact stranger other held
      exact ⟨before, by rw [if_neg different, open']⟩
  · intro first second d' held held'
    split at held <;> split at held'
    · next eq eq' => exact eq.trans eq'.symm
    · cases held; exact absurd held' (stranger second)
    · cases held'; exact absurd held (stranger first)
    · exact owns.apart first second d' held held'
  · intro d' file found
    rw [Table.find?_insert] at found
    split at found
    · next eq => exact ⟨path, by rw [if_pos rfl, eq]⟩
    · obtain ⟨other, held⟩ := owns.owned d' file found
      have different : other ≠ path := by rintro rfl; rw [free] at held; cases held
      exact ⟨other, by rw [if_neg different, held]⟩

theorem drop (owns : Owns holds descriptors) (held : holds path = some d) :
    Owns (fun other => if other = path then none else holds other) (descriptors.erase d) := by
  constructor
  · intro other d' held'
    split at held'
    · cases held'
    · next different =>
      obtain ⟨target, open'⟩ := owns.opened other d' held'
      refine ⟨target, ?_⟩
      rw [Table.find?_erase_other _ ?_, open']
      rintro rfl
      exact different (owns.apart other path d' held' held)
  · intro first second d' held' held''
    split at held'
    · cases held'
    · split at held''
      · cases held''
      · exact owns.apart first second d' held' held''
  · intro d' file found
    rw [Table.find?_erase] at found
    split at found
    · cases found
    · next different =>
      obtain ⟨other, held'⟩ := owns.owned d' file found
      refine ⟨other, ?_⟩
      rw [if_neg ?_, held']
      rintro rfl
      rw [held] at held'
      cases held'
      exact different rfl

theorem move {old new : Path} (owns : Owns holds descriptors) (free : holds new = none) :
    Owns (fun other => if other = new then holds old else if other = old then none else holds other)
      descriptors := by
  constructor
  · intro other d' held
    split at held
    · exact owns.opened old d' held
    · split at held
      · cases held
      · exact owns.opened other d' held
  · intro first second d' held held'
    split at held <;> split at held'
    · next eq eq' => exact eq.trans eq'.symm
    · split at held'
      · cases held'
      · next notOld => exact absurd (owns.apart second old d' held' held) notOld
    · split at held
      · cases held
      · next notOld => exact absurd (owns.apart first old d' held held') notOld
    · split at held
      · cases held
      · split at held'
        · cases held'
        · exact owns.apart first second d' held held'
  · intro d' file found
    obtain ⟨other, held⟩ := owns.owned d' file found
    by_cases isOld : other = old
    · exact ⟨new, by rw [if_pos rfl, ← isOld, held]⟩
    · have notNew : other ≠ new := by rintro rfl; rw [free] at held; cases held
      exact ⟨other, by rw [if_neg notNew, if_neg isOld, held]⟩

end Owns

namespace Store

variable {s : Store}

theorem find?_releaseAll (single : ∀ d file, s.descriptors.find? d = some file → file.holders = 1)
    (ds : List Nat) (d : Nat) :
    (s.releaseAll ds).descriptors.find? d =
      if d ∈ ds then none else s.descriptors.find? d := by
  induction ds generalizing s with
  | nil => simp [releaseAll]
  | cons first rest ih =>
    have closed : (s.release first).descriptors = s.descriptors.erase first := by
      unfold release
      split
      · next several => cases single first _ several
      · rfl
    have single' : ∀ d file, (s.release first).descriptors.find? d = some file →
        file.holders = 1 := by
      intro d file found
      rw [closed, Table.find?_erase] at found
      split at found
      · cases found
      · exact single d file found
    have step : s.releaseAll (first :: rest) = (s.release first).releaseAll rest := rfl
    rw [step, ih single', closed, Table.find?_erase]
    by_cases isFirst : d = first
    · simp [isFirst]
    · simp [isFirst]

theorem descriptors_written (s : Store) (target : Target) (offset : Nat) (data : List UInt8) :
    (s.written target offset data).descriptors = s.descriptors := by
  cases target <;> rfl

end Store

namespace Filesystem

variable {fs base after : Filesystem} {path : Path} {e : Entry} {op : Operation}
  {r : Except Failure Reply}

theorem Untouched.view {α : Type} (same : fs.Untouched after) (f : Entry → Option α) :
    after.catalog.view f = fs.catalog.view f :=
  funext fun path => congrArg (Option.bind · f) (same.find? path)

def Owned (fs : Filesystem) : Prop :=
  Owns (fs.catalog.view Entry.descriptor?) fs.store.descriptors

namespace Owned

theorem still (owned : fs.Owned)
    (same : after.catalog.view Entry.descriptor? = fs.catalog.view Entry.descriptor?)
    (same' : after.store.descriptors = fs.store.descriptors) : after.Owned := by
  rw [Owned, same, same']
  exact owned

theorem untouched (owned : fs.Owned) (same : fs.Untouched after) : after.Owned :=
  owned.still (same.view _) (same.store_eq (f := Store.descriptors) rfl)

theorem resizeEntry (owned : fs.Owned) (path : Path) (size : Nat) :
    (fs.resizeEntry path size).Owned :=
  owned.still (Catalog.view_modify_same path fun _ => rfl) rfl

/-- A closed entry, or one that comes to live, takes a descriptor that was not given out before. -/
theorem take (owned : fs.Owned) (numbered : fs.store.Numbered) (path : Path)
    (free : fs.catalog.view Entry.descriptor? path = none) (target : Target)
    (holds : after.catalog.view Entry.descriptor? = fun other =>
      if other = path then some fs.store.nextDescriptor
      else fs.catalog.view Entry.descriptor? other)
    (opened : after.store.descriptors =
      fs.store.descriptors.insert fs.store.nextDescriptor ⟨target, 1⟩) : after.Owned := by
  rw [Owned, holds, opened]
  exact Owns.take owned (numbered _ (Nat.le_refl _)) free target

theorem referred {d : Nat} (owned : fs.Owned) (numbered : fs.store.Numbered)
    (found : fs.catalog.find? path = some e) (referred : fs.Referred path e d base) :
    base.Owned := by
  cases referred with
  | shared => exact owned.still (Catalog.view_modify_same path fun _ => by simp) rfl
  | opened closed _ _ =>
    refine owned.take numbered path ?_ _ ?_ rfl
    · rw [Catalog.view_of_find? found, Entry.descriptor?, closed]
      rfl
    · rw [Catalog.view_modify found, Entry.descriptor?_attach closed]

theorem dropReference (owned : fs.Owned) (path : Path) : (fs.dropReference path).Owned := by
  unfold Filesystem.dropReference
  cases found : fs.catalog.find? path with
  | none => exact owned
  | some e =>
    simp only []
    have holds : (fs.catalog.modify path Entry.release).view Entry.descriptor? = fun other =>
        if other = path then (if e.lastDescriptor?.isSome then none else e.descriptor?)
        else fs.catalog.view Entry.descriptor? other := by
      rw [Catalog.view_modify found, Entry.descriptor?_release]
    cases last : e.lastDescriptor? with
    | none =>
      refine owned.still ?_ (by rfl)
      change (fs.catalog.modify path Entry.release).view Entry.descriptor? = _
      rw [holds, last]
      funext other
      split
      · next eq => rw [eq, Catalog.view_of_find? found]; rfl
      · rfl
    | some d =>
      have held : fs.catalog.view Entry.descriptor? path = some d := by
        rw [Catalog.view_of_find? found, Entry.descriptor?_of_last last]
      obtain ⟨target, opened⟩ := owned.opened path d held
      have closed : (fs.store.releaseAll [d]).descriptors = fs.store.descriptors.erase d := by
        rw [Store.releaseAll, List.foldl_cons, List.foldl_nil, Store.release_last opened]
      change Owns ((fs.catalog.modify path Entry.release).view Entry.descriptor?)
        (fs.store.releaseAll [d]).descriptors
      rw [holds, closed, last]
      exact Owns.drop owned held

theorem forget (owned : fs.Owned) (found : fs.catalog.find? path = some e) :
    (fs.forget path e).Owned := by
  have holds : e.descriptor? = fs.catalog.view Entry.descriptor? path :=
    (Catalog.view_of_find? found).symm
  change Owns ((fs.catalog.remove path).view Entry.descriptor?)
    (fs.store.releaseAll e.descriptor?.toList).descriptors
  rw [holds]
  cases held : fs.catalog.view Entry.descriptor? path with
  | none =>
    rw [Catalog.view_remove_same held]
    exact owned
  | some d =>
    obtain ⟨target, opened⟩ := owned.opened path d held
    rw [Catalog.view_remove, Option.toList_some, Store.releaseAll, List.foldl_cons, List.foldl_nil,
      Store.release_last opened]
    exact Owns.drop owned held

theorem move {old new : Path} (owned : fs.Owned) (found : fs.catalog.find? old = some e)
    (vacant : fs.catalog.find? new = none) (moved : after.catalog = fs.catalog.move old new)
    (same : after.store.descriptors = fs.store.descriptors) : after.Owned := by
  rw [Owned, moved, same, Catalog.view_move _ (fun _ => rfl) found]
  exact Owns.move owned (Catalog.view_of_vacant vacant)

theorem teardown (owned : fs.Owned) : fs.teardown.2.Owned := by
  refine Owns.nobody fun d => ?_
  change (fs.store.releaseAll _).descriptors.find? d = none
  rw [Store.find?_releaseAll fun _ _ found => Owns.single owned found]
  split
  · rfl
  · next notHeld =>
    cases opened : fs.store.descriptors.find? d with
    | none => rfl
    | some file =>
      obtain ⟨path, held⟩ := owned.owned d file opened
      obtain ⟨e, found, holding⟩ := Option.bind_eq_some_iff.1 held
      obtain ⟨h, here, rfl⟩ := Option.map_eq_some_iff.1 holding
      refine absurd (List.mem_map.2 ⟨h, List.mem_filterMap.2 ⟨e, ?_, here⟩, rfl⟩) notHeld
      exact List.mem_map.2 ⟨(path, e), Table.mem_rows_iff.2 found, rfl⟩

end Owned

/-- One operation keeps the descriptors with the entries. -/
theorem Transition.owned (step : fs.Transition op r after) (sound : fs.Sound) (owned : fs.Owned) :
    after.Owned := by
  have numbered := sound.numbered
  cases step with
  | failed same => exact owned.untouched same
  | looked => exact owned
  | destroyed => exact owned.teardown
  | tornDown => exact owned.teardown
  | madeSynthetic _ vacant _ =>
    exact owned.still (Catalog.view_put_same vacant rfl) rfl
  | resetSynthetic => exact owned.resizeEntry _ 0
  | @madeDelegated _ _ _ _ target _ _ vacant _ made _ =>
    obtain ⟨same, next', -⟩ := made.descriptors
    refine owned.take numbered _ (Catalog.view_of_vacant vacant) target
      (Catalog.view_put _) ?_
    rw [Store.register, same, next']
  | resetOpen _ _ _ _ made _ =>
    exact owned.still (Catalog.view_modify_same _ fun _ => by simp) made.descriptors.1
  | @resetClosed path _ _ _ target _ e _ found _ _ made closed =>
    obtain ⟨same, next', -⟩ := made.descriptors
    refine owned.take numbered path ?_ target ?_ ?_
    · rw [Catalog.view_of_find? found, Entry.descriptor?, closed]
      rfl
    · rw [Catalog.view_modify ((Catalog.find?_takeSequence _ _).trans found),
        Entry.descriptor?_attach (e := e.resize 0) closed, Catalog.view_takeSequence]
    · rw [Store.register, same, next']
  | openedSynthetic =>
    split
    · exact owned.resizeEntry _ 0
    · exact owned
  | openedDelegated found _ _ referred => exact owned.referred numbered found referred
  | emptiedDelegated found _ _ referred _ =>
    have opened := owned.referred numbered found referred
    exact (opened.resizeEntry _ 0).still rfl rfl
  | read _ _ idle => exact owned.untouched idle.untouched
  | wroteSynthetic => exact owned.resizeEntry _ _
  | wroteNothing _ _ idle => exact (owned.untouched idle.untouched).resizeEntry _ _
  | wroteDelegated _ _ _ _ reached =>
    refine (owned.resizeEntry _ _).still rfl ?_
    cases reached <;> exact Store.descriptors_written _ _ _ _
  | brokeOff _ _ _ _ reached =>
    refine owned.still rfl ?_
    cases reached <;> exact Store.descriptors_written _ _ _ _
  | cutSynthetic => exact owned.resizeEntry _ _
  | cutDelegated => exact (owned.resizeEntry _ _).still rfl rfl
  | renamedSynthetic found _ vacant _ => exact owned.move found vacant rfl rfl
  | renamedDelegated found _ vacant _ | renamedTwin found _ vacant _ =>
    exact owned.move found vacant rfl rfl
  | @unlinkedSynthetic path e found kind =>
    refine owned.still (Catalog.view_remove_same ?_) rfl
    rw [Catalog.view_of_find? found, Entry.descriptor?,
      (sound.formed.formed path e found).closed kind]
    rfl
  | @unlinkedDelegated path e _ found =>
    have unnamed : Owned { fs with
        store := { fs.store with names := fs.store.names.erase path.name } } := owned
    exact unnamed.forget found
  | unlinkedMissing found => exact owned.forget found
  | released => exact owned.dropReference _

theorem Reachable.owned (reachable : fs.Reachable) : fs.Owned := by
  induction reachable with
  | start _ _ unopened =>
    refine Owns.nobody fun d => ?_
    rw [Filesystem.start, unopened]
    rfl
  | perform op before owned => exact (before.transition op).owned before.sound owned
  | outside _ change owned => exact owned.still rfl change.descriptors

end Filesystem

end PatternFs
