import PatternFs.Proofs.Store.Outcomes
import PatternFs.Store.Outside

/-! What becomes of the descriptors of a store. Each one that was ever given out is open or was
closed, and that once, as long as only open ones are let go of. -/
namespace PatternFs.Store

variable {s t u : Store} {d : Nat}

/-- What others cannot change: they have no part in the descriptors. -/
structure OutsideChange (s t : Store) : Prop where
  descriptors : t.descriptors = s.descriptors
  nextDescriptor : t.nextDescriptor = s.nextDescriptor
  closed : t.closed = s.closed

theorem OutsideChange.trans {u : Store} (first : s.OutsideChange t) (second : t.OutsideChange u) :
    s.OutsideChange u :=
  ⟨second.descriptors.trans first.descriptors, second.nextDescriptor.trans first.nextDescriptor,
    second.closed.trans first.closed⟩

theorem outsideChange_outside (s : Store) (name : String) (deed : Deed) :
    s.OutsideChange (s.outside name deed).2 where
  descriptors := (descriptors_outside s name deed).1
  nextDescriptor := by
    unfold outside
    split
    · cases deed <;> simp only [outsideTop, remove, atFree] <;> repeat' split
      all_goals rfl
    · split <;> rfl
  closed := (descriptors_outside s name deed).2

theorem OutsideChange.numbered (change : s.OutsideChange t) (numbered : s.Numbered) :
    t.Numbered := by
  rw [Numbered, change.descriptors, change.nextDescriptor]
  exact numbered

theorem numbered_releaseAll (numbered : s.Numbered) (ds : List Nat) :
    (s.releaseAll ds).Numbered := by
  induction ds generalizing s with
  | nil => exact numbered
  | cons d rest ih => exact ih (numbered_release numbered d)

theorem numbered_written (numbered : s.Numbered) (target : Target) (offset : Nat)
    (data : List UInt8) : (s.written target offset data).Numbered := by
  cases target <;> exact numbered

/-- No descriptor was ever given out. -/
structure Unused (s : Store) : Prop where
  descriptors : s.descriptors = .empty
  nextDescriptor : s.nextDescriptor = 0
  closed : s.closed = []

def IsOpen (s : Store) (d : Nat) : Prop := ∃ file, s.descriptors.find? d = some file

theorem OutsideChange.refl (s : Store) : s.OutsideChange s := ⟨rfl, rfl, rfl⟩

theorem OutsideChange.isOpen (change : s.OutsideChange t) : t.IsOpen d ↔ s.IsOpen d := by
  rw [IsOpen, IsOpen, change.descriptors]

/-- Every descriptor that was given out is open or was closed, and none was closed twice. -/
structure Conserved (s : Store) : Prop where
  given : ∀ d, d < s.nextDescriptor ↔ d ∈ s.closed ∨ s.IsOpen d
  gone : ∀ d ∈ s.closed, ¬ s.IsOpen d
  once : s.closed.Nodup

namespace Conserved

theorem of_unused (unused : s.Unused) : s.Conserved := by
  have nothing (d : Nat) : ¬ s.IsOpen d := by
    rintro ⟨file, found⟩
    rw [unused.descriptors] at found
    cases found
  refine ⟨fun d => ?_, fun d _ => nothing d, ?_⟩
  · simp [unused.nextDescriptor, unused.closed, nothing d]
  · rw [unused.closed]
    exact List.nodup_nil

theorem congr (conserved : s.Conserved) (isOpen : ∀ d, t.IsOpen d ↔ s.IsOpen d)
    (next : t.nextDescriptor = s.nextDescriptor) (closed : t.closed = s.closed) :
    t.Conserved where
  given d := by
    rw [next, closed, isOpen]
    exact conserved.given d
  gone d shut := by
    rw [isOpen]
    rw [closed] at shut
    exact conserved.gone d shut
  once := by
    rw [closed]
    exact conserved.once

theorem change (conserved : s.Conserved) (change : s.OutsideChange t) : t.Conserved :=
  conserved.congr (fun _ => change.isOpen) change.nextDescriptor change.closed

theorem numbered (conserved : s.Conserved) : s.Numbered := by
  intro d unknown
  cases found : s.descriptors.find? d with
  | none => rfl
  | some file => exact absurd ((conserved.given d).2 (.inr ⟨file, found⟩)) (Nat.not_lt.2 unknown)

theorem next_new (conserved : s.Conserved) :
    s.nextDescriptor ∉ s.closed ∧ ¬ s.IsOpen s.nextDescriptor :=
  not_or.1 fun known => Nat.lt_irrefl _ ((conserved.given _).2 known)

theorem register (conserved : s.Conserved) (target : Target) : (s.register target).2.Conserved := by
  have isOpen (d : Nat) : (s.register target).2.IsOpen d ↔ d = s.nextDescriptor ∨ s.IsOpen d := by
    rw [IsOpen, find?_register]
    split
    · next eq => simp [eq]
    · next different => simp [different, IsOpen]
  refine ⟨fun d => ?_, fun d closed => ?_, conserved.once⟩
  · have before := conserved.given d
    change d < s.nextDescriptor + 1 ↔ d ∈ s.closed ∨ _
    rw [isOpen, Nat.lt_succ_iff_lt_or_eq, before, or_assoc, or_comm (a := s.IsOpen d)]
  · rw [isOpen]
    rintro (rfl | open')
    · exact conserved.next_new.1 closed
    · exact conserved.gone d closed open'

theorem passed (conserved : s.Conserved) : s.passed.Conserved := by
  obtain ⟨new, shut⟩ := conserved.next_new
  refine ⟨fun d => ?_, fun d closed => ?_, List.nodup_cons.2 ⟨new, conserved.once⟩⟩
  · have before := conserved.given d
    change d < s.nextDescriptor + 1 ↔ d ∈ s.nextDescriptor :: s.closed ∨ s.IsOpen d
    rw [Nat.lt_succ_iff_lt_or_eq, before, List.mem_cons, or_comm, or_assoc]
  · rcases List.mem_cons.1 closed with rfl | before
    · exact shut
    · exact conserved.gone d before

theorem release (conserved : s.Conserved) {target : Target}
    (opened : s.descriptors.find? d = some ⟨target, 1⟩) : (s.release d).Conserved := by
  have isOpen (other : Nat) : (s.release d).IsOpen other ↔ other ≠ d ∧ s.IsOpen other := by
    rw [IsOpen, release_last opened, Table.find?_erase]
    split
    · next eq => simp [eq]
    · next different => simp [different, IsOpen]
  have closed : (s.release d).closed = d :: s.closed := by rw [release_last opened]
  have next' : (s.release d).nextDescriptor = s.nextDescriptor := by rw [release_last opened]
  refine ⟨fun other => ?_, fun other shut => ?_, ?_⟩
  · have here : s.IsOpen d := ⟨_, opened⟩
    rw [next', conserved.given, isOpen, closed, List.mem_cons]
    by_cases eq : other = d
    · simp [eq, here]
    · simp [eq]
  · rw [isOpen]
    rintro ⟨different, open'⟩
    rw [closed, List.mem_cons] at shut
    exact conserved.gone other (shut.resolve_left different) open'
  · rw [closed]
    exact List.nodup_cons.2 ⟨fun shut => conserved.gone d shut ⟨_, opened⟩, conserved.once⟩

theorem releaseAll (conserved : s.Conserved) {ds : List Nat} (once : ds.Nodup)
    (opened : ∀ d ∈ ds, ∃ target, s.descriptors.find? d = some ⟨target, 1⟩) :
    (s.releaseAll ds).Conserved := by
  induction ds generalizing s with
  | nil => exact conserved
  | cons d rest ih =>
    obtain ⟨target, here⟩ := opened d List.mem_cons_self
    obtain ⟨apart, later⟩ := List.nodup_cons.1 once
    refine ih (conserved.release here) later fun other member => ?_
    obtain ⟨target, there⟩ := opened other (List.mem_cons_of_mem d member)
    refine ⟨target, ?_⟩
    rw [find?_release s (by rintro rfl; exact apart member), there]

end Conserved

/-- Letting go of a descriptor either records one more close or finds another holder. -/
theorem closed_release (s : Store) (d : Nat) : s.closed <:+ (s.release d).closed := by
  unfold release
  split
  · exact List.suffix_rfl
  · exact List.suffix_cons _ _

theorem closed_releaseAll (s : Store) (ds : List Nat) :
    s.closed <:+ (s.releaseAll ds).closed := by
  induction ds generalizing s with
  | nil => exact List.suffix_rfl
  | cons d rest ih => exact (closed_release s d).trans (ih (s.release d))

/-- What an operation does to the descriptors: it keeps them, takes and closes one, takes one, or
closes some that were open. -/
inductive Turnover (s : Store) : Store → Prop
  | kept {t : Store} : s.OutsideChange t → Turnover s t
  | passed {t : Store} : s.passed.OutsideChange t → Turnover s t
  | taken {t : Store} (target : Target) : (s.register target).2.OutsideChange t → Turnover s t
  | closed {t : Store} {ds : List Nat} : ds.Nodup →
      (∀ d ∈ ds, ∃ target, s.descriptors.find? d = some ⟨target, 1⟩) →
      (s.releaseAll ds).OutsideChange t → Turnover s t

namespace Turnover

theorem conserved (turnover : s.Turnover t) (conserved : s.Conserved) : t.Conserved := by
  cases turnover with
  | kept change => exact conserved.change change
  | passed change => exact conserved.passed.change change
  | taken target change => exact (conserved.register target).change change
  | closed once opened change => exact (conserved.releaseAll once opened).change change

theorem closed_suffix (turnover : s.Turnover t) : s.closed <:+ t.closed := by
  cases turnover with
  | kept change => exact change.closed ▸ List.suffix_rfl
  | passed change =>
    rw [change.closed]
    exact List.suffix_cons _ _
  | taken target change => exact change.closed ▸ List.suffix_rfl
  | closed _ _ change =>
    rw [change.closed]
    exact closed_releaseAll s _

theorem change (turnover : s.Turnover t) (change : t.OutsideChange u) : s.Turnover u := by
  cases turnover with
  | kept before => exact .kept (before.trans change)
  | passed before => exact .passed (before.trans change)
  | taken target before => exact .taken target (before.trans change)
  | closed once opened before => exact .closed once opened (before.trans change)

end Turnover

theorem Made.change {name : String} {mode : Nat} {target : Target}
    (made : s.Made name mode target t) : s.OutsideChange t := by
  obtain ⟨descriptors, next', closed⟩ := made.descriptors
  exact ⟨descriptors, next', closed⟩

theorem outsideChange_written (s : Store) (target : Target) (offset : Nat) (data : List UInt8) :
    s.OutsideChange (s.written target offset data) := by
  cases target <;> exact ⟨rfl, rfl, rfl⟩

namespace OutsideChange

theorem register (change : s.OutsideChange t) (target : Target) :
    (s.register target).2.OutsideChange (t.register target).2 := by
  refine ⟨?_, ?_, change.closed⟩
  · simp only [Store.register, change.descriptors, change.nextDescriptor]
  · simp only [Store.register, change.nextDescriptor]

theorem passed (change : s.OutsideChange t) : s.passed.OutsideChange t.passed := by
  refine ⟨change.descriptors, ?_, ?_⟩
  · simp only [Store.passed, change.nextDescriptor]
  · simp only [Store.passed, change.nextDescriptor, change.closed]

theorem release (change : s.OutsideChange t) (d : Nat) :
    (s.release d).OutsideChange (t.release d) := by
  unfold Store.release
  rw [change.descriptors, change.closed]
  split <;> exact ⟨rfl, change.nextDescriptor, rfl⟩

theorem releaseAll (change : s.OutsideChange t) (ds : List Nat) :
    (s.releaseAll ds).OutsideChange (t.releaseAll ds) := by
  induction ds generalizing s t with
  | nil => exact change
  | cons d rest ih => exact ih (change.release d)

end OutsideChange

end PatternFs.Store
