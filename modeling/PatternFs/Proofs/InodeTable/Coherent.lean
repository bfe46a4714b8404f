import PatternFs.InodeTable

/-! The two directions of an inode table say the same: a number stands for a path exactly when the
path has that number. The root has the first number, and the numbers still to come are above all
that stand for something. Every change of the table that leaves the root alone keeps this. -/
namespace PatternFs.InodeTable

variable {t : InodeTable} {path old new : Path} {moved : Nat}

theorem assign_known {number : Nat} (known : t.number? path = some number) :
    t.assign path = (number, t) := by
  rw [assign, known]

theorem assign_unknown (unknown : t.number? path = none) :
    t.assign path = (t.next, { t.link t.next path with next := t.next + 1 }) := by
  rw [assign, unknown]

theorem number?_assign_unknown (unknown : t.number? path = none) (other : Path) :
    (t.assign path).2.number? other = if other = path then some t.next else t.number? other := by
  rw [assign_unknown unknown]
  exact Table.find?_insert _ _ _ _

theorem number?_assign_known {number : Nat} {other : Path} (known : t.number? other = some number) :
    (t.assign path).2.number? other = some number := by
  cases here : t.number? path with
  | some at' => rw [assign_known here, known]
  | none =>
    rw [number?_assign_unknown here, if_neg, known]
    rintro rfl
    rw [here] at known
    cases known

theorem number?_drop (t : InodeTable) (path other : Path) :
    (t.drop path).number? other = if other = path then none else t.number? other := by
  unfold drop
  split
  · next unknown =>
    split
    · next same => rw [same, unknown]
    · rfl
  · exact Table.find?_erase _ _ _

theorem next_drop (t : InodeTable) (path : Path) : (t.drop path).next = t.next := by
  unfold drop
  split <;> rfl

theorem forget_ne_root (file : path ≠ .root) : t.forget path = t.drop path := by
  refine if_neg fun isRoot => file (Path.ext ?_)
  exact List.isEmpty_iff.1 isRoot

theorem rename_known (known : t.number? old = some moved) (different : old ≠ new) :
    t.rename old new =
      link { t.drop new with numbers := (t.drop new).numbers.erase old } moved new := by
  have kept : (t.drop new).number? old = some moved := by
    rw [number?_drop, if_neg different, known]
  simp only [rename, kept]

theorem number?_rename (known : t.number? old = some moved) (different : old ≠ new)
    (other : Path) :
    (t.rename old new).number? other =
      if other = new then some moved else if other = old then none else t.number? other := by
  rw [rename_known known different]
  change (((t.drop new).numbers.erase old).insert new moved).find? other = _
  rw [Table.find?_insert, Table.find?_erase]
  split
  · rfl
  · next apart =>
    split
    · rfl
    · exact (number?_drop t new other).trans (if_neg apart)

theorem next_rename (known : t.number? old = some moved) (different : old ≠ new) :
    (t.rename old new).next = t.next := by
  rw [rename_known known different]
  exact next_drop t new

structure Coherent (t : InodeTable) : Prop where
  inverse : ∀ number path, t.path? number = some path ↔ t.number? path = some number
  root : t.path? rootNumber = some .root
  below : ∀ number path, t.path? number = some path → number < t.next

namespace Coherent

theorem start : start.Coherent := by
  have paths (number : Nat) : InodeTable.start.path? number =
      if number = 1 then some .root else none := Table.find?_insert _ _ _ _
  have numbers (path : Path) : InodeTable.start.number? path =
      if path = .root then some 1 else none := Table.find?_insert _ _ _ _
  constructor
  · intro number path
    rw [paths, numbers]
    by_cases first : number = 1 <;> by_cases isRoot : path = .root <;>
      simp [first, isRoot, eq_comm]
  · rfl
  · intro number path found
    rw [paths] at found
    split at found
    · next first => rw [first]; exact Nat.lt_succ_self 1
    · cases found

theorem number?_root (coherent : t.Coherent) : t.number? .root = some rootNumber :=
  (coherent.inverse _ _).1 coherent.root

theorem path?_next (coherent : t.Coherent) : t.path? t.next = none := by
  refine Option.eq_none_iff_forall_ne_some.2 fun path found => ?_
  exact Nat.lt_irrefl _ (coherent.below _ path found)

theorem path?_assign_iff (coherent : t.Coherent) (unknown : t.number? path = none) (number : Nat)
    (other : Path) :
    (t.assign path).2.path? number = some other ↔
      number = t.next ∧ other = path ∨ t.path? number = some other := by
  have now : (t.assign path).2.path? number =
      if number = t.next then some path else t.path? number := by
    rw [assign_unknown unknown]
    exact Table.find?_insert _ _ _ _
  rw [now]
  split
  · next fresh => simp [fresh, coherent.path?_next, eq_comm]
  · next different => simp [different]

theorem path?_drop_iff (coherent : t.Coherent) (number : Nat) (other : Path) :
    (t.drop path).path? number = some other ↔ t.path? number = some other ∧ other ≠ path := by
  have others (apart : t.number? path ≠ some number) :
      t.path? number = some other ↔ t.path? number = some other ∧ other ≠ path := by
    refine ⟨fun found => ⟨found, ?_⟩, And.left⟩
    rintro rfl
    exact apart ((coherent.inverse _ _).1 found)
  unfold drop
  split
  · next unknown => exact others (by simp [unknown])
  · next dropped known =>
    change (t.paths.erase dropped).find? number = some other ↔ _
    rw [Table.find?_erase]
    split
    · next same =>
      rw [same, (coherent.inverse _ _).2 known]
      simp [eq_comm]
    · next apart =>
      refine others ?_
      rw [known]
      exact fun same => apart (Option.some.inj same).symm

theorem path?_rename_iff (coherent : t.Coherent) (known : t.number? old = some moved)
    (different : old ≠ new) (number : Nat) (other : Path) :
    (t.rename old new).path? number = some other ↔
      number = moved ∧ other = new ∨
        t.path? number = some other ∧ other ≠ old ∧ other ≠ new := by
  have now : (t.rename old new).path? number =
      if number = moved then some new else (t.drop new).path? number := by
    rw [rename_known known different]
    exact Table.find?_insert _ _ _ _
  rw [now]
  split
  · next same =>
    rw [same, (coherent.inverse _ _).2 known]
    constructor
    · intro here
      exact .inl ⟨rfl, (Option.some.inj here).symm⟩
    · rintro (⟨-, isNew⟩ | ⟨isOld, notOld, -⟩)
      · rw [isNew]
      · exact absurd (Option.some.inj isOld).symm notOld
  · next apart =>
    rw [coherent.path?_drop_iff]
    have notOld (found : t.path? number = some other) : other ≠ old := by
      rintro rfl
      have := (coherent.inverse _ _).1 found
      rw [known] at this
      exact apart (Option.some.inj this).symm
    constructor
    · rintro ⟨found, notNew⟩
      exact .inr ⟨found, notOld found, notNew⟩
    · rintro (⟨same, -⟩ | ⟨found, -, notNew⟩)
      · exact absurd same apart
      · exact ⟨found, notNew⟩

theorem assign (coherent : t.Coherent) (path : Path) : (t.assign path).2.Coherent := by
  cases known : t.number? path with
  | some number =>
    rw [assign_known known]
    exact coherent
  | none =>
    have paths := coherent.path?_assign_iff known
    constructor
    · intro number other
      rw [paths, coherent.inverse, number?_assign_unknown known]
      split
      · next same => simp [same, known, eq_comm]
      · next apart => simp [apart]
    · exact (paths _ _).2 (.inr coherent.root)
    · intro number other found
      have next : (t.assign path).2.next = t.next + 1 := by rw [assign_unknown known]
      rcases (paths number other).1 found with ⟨same, -⟩ | before
      · omega
      · have := coherent.below number other before
        omega

theorem drop (coherent : t.Coherent) (file : path ≠ .root) : (t.drop path).Coherent := by
  have paths (number : Nat) (other : Path) :
      (t.drop path).path? number = some other ↔ t.path? number = some other ∧ other ≠ path :=
    coherent.path?_drop_iff number other
  constructor
  · intro number other
    rw [paths, coherent.inverse, number?_drop]
    split
    · next same => simp [same]
    · next apart => simp [apart]
  · exact (paths _ _).2 ⟨coherent.root, file.symm⟩
  · intro number other found
    rw [next_drop]
    exact coherent.below number other ((paths number other).1 found).1

theorem rename (coherent : t.Coherent) (known : t.number? old = some moved)
    (different : old ≠ new) (oldFile : old ≠ .root) (newFile : new ≠ .root) :
    (t.rename old new).Coherent := by
  have paths := coherent.path?_rename_iff known different
  constructor
  · intro number other
    rw [paths, coherent.inverse, number?_rename known different]
    split
    · next isNew => simp [isNew, eq_comm]
    · next apart =>
      split
      · next isOld => simp [isOld, different]
      · next apart' => simp [apart, apart']
  · exact (paths _ _).2 (.inr ⟨coherent.root, oldFile.symm, newFile.symm⟩)
  · intro number other found
    rw [next_rename known different]
    rcases (paths number other).1 found with ⟨rfl, -⟩ | ⟨before, -, -⟩
    · exact coherent.below _ old ((coherent.inverse _ _).2 known)
    · exact coherent.below number other before

end Coherent

theorem assignAll_known {paths : List Path} (known : ∀ path ∈ paths, t.number? path ≠ none) :
    assignAll paths t = (paths.map fun path => (t.number? path).getD 0, t) := by
  induction paths with
  | nil => rfl
  | cons path rest ih =>
    obtain ⟨number, here⟩ := Option.ne_none_iff_exists'.1 (known path List.mem_cons_self)
    have others := ih fun path member => known path (List.mem_cons_of_mem _ member)
    simp only [assignAll, assign_known here, others, List.map_cons, here, Option.getD_some]

end PatternFs.InodeTable
