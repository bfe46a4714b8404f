/-! Finite tables. The rows stand in the order in which their keys arrived, and no key has two
rows, so a table is at the same time a partial map (`find?`) and a listing (`rows`). Erasing a
row leaves the order of the others alone; writing to a key that is present keeps its place. -/
namespace PatternFs

structure Table (κ α : Type) where
  rows : List (κ × α)
  distinct : (rows.map Prod.fst).Nodup

namespace Table

variable {κ α : Type}

@[ext] theorem ext {s t : Table κ α} (h : s.rows = t.rows) : s = t := by
  cases s; cases t; simpa using h

def empty : Table κ α := ⟨[], .nil⟩

def keys (t : Table κ α) : List κ := t.rows.map Prod.fst

def values (t : Table κ α) : List α := t.rows.map Prod.snd

def size (t : Table κ α) : Nat := t.rows.length

variable [DecidableEq κ]

def find? (t : Table κ α) (k : κ) : Option α :=
  (t.rows.find? (fun row => row.1 = k)).map Prod.snd

def contains (t : Table κ α) (k : κ) : Bool := (t.find? k).isSome

/-- Changes the value of `k` where it stands; a table without `k` stays as it is. -/
def modify (t : Table κ α) (k : κ) (f : α → α) : Table κ α where
  rows := t.rows.map fun row => if row.1 = k then (row.1, f row.2) else row
  distinct := by
    have same : (Prod.fst ∘ fun row : κ × α => if row.1 = k then (row.1, f row.2) else row) =
        Prod.fst := by
      funext row; simp only [Function.comp_apply]; split <;> rfl
    simpa [same] using t.distinct

def erase (t : Table κ α) (k : κ) : Table κ α where
  rows := t.rows.filter fun row => row.1 ≠ k
  distinct := t.distinct.sublist (List.filter_sublist.map Prod.fst)

theorem find?_eq_none_iff {t : Table κ α} {k : κ} : t.find? k = none ↔ k ∉ t.keys := by
  simp only [find?, keys, Option.map_eq_none_iff, List.find?_eq_none, List.mem_map,
    decide_eq_true_eq]
  constructor
  · rintro h ⟨row, member, rfl⟩; exact h row member rfl
  · intro h row member eq; exact h ⟨row, member, eq⟩

theorem contains_iff {t : Table κ α} {k : κ} : t.contains k = true ↔ k ∈ t.keys := by
  rw [contains, Option.isSome_iff_ne_none, ne_eq, find?_eq_none_iff, Decidable.not_not]

/-- Writes `v` at `k`, in place when `k` has a row and as the last row otherwise. -/
def insert (t : Table κ α) (k : κ) (v : α) : Table κ α :=
  if h : t.contains k then t.modify k fun _ => v
  else
    { rows := t.rows ++ [(k, v)]
      distinct := by
        have absent : k ∉ t.keys := fun member => h (contains_iff.2 member)
        simp only [List.map_append, List.map_cons, List.map_nil]
        refine List.nodup_append.2 ⟨t.distinct, by simp, ?_⟩
        intro a ha b hb same
        simp only [List.mem_singleton] at hb
        exact absent (hb ▸ same ▸ ha) }

@[simp] theorem find?_empty (k : κ) : (empty : Table κ α).find? k = none := rfl

theorem find?_modify (t : Table κ α) (k j : κ) (f : α → α) :
    (t.modify k f).find? j = if j = k then (t.find? k).map f else t.find? j := by
  obtain ⟨rows, distinct⟩ := t
  simp only [find?, modify]
  clear distinct
  induction rows with
  | nil => simp
  | cons row rest ih =>
    by_cases hk : row.1 = k <;> by_cases hj : row.1 = j <;> by_cases hjk : j = k <;>
      simp_all

theorem find?_insert (t : Table κ α) (k j : κ) (v : α) :
    (t.insert k v).find? j = if j = k then some v else t.find? j := by
  unfold insert
  split
  · next h =>
    rw [find?_modify]
    by_cases hj : j = k
    · obtain ⟨w, hw⟩ := Option.isSome_iff_exists.1 (show (t.find? k).isSome = true from h)
      simp [hj, hw]
    · simp [hj]
  · next h =>
    have absent : t.find? k = none := by simpa [contains] using h
    simp only [find?, List.find?_append]
    by_cases hj : j = k
    · subst hj
      simp only [find?] at absent
      simp [Option.map_eq_none_iff.1 absent]
    · have : ¬ k = j := fun e => hj e.symm
      simp [hj, this]

theorem find?_erase (t : Table κ α) (k j : κ) :
    (t.erase k).find? j = if j = k then none else t.find? j := by
  obtain ⟨rows, distinct⟩ := t
  simp only [find?, erase]
  clear distinct
  induction rows with
  | nil => simp
  | cons row rest ih =>
    by_cases hk : row.1 = k <;> by_cases hj : row.1 = j <;> by_cases hjk : j = k <;>
      simp_all

@[simp] theorem find?_insert_same (t : Table κ α) (k : κ) (v : α) :
    (t.insert k v).find? k = some v := by simp [find?_insert]

@[simp] theorem find?_insert_other (t : Table κ α) {k j : κ} (v : α) (h : j ≠ k) :
    (t.insert k v).find? j = t.find? j := by simp [find?_insert, h]

@[simp] theorem find?_erase_same (t : Table κ α) (k : κ) : (t.erase k).find? k = none := by
  simp [find?_erase]

@[simp] theorem find?_erase_other (t : Table κ α) {k j : κ} (h : j ≠ k) :
    (t.erase k).find? j = t.find? j := by simp [find?_erase, h]

theorem mem_rows_iff {t : Table κ α} {k : κ} {v : α} : (k, v) ∈ t.rows ↔ t.find? k = some v := by
  obtain ⟨rows, distinct⟩ := t
  simp only [find?]
  induction rows with
  | nil => simp
  | cons row rest ih =>
    obtain ⟨j, w⟩ := row
    simp only [List.map_cons, List.nodup_cons, List.mem_map] at distinct
    by_cases hj : j = k
    · subst hj
      have absent : (j, v) ∉ rest := fun member => distinct.1 ⟨_, member, rfl⟩
      simp [absent, eq_comm]
    · have : ¬ k = j := fun e => hj e.symm
      simp [hj, this, ih distinct.2]

theorem modify_modify (t : Table κ α) (k : κ) (f g : α → α) :
    (t.modify k f).modify k g = t.modify k fun v => g (f v) := by
  apply ext
  simp only [modify, List.map_map]
  apply List.map_congr_left
  intro row _
  by_cases h : row.1 = k <;> simp [h]

theorem modify_congr (t : Table κ α) {k : κ} {f g : α → α}
    (same : ∀ v, t.find? k = some v → f v = g v) : t.modify k f = t.modify k g := by
  apply ext
  apply List.map_congr_left
  rintro ⟨j, v⟩ member
  by_cases h : j = k
  · subst h
    simp [same v (mem_rows_iff.1 member)]
  · simp [h]

theorem modify_same (t : Table κ α) (k : κ) (f : α → α)
    (same : ∀ v, t.find? k = some v → f v = v) : t.modify k f = t := by
  rw [modify_congr t same]
  apply ext
  simp [modify]

theorem erase_insert_absent (t : Table κ α) {k : κ} (v : α) (absent : t.find? k = none) :
    (t.insert k v).erase k = t := by
  have free : ¬ t.contains k = true := by simp [contains, absent]
  have others : ∀ row ∈ t.rows, row.1 ≠ k := by
    rintro ⟨j, w⟩ member rfl
    rw [mem_rows_iff, absent] at member
    cases member
  apply ext
  simp only [insert, free, Bool.false_eq_true, dite_false, erase, List.filter_append]
  simpa using fun j w member => others (j, w) member

theorem erase_insert (t : Table κ α) (k : κ) (v : α) : (t.insert k v).erase k = t.erase k := by
  apply ext
  unfold insert
  split
  · simp only [modify, erase]
    induction t.rows with
    | nil => rfl
    | cons row rest ih =>
      by_cases here : row.1 = k <;> simp_all
  · simp [erase]

theorem values_perm (t : Table κ α) (k : κ) :
    t.values.Perm ((t.find? k).toList ++ (t.erase k).values) := by
  obtain ⟨rows, distinct⟩ := t
  simp only [values, find?, erase]
  induction rows with
  | nil => exact .nil
  | cons row rest ih =>
    rw [List.map_cons, List.nodup_cons] at distinct
    by_cases here : row.1 = k
    · have others : rest.filter (fun other => !decide (other.1 = k)) = rest := by
        rw [List.filter_eq_self]
        intro other member
        have different : other.1 ≠ k := fun same =>
          distinct.1 (here ▸ same ▸ List.mem_map_of_mem member)
        simp [different]
      simp [here, others]
    · have later := (ih distinct.2).cons row.2
      simpa [here] using later.trans List.perm_middle.symm

theorem values_insert_perm (t : Table κ α) (k : κ) (v : α) :
    (t.insert k v).values.Perm (v :: (t.erase k).values) := by
  have perm := (t.insert k v).values_perm k
  rw [find?_insert_same, erase_insert] at perm
  exact perm

theorem mem_values_iff {t : Table κ α} {v : α} : v ∈ t.values ↔ ∃ k, t.find? k = some v := by
  simp only [values, List.mem_map, Prod.exists, exists_eq_right, mem_rows_iff]

end Table

end PatternFs
