import PatternFs.Proofs.Store.Descriptors
import PatternFs.Proofs.Store.Plain

/-! Descriptors with any number of holders. A descriptor has one holder for each reference to it: it
is open as long as there is one, and it is closed with the last one. While it is open, it stands for
what it was opened on. -/
namespace PatternFs.Store

variable {s t u : Store} {d id : Nat} {refs : List Nat} {target : Target}

/-- The references `refs` are all that hold the descriptors of the store. -/
structure Counted (s : Store) (refs : List Nat) : Prop extends s.Conserved where
  held : ∀ d ∈ refs, ∃ target, s.descriptors.find? d = some ⟨target, refs.count d⟩
  free : ∀ d, d ∉ refs → s.descriptors.find? d = none

theorem find?_retain (s : Store) (d other : Nat) :
    (s.retain d).descriptors.find? other =
      if other = d then (s.descriptors.find? d).map fun f => { f with holders := f.holders + 1 }
      else s.descriptors.find? other :=
  Table.find?_modify _ _ _ _

theorem release_shared {holders : Nat}
    (found : s.descriptors.find? d = some ⟨target, holders + 2⟩) :
    s.release d =
      { s with
        descriptors := s.descriptors.modify d fun f => { f with holders := holders + 1 } } := by
  rw [release, found]

namespace Counted

theorem isOpen_iff (counted : s.Counted refs) (d : Nat) : s.IsOpen d ↔ d ∈ refs := by
  constructor
  · rintro ⟨file, found⟩
    by_cases member : d ∈ refs
    · exact member
    · rw [counted.free d member] at found
      cases found
  · intro member
    obtain ⟨target, found⟩ := counted.held d member
    exact ⟨_, found⟩

theorem of_unused (unused : s.Unused) : s.Counted [] where
  toConserved := .of_unused unused
  held _ member := by cases member
  free _ _ := by rw [unused.descriptors, Table.find?_empty]

theorem perm {refs' : List Nat} (counted : s.Counted refs) (perm : refs.Perm refs') :
    s.Counted refs' where
  toConserved := counted.toConserved
  held d member := by
    rw [← perm.count_eq]
    exact counted.held d (perm.mem_iff.2 member)
  free d missing := counted.free d fun member => missing (perm.mem_iff.1 member)

theorem change (counted : s.Counted refs) (change : s.OutsideChange t) : t.Counted refs where
  toConserved := counted.toConserved.change change
  held := by
    rw [change.descriptors]
    exact counted.held
  free := by
    rw [change.descriptors]
    exact counted.free

theorem new (counted : s.Counted refs) : s.nextDescriptor ∉ refs := fun member =>
  counted.next_new.2 ((counted.isOpen_iff _).2 member)

theorem register (counted : s.Counted refs) (target : Target) :
    (s.register target).2.Counted (s.nextDescriptor :: refs) where
  toConserved := counted.toConserved.register target
  held d member := by
    rw [find?_register]
    split
    · next eq =>
      rw [eq, List.count_cons_self, List.count_eq_zero_of_not_mem counted.new]
      exact ⟨target, rfl⟩
    · next different =>
      rw [List.count_cons_of_ne (Ne.symm different)]
      exact counted.held d ((List.mem_cons.1 member).resolve_left different)
  free d missing := by
    obtain ⟨different, missing⟩ := not_or.1 (missing ∘ List.mem_cons.2)
    rw [find?_register, if_neg different, counted.free d missing]

theorem passed (counted : s.Counted refs) : s.passed.Counted refs where
  toConserved := counted.toConserved.passed
  held := counted.held
  free := counted.free

theorem retain (counted : s.Counted refs) (member : d ∈ refs) :
    (s.retain d).Counted (d :: refs) := by
  obtain ⟨target, here⟩ := counted.held d member
  have isOpen (other : Nat) : (s.retain d).IsOpen other ↔ s.IsOpen other := by
    rw [IsOpen, find?_retain, here]
    split
    · next eq => simp [eq, IsOpen, here]
    · rfl
  refine ⟨counted.toConserved.congr isOpen rfl rfl, fun other member => ?_, fun other missing => ?_⟩
  · rw [find?_retain, here]
    split
    · next eq =>
      rw [eq, List.count_cons_self]
      exact ⟨target, rfl⟩
    · next different =>
      rw [List.count_cons_of_ne (Ne.symm different)]
      exact counted.held other ((List.mem_cons.1 member).resolve_left different)
  · obtain ⟨different, missing⟩ := not_or.1 (missing ∘ List.mem_cons.2)
    rw [find?_retain, if_neg different, counted.free other missing]

/-- A holder lets go of his reference. The last one closes the descriptor. -/
theorem release (counted : s.Counted (d :: refs)) : (s.release d).Counted refs := by
  obtain ⟨target, here⟩ := counted.held d List.mem_cons_self
  have others {other : Nat} (different : other ≠ d) (member : other ∈ refs) :
      ∃ target, (s.release d).descriptors.find? other = some ⟨target, refs.count other⟩ := by
    rw [find?_release s different, ← List.count_cons_of_ne (Ne.symm different)]
    exact counted.held other (List.mem_cons_of_mem d member)
  have absent {other : Nat} (different : other ≠ d) (missing : other ∉ refs) :
      (s.release d).descriptors.find? other = none := by
    rw [find?_release s different]
    exact counted.free other fun member => missing ((List.mem_cons.1 member).resolve_left different)
  rw [List.count_cons_self] at here
  cases left : refs.count d with
  | zero =>
    rw [left] at here
    have gone : d ∉ refs := List.count_eq_zero.1 left
    refine ⟨counted.toConserved.release here, fun other member => ?_, fun other missing => ?_⟩
    · exact others (by rintro rfl; exact gone member) member
    · by_cases eq : other = d
      · rw [eq, release_last here]
        exact Table.find?_erase_same _ _
      · exact absent eq missing
  | succ holders =>
    rw [left] at here
    have staying : (s.release d).descriptors.find? d = some ⟨target, holders + 1⟩ := by
      rw [release_shared here, Table.find?_modify, if_pos rfl, here]
      rfl
    have isOpen (other : Nat) : (s.release d).IsOpen other ↔ s.IsOpen other := by
      by_cases eq : other = d
      · simp [eq, IsOpen, staying, here]
      · rw [IsOpen, find?_release s eq, IsOpen]
    have same := counted.toConserved.congr isOpen (by rw [release_shared here])
      (by rw [release_shared here])
    refine ⟨same, fun other member => ?_, fun other missing => ?_⟩
    · by_cases eq : other = d
      · rw [eq, left]
        exact ⟨target, staying⟩
      · exact others eq member
    · refine absent ?_ missing
      rintro rfl
      exact missing (List.count_pos_iff.1 (by omega))

theorem releaseAll {ds : List Nat} (counted : s.Counted (ds ++ refs)) :
    (s.releaseAll ds).Counted refs := by
  induction ds generalizing s with
  | nil => exact counted
  | cons d rest ih => exact ih counted.release

/-- A descriptor that was given out has been closed just when there is no reference left. -/
theorem count_closed (counted : s.Counted refs) (given : d < s.nextDescriptor) :
    s.closed.count d = if d ∈ refs then 0 else 1 := by
  split
  · next member =>
    exact List.count_eq_zero.2 fun shut => counted.gone d shut ((counted.isOpen_iff d).2 member)
  · next missing =>
    have shut := ((counted.given d).1 given).resolve_right fun isOpen =>
      missing ((counted.isOpen_iff d).1 isOpen)
    rw [counted.once.count, if_pos shut]

end Counted

/-- Only holders came and went from `s` to `t`: names and files are the same, and the descriptors
that are open stood for the same before. -/
structure NoneOpened (s t : Store) : Prop extends s.SameFiles t where
  target : ∀ d target, t.target d = .ok target → s.target d = .ok target
  next : s.nextDescriptor ≤ t.nextDescriptor

theorem NoneOpened.refl (s : Store) : s.NoneOpened s := ⟨.refl s, fun _ _ => id, Nat.le_refl _⟩

theorem NoneOpened.trans (first : s.NoneOpened t) (second : t.NoneOpened u) : s.NoneOpened u where
  toSameFiles := first.toSameFiles.trans second.toSameFiles
  target d target held := first.target d target (second.target d target held)
  next := Nat.le_trans first.next second.next

theorem noneOpened_passed (s : Store) : s.NoneOpened s.passed :=
  ⟨sameFiles_passed s, fun _ _ => id, Nat.le_succ _⟩

theorem noneOpened_retain (s : Store) (d : Nat) : s.NoneOpened (s.retain d) where
  toSameFiles := ⟨rfl, rfl, rfl, rfl, rfl⟩
  target other target held := by
    obtain ⟨holders, found⟩ := target_ok.1 held
    rw [find?_retain] at found
    split at found
    · next eq =>
      obtain ⟨file, here, same⟩ := Option.map_eq_some_iff.1 found
      cases same
      exact target_ok.2 ⟨_, eq ▸ here⟩
    · exact target_ok.2 ⟨holders, found⟩
  next := Nat.le_refl _

theorem noneOpened_release (s : Store) (d : Nat) : s.NoneOpened (s.release d) where
  toSameFiles := sameFiles_release s d
  target other target held := by
    obtain ⟨holders, found⟩ := target_ok.1 held
    by_cases eq : other = d
    · subst eq
      unfold release at found
      split at found
      · next here =>
        rw [Table.find?_modify, if_pos rfl, here] at found
        cases found
        exact target_ok.2 ⟨_, here⟩
      · rw [Table.find?_erase_same] at found
        cases found
    · rw [find?_release s eq] at found
      exact target_ok.2 ⟨holders, found⟩
  next := by
    unfold release
    split <;> exact Nat.le_refl _

theorem noneOpened_releaseAll (s : Store) (ds : List Nat) : s.NoneOpened (s.releaseAll ds) := by
  induction ds generalizing s with
  | nil => exact .refl s
  | cons d rest ih => exact (noneOpened_release s d).trans (ih (s.release d))

/-- The descriptor was given out, and can stand for nothing but the target. -/
structure Stands (s : Store) (d : Nat) (target : Target) : Prop where
  given : d < s.nextDescriptor
  only : ∀ other, s.target d = .ok other → other = target

namespace Stands

theorem new (s : Store) (target : Target) :
    (s.register target).2.Stands s.nextDescriptor target where
  given := Nat.lt_succ_self _
  only other held := by
    rw [target_register] at held
    exact (Except.ok.inj held).symm

theorem register (stands : s.Stands d target) (other : Target) :
    (s.register other).2.Stands d target where
  given := Nat.lt_succ_of_lt stands.given
  only found held := by
    refine stands.only found ?_
    rw [Store.target, find?_register, if_neg (Nat.ne_of_lt stands.given)] at held
    exact held

theorem change (stands : s.Stands d target) (change : s.OutsideChange t) : t.Stands d target where
  given := change.nextDescriptor ▸ stands.given
  only other held := by
    rw [Store.target, change.descriptors] at held
    exact stands.only other held

theorem noneOpened (stands : s.Stands d target) (none : s.NoneOpened t) : t.Stands d target where
  given := Nat.lt_of_lt_of_le stands.given none.next
  only other held := stands.only other (none.target d other held)

end Stands

/-- A name or an open descriptor leads to the file. -/
def Leads (s : Store) (id : Nat) : Prop :=
  (∃ name, s.names.find? name = some (.file id)) ∨ ∃ d, s.target d = .ok (.file id)

/-- All files that can be reached are there, and the numbers that come next are free. -/
structure Filed (s : Store) : Prop where
  known : ∀ id, s.Leads id → (s.files.find? id).isSome
  fresh : ∀ id, s.nextFile ≤ id → s.files.find? id = none

namespace Filed

theorem lt (filed : s.Filed) (leads : s.Leads id) : id < s.nextFile := by
  have known := filed.known id leads
  by_cases old : id < s.nextFile
  · exact old
  · rw [filed.fresh id (Nat.not_lt.1 old)] at known
    cases known

theorem fewer (filed : s.Filed) (leads : ∀ id, t.Leads id → s.Leads id)
    (files : ∀ id, (t.files.find? id).isSome = (s.files.find? id).isSome)
    (next : t.nextFile = s.nextFile) : t.Filed where
  known id lead := by
    rw [files]
    exact filed.known id (leads id lead)
  fresh id unknown := by
    rw [next] at unknown
    rw [← Option.isNone_iff_eq_none, ← Option.not_isSome, files, filed.fresh id unknown]
    rfl

theorem noneOpened (filed : s.Filed) (none : s.NoneOpened t) : t.Filed := by
  refine filed.fewer ?_ (fun id => by rw [none.files]) none.nextFile
  rintro id (⟨name, found⟩ | ⟨d, held⟩)
  · exact .inl ⟨name, none.find? ▸ found⟩
  · exact .inr ⟨d, none.target d _ held⟩

theorem register {name : String} (filed : s.Filed)
    (named : s.names.find? name = some target.node) : (s.register target).2.Filed where
  known id leads := by
    rcases leads with ⟨name, found⟩ | ⟨d, held⟩
    · exact filed.known id (.inl ⟨name, found⟩)
    · obtain ⟨holders, found⟩ := target_ok.1 held
      rw [find?_register] at found
      split at found
      · cases found
        exact filed.known id (.inl ⟨name, named⟩)
      · exact filed.known id (.inr ⟨d, target_ok.2 ⟨holders, found⟩⟩)
  fresh := filed.fresh

theorem changeContent (filed : s.Filed) (id : Nat) (f : Content → Content) :
    (s.changeContent id f).Filed := by
  refine filed.fewer (fun _ leads => leads) (fun other => ?_) rfl
  rw [Store.changeContent, Table.find?_modify]
  split
  · next eq => rw [eq, Option.isSome_map]
  · rfl

/-- A change of a file that can be reached reaches that file and no other. -/
theorem content_changeContent {there : Nat} (filed : s.Filed) (leads : s.Leads there)
    (f : Content → Content) (id : Nat) :
    (s.changeContent there f).content id =
      if some there = some id then f (s.content id) else s.content id := by
  rw [Store.content_changeContent s there id f (filed.known there leads)]
  by_cases eq : id = there
  · simp [eq]
  · simp [eq, Ne.symm eq]

theorem written (filed : s.Filed) (target : Target) (offset : Nat) (data : List UInt8) :
    (s.written target offset data).Filed := by
  cases target with
  | file id => exact filed.changeContent id (·.splice offset data)
  | nullDevice => exact filed

theorem withFile (filed : s.Filed) (name : String) (object : FileObject) :
    (s.withFile name object).Filed where
  known id leads := by
    rw [files_withFile]
    split
    · rfl
    · next old =>
      rcases leads with ⟨other, found⟩ | held
      · rw [Store.withFile, Table.find?_insert] at found
        split at found
        · cases found
          exact absurd rfl old
        · exact filed.known id (.inl ⟨other, found⟩)
      · exact filed.known id (.inr held)
  fresh id unknown := by
    have beyond : s.nextFile + 1 ≤ id := unknown
    rw [files_withFile, if_neg (by omega)]
    exact filed.fresh id (by omega)

theorem made {name : String} {mode : Nat} (filed : s.Filed) (made : s.Made name mode target t) :
    t.Filed := by
  cases made with
  | fresh => exact filed.withFile name _
  | emptied => exact filed.changeContent _ _
  | device => exact filed

theorem renamed {old new : String} {node : Node} (filed : s.Filed)
    (here : s.names.find? old = some node) : (s.renamed old new node).Filed := by
  refine filed.fewer ?_ (fun _ => rfl) rfl
  rintro id (⟨name, found⟩ | held)
  · rw [Store.renamed, Table.find?_insert, Table.find?_erase] at found
    split at found
    · exact .inl ⟨old, here.trans found⟩
    · split at found
      · cases found
      · exact .inl ⟨name, found⟩
  · exact .inr held

theorem unnamed (filed : s.Filed) (name : String) : (s.unnamed name).Filed := by
  refine filed.fewer ?_ (fun _ => rfl) rfl
  rintro id (⟨other, found⟩ | held)
  · rw [Store.unnamed, Table.find?_erase] at found
    split at found
    · cases found
    · exact .inl ⟨other, found⟩
  · exact .inr held

end Filed

/-- A file that is made anew has no bytes, and neither had its number before. -/
theorem Made.content {name : String} {mode : Nat} (filed : s.Filed)
    (made : s.Made name mode target t) (id : Nat) :
    t.content id =
      if s.fileAt? name = some id then (s.content id).resize 0 else s.content id := by
  cases made with
  | fresh free =>
    have nothing : s.fileAt? name = none := by rw [fileAt?, (find_ok.1 free).2]; rfl
    simp only [nothing, reduceCtorEq, if_false, addFile_eq, content_withFile]
    split
    · next eq =>
      rw [eq, Store.content, filed.fresh _ (Nat.le_refl _)]
      rfl
    · rfl
  | @emptied there found =>
    have named := (find_ok.1 found).2
    rw [filed.content_changeContent (.inl ⟨name, named⟩), fileAt?_iff.2 named]
  | device found =>
    have nothing : s.fileAt? name = none := by rw [fileAt?, (find_ok.1 found).2]; rfl
    simp only [nothing, reduceCtorEq, if_false]

end PatternFs.Store
