import PatternFs.Proofs.Store.Plain

/-! What a change of the store leaves alone. A change of the file under one name does not show under
another one, as long as different names stand for different files. -/
namespace PatternFs.Store

variable {s t u : Store} {name other : String} {target : Target}

/-- The name stands for the same, and if that is a file, its content and its mode are the same. -/
structure Keeps (name : String) (s t : Store) : Prop where
  platform : t.platform = s.platform
  named : t.names.find? name = s.names.find? name
  object : ∀ id, s.fileAt? name = some id → t.files.find? id = s.files.find? id

theorem Keeps.fileAt? (keeps : Keeps name s t) : t.fileAt? name = s.fileAt? name :=
  congrArg (·.bind Node.file?) keeps.named

theorem Keeps.symm (keeps : Keeps name s t) : Keeps name t s where
  platform := keeps.platform.symm
  named := keeps.named.symm
  object id here := (keeps.object id (keeps.fileAt?.symm.trans here)).symm

theorem Keeps.trans (first : Keeps name s t) (second : Keeps name t u) : Keeps name s u where
  platform := second.platform.trans first.platform
  named := second.named.trans first.named
  object id here := (second.object id (first.fileAt?.trans here)).trans (first.object id here)

theorem SameFiles.keeps (same : s.SameFiles t) (name : String) : Keeps name s t where
  platform := same.platform
  named := same.find?
  object id _ := by rw [same.files]

theorem keeps_changeTarget (separate : s.Separate) (here : s.names.find? other = some target.node)
    (different : other ≠ name) (f : Content → Content) :
    Keeps name s (s.changeTarget target f) := by
  refine ⟨platform_changeTarget _ _ _, by rw [names_changeTarget], fun id there => ?_⟩
  cases target with
  | nullDevice => rfl
  | file changed =>
    have apart : id ≠ changed := by
      rintro rfl
      exact different (separate.own other name id (fileAt?_iff.2 here) there)
    exact (Table.find?_modify _ _ _ _).trans (if_neg apart)

theorem written_eq (s : Store) (target : Target) (offset : Nat) (data : List UInt8) :
    s.written target offset data = s.changeTarget target (·.splice offset data) := by
  cases target <;> rfl

theorem changeTarget_passed (s : Store) (target : Target) (f : Content → Content) :
    s.passed.changeTarget target f = (s.changeTarget target f).passed := by
  cases target <;> rfl

theorem keeps_written (separate : s.Separate) (here : s.names.find? other = some target.node)
    (different : other ≠ name) (offset : Nat) (data : List UInt8) :
    Keeps name s (s.written target offset data) := by
  rw [written_eq]
  exact keeps_changeTarget separate here different _

theorem Made.keeps {mode : Nat} (made : s.Made other mode target t) (separate : s.Separate)
    (different : other ≠ name) : Keeps name s t := by
  cases made with
  | fresh =>
    refine ⟨rfl, Table.find?_insert_other _ _ different.symm, fun id there => ?_⟩
    exact Table.find?_insert_other _ _ (separate.old there)
  | @emptied id found =>
    have here : s.names.find? other = some (Target.file id).node := (find_ok.1 found).2
    exact keeps_changeTarget separate here different (·.resize 0)
  | device => exact (SameFiles.refl s).keeps name

theorem keeps_renamed {old new : String} (s : Store) (node : Node) (notOld : old ≠ name)
    (notNew : new ≠ name) : Keeps name s (s.renamed old new node) where
  platform := rfl
  named := (Table.find?_insert_other _ _ notNew.symm).trans
    (Table.find?_erase_other _ notOld.symm)
  object _ _ := rfl

theorem keeps_unnamed (s : Store) (different : other ≠ name) : Keeps name s (s.unnamed other) where
  platform := rfl
  named := Table.find?_erase_other _ different.symm
  object _ _ := rfl

end PatternFs.Store
