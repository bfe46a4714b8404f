import PatternFs.Proofs.Filesystem.Anchored
import PatternFs.Proofs.Store.Frame

/-! What an operation leaves alone: the entries of other paths, and the real files that have other
names. Real files are found by the last component of a path only, and two paths that can have
entries do not share it. -/
namespace PatternFs

namespace Operation

/-- The paths that an operation is about. -/
def paths : Operation → List Path
  | .setUp | .destroy | .teardown | .refused _ => []
  | .getAttributes path | .create path _ _ | .openFile path _ | .read path _ _ | .write path _ _
  | .truncate path _ | .unlink path | .release path | .flush path | .openDirectory path
  | .list path | .access path | .lock path | .getAttribute path _ => [path]
  | .rename old new => [old, new]

/-- The path of an operation on a file that has to be there. -/
def file? : Operation → Option Path
  | .getAttributes path | .openFile path _ | .read path _ _ | .write path _ _ | .truncate path _
  | .unlink path | .release path => some path
  | _ => none

/-- Operations that end the mount. -/
def ends : Operation → Bool
  | .destroy | .teardown => true
  | _ => false

end Operation

namespace Filesystem

variable {fs base after : Filesystem} {path other : Path} {e : Entry} {op : Operation}
  {r : Except Failure Reply} {name : String} {target : Target}

theorem find?_modify_other (c : Catalog) (f : Entry → Entry) (away : other ≠ path) :
    (c.modify path f).find? other = c.find? other :=
  (Catalog.find?_modify _ _ _ _).trans (if_neg away)

theorem Referred.find?_other {d : Nat} (referred : fs.Referred path e d base)
    (away : other ≠ path) : base.catalog.find? other = fs.catalog.find? other := by
  cases referred <;> exact find?_modify_other _ _ away

theorem find?_dropReference_other (fs : Filesystem) (away : other ≠ path) :
    (fs.dropReference path).catalog.find? other = fs.catalog.find? other := by
  unfold dropReference
  split
  · rfl
  · exact find?_modify_other _ _ away

theorem Transition.find?_other (step : fs.Transition op r after) (lasts : op.ends = false)
    (away : other ∉ op.paths) : after.catalog.find? other = fs.catalog.find? other := by
  cases step with
  | failed same => exact same.find? other
  | looked => rfl
  | destroyed | tornDown => cases lasts
  | madeSynthetic | madeDelegated =>
    exact (Catalog.find?_put _ _ _).trans (if_neg (List.ne_of_not_mem_cons away))
  | resetSynthetic | resetOpen | resetClosed =>
    exact find?_modify_other _ _ (List.ne_of_not_mem_cons away)
  | openedSynthetic =>
    split
    · exact find?_modify_other _ _ (List.ne_of_not_mem_cons away)
    · rfl
  | openedDelegated _ _ _ referred => exact referred.find?_other (List.ne_of_not_mem_cons away)
  | emptiedDelegated _ _ _ referred _ =>
    have apart := List.ne_of_not_mem_cons away
    exact (find?_modify_other _ _ apart).trans (referred.find?_other apart)
  | read _ _ idle => exact idle.untouched.find? other
  | wroteNothing _ _ idle =>
    exact (find?_modify_other _ _ (List.ne_of_not_mem_cons away)).trans
      (idle.untouched.find? other)
  | wroteSynthetic | wroteDelegated | cutSynthetic | cutDelegated =>
    exact find?_modify_other _ _ (List.ne_of_not_mem_cons away)
  | brokeOff => rfl
  | renamedSynthetic found | renamedDelegated found | renamedTwin found =>
    have notOld := List.ne_of_not_mem_cons away
    have notNew := List.ne_of_not_mem_cons (List.not_mem_of_not_mem_cons away)
    rw [Catalog.find?_move found, if_neg notNew, if_neg notOld]
  | unlinkedSynthetic | unlinkedDelegated | unlinkedMissing =>
    exact (Catalog.find?_remove _ _ _).trans (if_neg (List.ne_of_not_mem_cons away))
  | released => exact find?_dropReference_other fs (List.ne_of_not_mem_cons away)

theorem Tied.named_referred {d : Nat} (tied : fs.Tied)
    (found : fs.catalog.find? path = some e) (kind : e.kind = .delegated)
    (referred : fs.Referred path e d base) (held : base.store.target d = .ok target) :
    base.store.names.find? path.name = some target.node := by
  obtain ⟨now, found', kind', holds⟩ := referred.find? found
  obtain ⟨other, at'⟩ := (tied.referred found kind referred).anchor found' (kind'.trans kind)
  have same : other = target := Except.ok.inj ((at'.held d holds).symm.trans held)
  rw [at'.named, same]

theorem Sound.delegated (sound : fs.Sound) (found : fs.catalog.find? path = some e)
    (kind : e.kind = .delegated) : path.entryClass? = some .delegated :=
  (newFileClass_ok.1 (kind ▸ sound.formed.place found)).1

/-- An operation works on real files: those of its paths, which are all delegated, and no others. -/
structure Confined (fs after : Filesystem) (paths : List Path) : Prop where
  addressed : paths ≠ []
  delegated : ∀ path ∈ paths, path.entryClass? = some .delegated
  keeps : ∀ name, (∀ path ∈ paths, path.name ≠ name) → fs.store.Keeps name after.store

theorem Confined.single (delegated : path.entryClass? = some .delegated)
    (keeps : ∀ name, path.name ≠ name → fs.store.Keeps name after.store) :
    fs.Confined after [path] where
  addressed := List.cons_ne_nil _ _
  delegated _ member := List.mem_singleton.1 member ▸ delegated
  keeps name away := keeps name (away path List.mem_cons_self)

/-- Either no file changes, or only those that have the names of the paths. -/
theorem Transition.frame (step : fs.Transition op r after) (anchored : fs.Anchored) :
    fs.store.SameFiles after.store ∨ fs.Confined after op.paths := by
  have separate := anchored.separate
  cases step with
  | failed same => exact .inl same.sameFiles
  | destroyed | tornDown => exact .inl (Store.sameFiles_releaseAll _ _)
  | openedSynthetic => split <;> exact .inl (.refl _)
  | openedDelegated _ _ _ referred => exact .inl referred.sameFiles
  | read _ _ idle => exact .inl idle.untouched.sameFiles
  | wroteNothing _ _ idle => exact .inl idle.untouched.sameFiles
  | unlinkedMissing => exact .inl (Store.sameFiles_releaseAll _ _)
  | released => exact .inl (sameFiles_dropReference fs _)
  | madeDelegated place _ _ made _ | resetClosed place _ _ _ made _ =>
    refine .inr (.single (newFileClass_ok.1 place).1 fun name away => ?_)
    exact (made.keeps separate away).trans ((Store.sameFiles_register _ _).keeps name)
  | resetOpen place _ _ _ made _ =>
    refine .inr (.single (newFileClass_ok.1 place).1 fun name away => ?_)
    exact (made.keeps separate away).trans ((Store.sameFiles_passed _).keeps name)
  | emptiedDelegated found kind _ referred held =>
    have here := anchored.named_referred found kind referred held
    have separate' := referred.sameFiles.separate separate
    refine .inr (.single (anchored.sound.delegated found kind) fun name away => ?_)
    exact (referred.sameFiles.keeps name).trans
      (Store.keeps_changeTarget separate' here away (·.resize 0))
  | wroteDelegated found kind _ _ reached | brokeOff found kind _ _ reached =>
    obtain ⟨target, at'⟩ := anchored.anchor found kind
    obtain ⟨rfl, same⟩ := at'.reached (anchored.sound.formed.own _ _ found) reached
    refine .inr (.single (anchored.sound.delegated found kind) fun name away => ?_)
    rcases same with rfl | rfl
    · exact Store.keeps_written separate at'.named away _ _
    · have separate' := (Store.sameFiles_passed _).separate separate
      exact ((Store.sameFiles_passed _).keeps name).trans
        (Store.keeps_written separate' at'.named away _ _)
  | @cutDelegated _ length id _ _ found kind _ _ node =>
    have here : fs.store.names.find? _ = some (Target.file id).node := (Store.node_iff.1 node).2
    refine .inr (.single (anchored.sound.delegated found kind) fun name away => ?_)
    exact (Store.keeps_changeTarget separate here away (·.resize length)).trans
      ((Store.sameFiles_passed _).keeps name)
  | @renamedDelegated old new e _ node _ found kind _ place _ _ _ _ =>
    refine .inr ⟨List.cons_ne_nil _ _, fun path member => ?_, fun name away => ?_⟩
    · rcases List.mem_cons.1 member with rfl | member
      · exact anchored.sound.delegated found kind
      · exact List.mem_singleton.1 member ▸ (newFileClass_ok.1 place).1
    · exact Store.keeps_renamed fs.store node (away old List.mem_cons_self)
        (away new (List.mem_cons_of_mem _ List.mem_cons_self))
  | unlinkedDelegated found kind =>
    refine .inr (.single (anchored.sound.delegated found kind) fun name away => ?_)
    exact (Store.keeps_unnamed fs.store away).trans ((Store.sameFiles_releaseAll _ _).keeps name)
  | looked | madeSynthetic | resetSynthetic | wroteSynthetic | cutSynthetic | renamedSynthetic
  | renamedTwin | unlinkedSynthetic => exact .inl (.refl _)

theorem Transition.keeps (step : fs.Transition op r after) (anchored : fs.Anchored)
    (away : ∀ path ∈ op.paths, path.entryClass? = some .delegated → path.name ≠ name) :
    fs.store.Keeps name after.store := by
  rcases step.frame anchored with same | confined
  · exact same.keeps name
  · exact confined.keeps name fun path member => away path member (confined.delegated path member)

theorem Transition.sameFiles (step : fs.Transition op r after) (anchored : fs.Anchored)
    (synthetic : ∀ path ∈ op.paths, path.entryClass? ≠ some .delegated) :
    fs.store.SameFiles after.store := by
  rcases step.frame anchored with same | confined
  · exact same
  · obtain ⟨path, member⟩ := List.exists_mem_of_ne_nil _ confined.addressed
    exact absurd (confined.delegated path member) (synthetic path member)

/-- The backing directory with what is met on every access to it, the host, and the choice of
patterns. -/
def settings (fs : Filesystem) : String × Option HostError × Platform × Fallback :=
  (fs.backingDirectory, fs.store.blocked?, fs.store.platform, fs.fallback)

theorem settings_eq (directory : after.backingDirectory = fs.backingDirectory)
    (blocked : after.store.blocked? = fs.store.blocked?)
    (platform : after.store.platform = fs.store.platform)
    (fallback : after.fallback = fs.fallback) : after.settings = fs.settings := by
  rw [settings, directory, blocked, platform, fallback]
  rfl

theorem Untouched.settings (same : fs.Untouched after) : after.settings = fs.settings :=
  settings_eq same.directory same.sameFiles.blocked same.sameFiles.platform same.fallback

theorem Referred.settings {d : Nat} (referred : fs.Referred path e d base) :
    base.settings = fs.settings := by
  cases referred <;> rfl

theorem Transition.settings (step : fs.Transition op r after) : after.settings = fs.settings := by
  have released (ds : List Nat) := Store.sameFiles_releaseAll fs.store ds
  cases step with
  | failed same => exact same.settings
  | destroyed | tornDown | unlinkedMissing =>
    exact settings_eq rfl (released _).blocked (released _).platform rfl
  | madeDelegated _ _ _ made | resetOpen _ _ _ _ made | resetClosed _ _ _ _ made =>
    exact settings_eq rfl made.blocked made.platform rfl
  | openedSynthetic => split <;> rfl
  | openedDelegated _ _ _ referred => exact referred.settings
  | emptiedDelegated _ _ _ referred => exact referred.settings
  | read _ _ idle => exact idle.untouched.settings
  | wroteNothing _ _ idle => exact idle.untouched.settings
  | @wroteDelegated _ _ _ _ target _ _ _ _ _ reached
  | @brokeOff _ _ _ _ _ target _ _ _ _ _ reached =>
    cases reached <;> cases target <;> rfl
  | @unlinkedDelegated path e =>
    have same := Store.sameFiles_releaseAll (fs.store.unnamed path.name) e.descriptor?.toList
    exact settings_eq rfl same.blocked same.platform rfl
  | released =>
    unfold dropReference
    split
    · rfl
    · exact settings_eq rfl (released _).blocked (released _).platform rfl
  | looked | madeSynthetic | resetSynthetic | wroteSynthetic | cutSynthetic | cutDelegated
  | renamedSynthetic | renamedDelegated | renamedTwin | unlinkedSynthetic => rfl

theorem Transition.fallback (step : fs.Transition op r after) : after.fallback = fs.fallback :=
  congrArg (·.2.2.2) step.settings

theorem perform_absent (about : op.file? = some path) (vacant : fs.catalog.find? path = none) :
    (fs.perform op).2 = fs := by
  cases op <;> cases about
  all_goals
    simp only [perform, replied, openFile, read, write, truncate, unlink, release, dropReference,
      find, vacant]

theorem perform_looks (looks : op.looks = true) : (fs.perform op).2 = fs := by
  cases op <;> first | rfl | cases looks

theorem Tied.transition (tied : fs.Tied) (op : Operation) :
    fs.Transition op (fs.perform op).1 (fs.perform op).2 :=
  transition_perform tied.sound.formed tied.sound.numbered op

theorem Tied.execute (tied : fs.Tied) (ops : List Operation) : (execute ops fs).Tied := by
  induction ops generalizing fs with
  | nil => exact tied
  | cons op rest ih => exact ih ((tied.transition op).tied tied)

theorem Anchored.execute (anchored : fs.Anchored) (ops : List Operation) :
    (execute ops fs).Anchored := by
  induction ops generalizing fs with
  | nil => exact anchored
  | cons op rest ih => exact ih ((anchored.transition op).anchored anchored)

/-- After any run on a directory in which different names stand for different files and which nobody
else touches, an operation leaves alone what it is not about, whatever comes of it: the entries at
other paths, and the real files with other names than its delegated paths have. Where the path of a
file has no entry, nothing happens, and looking and reading change nothing at all. -/
theorem isolated_of_run (backingDirectory : String) (fallback : Fallback) {store : Store}
    (unopened : store.descriptors = .empty) (separate : store.Separate) (ops : List Operation)
    (op : Operation) :
    let fs := execute ops (start backingDirectory fallback store)
    let after := (fs.perform op).2
    (op.ends = false →
        ∀ path, path ∉ op.paths → after.catalog.find? path = fs.catalog.find? path) ∧
      (∀ name, (∀ path ∈ op.paths, path.entryClass? = some .delegated → path.name ≠ name) →
        fs.store.Keeps name after.store) ∧
      ((∀ path ∈ op.paths, path.entryClass? ≠ some .delegated) →
        fs.store.SameFiles after.store) ∧
      (∀ path, op.file? = some path → fs.catalog.find? path = none → after = fs) ∧
      (op.looks = true → after = fs) ∧
      ∀ path offset length, op = .read path offset length → after.catalog = fs.catalog ∧
        fs.store.SameFiles after.store ∧ after.store.descriptors = fs.store.descriptors := by
  intro fs after
  have anchored : fs.Anchored := (Anchored.start unopened separate).execute ops
  have step : fs.Transition op _ after := anchored.transition op
  refine ⟨fun lasts path away => step.find?_other lasts away, fun name away => ?_,
    fun synthetic => step.sameFiles anchored synthetic, fun path about vacant => ?_,
    perform_looks, fun path offset length reads => ?_⟩
  · exact step.keeps anchored away
  · exact perform_absent about vacant
  · subst reads
    have idle : fs.Idle after := idle_read anchored.sound.numbered path offset length
    have same : fs.store.SameFiles after.store := idle.untouched.sameFiles
    rcases idle with eq | eq <;> rw [eq] at same ⊢ <;> exact ⟨rfl, same, rfl⟩

/-- One file is written to, and one that was there before the mount has no entry. -/
theorem isolated_of_written_file :
    let a : Path := ⟨["a.mhash"], by simp [IsComponent]⟩
    let b : Path := ⟨["b.mhash"], by simp [IsComponent]⟩
    let c : Path := ⟨["c"], by simp [IsComponent]⟩
    let fs := execute [.create a 0o644 (.ofBits 6), .create c 0o644 (.ofBits 6)]
      (start "/d" .counter (.ofFiles [("b.mhash", ⟨.ofBytes [1, 2], 0o600⟩)]))
    let after := (fs.perform (.write a 0 [7])).2
    after.catalog.find? c = fs.catalog.find? c ∧ fs.store.Keeps "b.mhash" after.store ∧
      (fs.perform (.unlink b)).2 = fs := by
  intro a b c fs after
  have separate := (Store.plain_ofFiles [("b.mhash", ⟨.ofBytes [1, 2], 0o600⟩)]).toSeparate
  have run (op : Operation) := isolated_of_run "/d" .counter (Store.descriptors_ofFiles _) separate
    [.create a 0o644 (.ofBits 6), .create c 0o644 (.ofBits 6)] op
  obtain ⟨entries, files, -⟩ := run (.write a 0 [7])
  obtain ⟨-, -, -, absent, -⟩ := run (.unlink b)
  refine ⟨entries rfl c (by decide), files "b.mhash" fun path member _ => ?_, absent b rfl ?_⟩
  · cases List.mem_singleton.1 member
    decide
  · decide +kernel

end Filesystem

end PatternFs
