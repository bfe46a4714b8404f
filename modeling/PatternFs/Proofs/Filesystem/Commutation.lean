import PatternFs.Proofs.Filesystem.Locality

/-! Operations on different files commute. Each works on the site of its own file and leaves the
other site alone, so it does not matter which of the two comes first. -/
namespace PatternFs

namespace Filesystem

variable {fs gs : Filesystem} {path other p q : Path} {e e' : Entry} {op a b : Operation}

/-- Two mounts that differ at most in the numbers of their descriptors. -/
structure Renumbered (fs gs : Filesystem) : Prop where
  faces : ∀ path,
    (gs.catalog.find? path).map Entry.face = (fs.catalog.find? path).map Entry.face
  targets : ∀ path e e' h h', fs.catalog.find? path = some e → gs.catalog.find? path = some e' →
    e.holding? = some h → e'.holding? = some h' →
    gs.store.target h'.descriptor = fs.store.target h.descriptor
  nextSequence : gs.catalog.nextSequence = fs.catalog.nextSequence
  names : ∀ name, gs.store.names.find? name = fs.store.names.find? name
  objects : ∀ name, gs.store.objectAt? name = fs.store.objectAt? name
  settings : gs.settings = fs.settings

/-- The operation is one on the file at the path. A creation is one where the file is there. -/
structure Addresses (fs : Filesystem) (op : Operation) (path : Path) : Prop where
  subject : op.subject? = some path
  there : op.file? = none → ∃ e, fs.catalog.find? path = some e

theorem Addresses.file? (addresses : fs.Addresses op path)
    (vacant : fs.catalog.find? path = none) : op.file? = some path := by
  obtain ⟨about, there⟩ := addresses
  cases op with
  | create =>
    obtain ⟨e, found⟩ := there rfl
    cases vacant.symm.trans found
  | _ => exact about

theorem paths_of_subject? (about : op.subject? = some path) : op.paths = [path] := by
  cases op <;> cases about <;> rfl

theorem lasts_of_subject? (about : op.subject? = some path) : op.ends = false := by
  cases op <;> first | rfl | cases about

theorem reply_absent (about : op.file? = some path) (vacant : fs.catalog.find? path = none)
    (vacant' : gs.catalog.find? path = none) : (gs.perform op).1 = (fs.perform op).1 := by
  cases op <;> cases about
  all_goals
    simp only [perform, replied, getAttributes, openFile, read, write, truncate, unlink, find,
      vacant, vacant']

/-- What an operation on one path does not do to another one. -/
theorem Tied.find?_away (tied : fs.Tied) (about : op.subject? = some path)
    (away : other ≠ path) :
    (fs.perform op).2.catalog.find? other = fs.catalog.find? other := by
  refine (tied.transition op).find?_other (lasts_of_subject? about) ?_
  rw [paths_of_subject? about]
  exact fun member => away (List.mem_singleton.1 member)

theorem Anchored.keeps_away (anchored : fs.Anchored) (about : op.subject? = some path)
    {name : String} (away : path.name ≠ name) : fs.store.Keeps name (fs.perform op).2.store := by
  refine (anchored.transition op).keeps anchored fun other member _ => ?_
  rw [paths_of_subject? about] at member
  rwa [List.mem_singleton.1 member]

theorem Anchored.site_away (anchored : fs.Anchored) (about : op.subject? = some path)
    (away : path.name ≠ other.name) : (fs.perform op).2.site other = fs.site other :=
  site_eq (anchored.find?_away about fun same => away (congrArg Path.name same.symm))
    (anchored.keeps_away about away)

/-- An operation on another file before it makes no difference to an operation on a live file. -/
theorem Anchored.undisturbed (anchored : fs.Anchored) (aboutA : a.subject? = some p)
    (aboutB : b.subject? = some q) (found : fs.catalog.find? p = some e)
    (apart : q.name ≠ p.name) :
    ((fs.perform b).2.perform a).1 = (fs.perform a).1 ∧
      ((fs.perform b).2.perform a).2.site p = (fs.perform a).2.site p ∧
      ((fs.perform b).2.perform a).2.catalog.nextSequence =
        (fs.perform b).2.catalog.nextSequence + a.spent e.kind (fs.perform a).1 := by
  have anchored' := (anchored.transition b).anchored anchored
  have same := anchored.site_away aboutB apart
  have found' := (anchored.find?_away aboutB fun eq => apart (congrArg Path.name eq.symm)).trans
    found
  have reply := anchored.reply_eq anchored'.toTied aboutA found same
  obtain ⟨_, alike⟩ := anchored.counterparts anchored'.toTied found same
  refine ⟨reply, ?_, reply ▸ anchored'.nextSequence aboutA found'⟩
  rw [(anchored'.transition a).site anchored'.toTied aboutA found', same, reply,
    alike.front aboutA, ← (anchored.transition a).site anchored.toTied aboutA found]

theorem Tied.node_of_held (tied : fs.Tied) {h : Holding}
    (found : fs.catalog.find? path = some e) (held : e.holding? = some h) :
    ∃ target, fs.store.target h.descriptor = .ok target ∧
      fs.store.names.find? path.name = some target.node := by
  have kind : e.kind = .delegated := by
    cases class' : e.kind with
    | delegated => rfl
    | synthetic =>
      have closed := (tied.sound.formed.formed _ _ found).closed class'
      cases closed.symm.trans held
  obtain ⟨target, at'⟩ := tied.anchor found kind
  exact ⟨target, at'.held _ (by rw [Entry.descriptor?, held]; rfl), at'.named⟩

theorem Renumbered.of_anchored (anchored : fs.Anchored) (anchored' : gs.Anchored)
    (faces : ∀ path,
      (gs.catalog.find? path).map Entry.face = (fs.catalog.find? path).map Entry.face)
    (nextSequence : gs.catalog.nextSequence = fs.catalog.nextSequence)
    (names : ∀ name, gs.store.names.find? name = fs.store.names.find? name)
    (objects : ∀ name, gs.store.objectAt? name = fs.store.objectAt? name)
    (settings : gs.settings = fs.settings) : Renumbered fs gs where
  faces := faces
  nextSequence := nextSequence
  names := names
  objects := objects
  settings := settings
  targets path e e' h h' found found' held held' := by
    obtain ⟨target, open', named⟩ := anchored.node_of_held found held
    obtain ⟨other, open'', named'⟩ := anchored'.node_of_held found' held'
    have same : other = target :=
      Target.node_inj (Option.some.inj (named'.symm.trans ((names path.name).trans named)))
    rw [open', open'', same]

theorem Renumbered.refl (anchored : fs.Anchored) : Renumbered fs fs :=
  .of_anchored anchored anchored (fun _ => rfl) rfl (fun _ => rfl) (fun _ => rfl) rfl

theorem Anchored.commute_live (anchored : fs.Anchored) (aboutA : a.subject? = some p)
    (aboutB : b.subject? = some q) (foundP : fs.catalog.find? p = some e)
    (foundQ : fs.catalog.find? q = some e') (different : p ≠ q) :
    Renumbered ((fs.perform a).2.perform b).2 ((fs.perform b).2.perform a).2 := by
  have apart : p.name ≠ q.name := fun same =>
    different (Path.eq_of_name_eq (anchored.isTopLevel foundP) (anchored.isTopLevel foundQ) same)
  have anchoredA := (anchored.transition a).anchored anchored
  have anchoredB := (anchored.transition b).anchored anchored
  have anchoredAB := (anchoredA.transition b).anchored anchoredA
  have anchoredBA := (anchoredB.transition a).anchored anchoredB
  obtain ⟨-, sameP, nextA⟩ := anchored.undisturbed aboutA aboutB foundP apart.symm
  obtain ⟨-, sameQ, nextB⟩ := anchored.undisturbed aboutB aboutA foundQ apart
  have siteP := sameP.trans (anchoredA.site_away aboutB apart.symm).symm
  have siteQ := (anchoredB.site_away aboutA apart).trans sameQ.symm
  have real (name : String) :
      ((fs.perform b).2.perform a).2.store.names.find? name =
          ((fs.perform a).2.perform b).2.store.names.find? name ∧
        ((fs.perform b).2.perform a).2.store.objectAt? name =
          ((fs.perform a).2.perform b).2.store.objectAt? name := by
    by_cases isP : p.name = name
    · rw [← isP]
      exact ⟨congrArg Site.node? siteP, congrArg Site.object? siteP⟩
    · by_cases isQ : q.name = name
      · rw [← isQ]
        exact ⟨congrArg Site.node? siteQ, congrArg Site.object? siteQ⟩
      · have ab := (anchored.keeps_away aboutA isP).trans (anchoredA.keeps_away aboutB isQ)
        have ba := (anchored.keeps_away aboutB isQ).trans (anchoredB.keeps_away aboutA isP)
        have keeps := ab.symm.trans ba
        exact ⟨keeps.named, keeps.objectAt?⟩
  refine .of_anchored anchoredAB anchoredBA (fun path => ?_) ?_ (fun name => (real name).1)
    (fun name => (real name).2) ?_
  · by_cases isP : path = p
    · rw [isP]
      exact congrArg Site.face? siteP
    · by_cases isQ : path = q
      · rw [isQ]
        exact congrArg Site.face? siteQ
      · rw [anchoredB.find?_away aboutA isP, anchored.find?_away aboutB isQ,
          anchoredA.find?_away aboutB isQ, anchored.find?_away aboutA isP]
  · rw [nextA, nextB, anchored.nextSequence aboutA foundP, anchored.nextSequence aboutB foundQ]
    omega
  · rw [(anchoredB.transition a).settings, (anchored.transition b).settings,
      (anchoredA.transition b).settings, (anchored.transition a).settings]

theorem Anchored.undisturbed_absent (anchored : fs.Anchored) (about : a.file? = some p)
    (aboutB : b.subject? = some q) (vacant : fs.catalog.find? p = none) (different : p ≠ q) :
    (fs.perform a).2 = fs ∧ (fs.perform b).2.perform a = ((fs.perform a).1, (fs.perform b).2) := by
  have vacant' := (anchored.find?_away aboutB different).trans vacant
  exact ⟨perform_absent about vacant,
    Prod.ext (reply_absent about vacant vacant') (perform_absent about vacant')⟩

theorem Anchored.commute (anchored : fs.Anchored) (addressesA : fs.Addresses a p)
    (addressesB : fs.Addresses b q) (different : p ≠ q) :
    ((fs.perform a).2.perform b).1 = (fs.perform b).1 ∧
      ((fs.perform b).2.perform a).1 = (fs.perform a).1 ∧
      Renumbered ((fs.perform a).2.perform b).2 ((fs.perform b).2.perform a).2 := by
  have anchoredA := (anchored.transition a).anchored anchored
  have anchoredB := (anchored.transition b).anchored anchored
  have aboutA := addressesA.subject
  have aboutB := addressesB.subject
  cases foundP : fs.catalog.find? p with
  | none =>
    obtain ⟨idle, idle'⟩ :=
      anchored.undisturbed_absent (addressesA.file? foundP) aboutB foundP different
    rw [idle, idle']
    exact ⟨rfl, rfl, .refl anchoredB⟩
  | some e =>
    cases foundQ : fs.catalog.find? q with
    | none =>
      obtain ⟨idle, idle'⟩ :=
        anchored.undisturbed_absent (addressesB.file? foundQ) aboutA foundQ (Ne.symm different)
      rw [idle, idle']
      exact ⟨rfl, rfl, .refl anchoredA⟩
    | some e' =>
      have apart : p.name ≠ q.name := fun same => different
        (Path.eq_of_name_eq (anchored.isTopLevel foundP) (anchored.isTopLevel foundQ) same)
      exact ⟨(anchored.undisturbed aboutB aboutA foundQ apart).1,
        (anchored.undisturbed aboutA aboutB foundP apart.symm).1,
        anchored.commute_live aboutA aboutB foundP foundQ different⟩

/-- After any run on a directory in which different names stand for different files and which nobody
else touches, two operations on two paths, each one that needs its file or a creation where the
file is, are answered in either order as if the other one had not been there, and leave the same
entries, the same next id and the same real files behind. -/
theorem commutes_of_run (backingDirectory : String) (fallback : Fallback) {store : Store}
    (unopened : store.descriptors = .empty) (separate : store.Separate) (ops : List Operation) :
    let fs := execute ops (start backingDirectory fallback store)
    ∀ a b p q, fs.Addresses a p → fs.Addresses b q → p ≠ q →
      ((fs.perform a).2.perform b).1 = (fs.perform b).1 ∧
        ((fs.perform b).2.perform a).1 = (fs.perform a).1 ∧
        Renumbered ((fs.perform a).2.perform b).2 ((fs.perform b).2.perform a).2 := by
  intro fs a b p q addressesA addressesB different
  have anchored : fs.Anchored := (Anchored.start unopened separate).execute ops
  exact anchored.commute addressesA addressesB different

/-- A file is opened anew, and one that is open already is created once more. -/
theorem commutes_of_opened_and_created_files :
    let p : Path := ⟨["a.mhash"], by simp [IsComponent]⟩
    let q : Path := ⟨["b.mhash"], by simp [IsComponent]⟩
    let fs := execute
      [.create p 0o644 (.ofBits 6), .release p, .create q 0o644 (.ofBits 6), .write q 0 [7]]
      (start "/d" .counter (.ofFiles [("b.mhash", ⟨.ofBytes [1, 2], 0o600⟩)]))
    let opening := Operation.openFile p (.ofBits 1)
    let creating := Operation.create q 0o644 (.ofBits 6)
    fs.Addresses opening p ∧ fs.Addresses creating q ∧
      ((fs.perform creating).2.perform opening).1 = (fs.perform opening).1 ∧
      Renumbered ((fs.perform opening).2.perform creating).2
        ((fs.perform creating).2.perform opening).2 := by
  intro p q fs opening creating
  have there : ∃ e, fs.catalog.find? q = some e :=
    Option.isSome_iff_exists.1 (by decide +kernel)
  have addressesP : fs.Addresses opening p := ⟨rfl, nofun⟩
  have addressesQ : fs.Addresses creating q := ⟨rfl, fun _ => there⟩
  have separate := (Store.plain_ofFiles [("b.mhash", ⟨.ofBytes [1, 2], 0o600⟩)]).toSeparate
  obtain ⟨-, answers, same⟩ := commutes_of_run "/d" .counter (Store.descriptors_ofFiles _) separate
    [.create p 0o644 (.ofBits 6), .release p, .create q 0o644 (.ofBits 6), .write q 0 [7]]
    opening creating p q addressesP addressesQ (by decide)
  exact ⟨addressesP, addressesQ, answers, same⟩

end Filesystem

end PatternFs
