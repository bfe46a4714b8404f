import PatternFs.Proofs.Filesystem.Owned
import PatternFs.Proofs.Store.Plain

/-! Each delegated entry has one target, a file or the device, which it reaches in two ways: by the
name of its path, and through the descriptor it holds. Nothing but the mount's own operations can
keep the two ways together, so this is about mounts whose backing directory nobody else touches. -/
namespace PatternFs

theorem Target.node_inj {target other : Target} (same : target.node = other.node) :
    target = other := by
  cases target <;> cases other <;> cases same <;> rfl

namespace Filesystem

variable {fs base after : Filesystem} {path : Path} {e : Entry} {op : Operation}
  {r : Except Failure Reply} {d? : Option Nat} {target : Target}

/-- Both ways from the path of an entry that holds `d?` lead to `target`. -/
structure AnchoredAt (fs : Filesystem) (path : Path) (d? : Option Nat) (target : Target) :
    Prop where
  real : ∃ text, fs.realPath path = .ok text
  accessible : fs.store.Accessible path.name
  named : fs.store.names.find? path.name = some target.node
  held : ∀ d, d? = some d → fs.store.target d = .ok target

theorem AnchoredAt.node (at' : fs.AnchoredAt path d? target) :
    fs.store.node path.name = .ok target.node := Store.node_iff.2 ⟨at'.accessible, at'.named⟩

theorem AnchoredAt.reached (at' : fs.AnchoredAt path e.descriptor? target) (own : e.path = path)
    {other : Target} {store : Store} (reached : fs.Reached e other store) :
    other = target ∧ (store = fs.store ∨ store = fs.store.passed) := by
  cases reached with
  | @held h _ holding open' =>
    have same := at'.held h.descriptor (by rw [Entry.descriptor?, holding]; rfl)
    exact ⟨Except.ok.inj (open'.symm.trans same), .inl rfl⟩
  | transient closed there here =>
    rw [own] at here
    exact ⟨Target.node_inj (Except.ok.inj (here.symm.trans at'.node)), .inr rfl⟩

def Anchors (fs : Filesystem) : Prop :=
  ∀ path d?, fs.catalog.view Entry.link? path = some d? → ∃ target, fs.AnchoredAt path d? target

structure Tied (fs : Filesystem) : Prop where
  sound : fs.Sound
  owned : fs.Owned
  anchors : fs.Anchors

/-- No two names lead to one file, either. -/
structure Anchored (fs : Filesystem) : Prop extends fs.Tied where
  separate : fs.store.Separate

theorem Referred.find? {d : Nat} (referred : fs.Referred path e d base)
    (found : fs.catalog.find? path = some e) :
    ∃ now, base.catalog.find? path = some now ∧ now.kind = e.kind ∧ now.descriptor? = some d := by
  cases referred with
  | @shared h held =>
    refine ⟨_, Catalog.find?_modify_same found _, rfl, ?_⟩
    rw [Entry.descriptor?_acquire, Entry.descriptor?, held]
    rfl
  | opened closed =>
    refine ⟨_, Catalog.find?_modify_same found _, ?_, Entry.descriptor?_attach closed _⟩
    rw [Entry.attach_closed closed]

/-- The paths that an operation is not about keep their anchors, if it leaves their names and their
descriptors alone. -/
theorem Anchors.of_touched (anchors : fs.Anchors) (touched : Path → Prop)
    (directory : after.backingDirectory = fs.backingDirectory)
    (unblocked : after.store.blocked? = fs.store.blocked?)
    (others : ∀ path, ¬ touched path →
      after.catalog.view Entry.link? path = fs.catalog.view Entry.link? path)
    (names : ∀ path d?, ¬ touched path → fs.catalog.view Entry.link? path = some d? →
      after.store.names.find? path.name = fs.store.names.find? path.name)
    (targets : ∀ path d, ¬ touched path → fs.catalog.view Entry.link? path = some (some d) →
      after.store.descriptors.find? d = fs.store.descriptors.find? d)
    (here : ∀ path d?, touched path → after.catalog.view Entry.link? path = some d? →
      ∃ target, after.AnchoredAt path d? target) : after.Anchors := by
  intro path d? live
  by_cases about : touched path
  · exact here path d? about live
  · rw [others path about] at live
    obtain ⟨target, ⟨text, real⟩, accessible, named, held⟩ := anchors path d? live
    refine ⟨target, ⟨text, ?_⟩, ⟨accessible.speakable, ?_, accessible.short⟩, ?_,
      fun d holds => ?_⟩
    · rw [realPath, directory]
      exact real
    · rw [unblocked, accessible.unblocked]
    · rw [names path d? about live, named]
    · cases holds
      rw [Store.target, targets path d about live]
      exact held d rfl

theorem Anchors.still (anchors : fs.Anchors)
    (directory : after.backingDirectory = fs.backingDirectory)
    (unblocked : after.store.blocked? = fs.store.blocked?)
    (same : after.catalog.view Entry.link? = fs.catalog.view Entry.link?)
    (names : after.store.names = fs.store.names)
    (descriptors : after.store.descriptors = fs.store.descriptors) : after.Anchors :=
  anchors.of_touched (fun _ => False) directory unblocked (fun path _ => by rw [same])
    (fun _ _ _ _ => by rw [names]) (fun _ _ _ _ => by rw [descriptors])
    fun _ _ impossible => impossible.elim

theorem Sound.name_ne {α : Type} {f : Entry → Option α} {a : α} {other : Path} (sound : fs.Sound)
    (top : path.isTopLevel = true) (live : fs.catalog.view f other = some a)
    (different : other ≠ path) : other.name ≠ path.name := by
  obtain ⟨e, found, -⟩ := Option.bind_eq_some_iff.1 live
  obtain ⟨-, top', -⟩ := newFileClass_ok.1 (sound.formed.place found)
  exact fun same => different (Path.eq_of_name_eq top' top same)

namespace Tied

theorem start {backingDirectory : String} {fallback : Fallback} {store : Store}
    (unopened : store.descriptors = .empty) : (start backingDirectory fallback store).Tied := by
  have reachable := Reachable.start backingDirectory fallback unopened
  refine ⟨reachable.sound, reachable.owned, ?_⟩
  intro path d? live
  cases live

theorem untouched (tied : fs.Tied) (same : fs.Untouched after) : after.Tied where
  sound := tied.sound.untouched same
  owned := tied.owned.untouched same
  anchors := tied.anchors.still same.directory (same.store_eq (f := Store.blocked?) rfl)
    (same.view _) (same.store_eq (f := Store.names) rfl)
    (same.store_eq (f := Store.descriptors) rfl)

theorem resizeEntry (tied : fs.Tied) (path : Path) (size : Nat) :
    (fs.resizeEntry path size).Tied :=
  ⟨tied.sound.resizeEntry path size, tied.owned.resizeEntry path size,
    tied.anchors.still rfl rfl (Catalog.view_modify_same path fun _ => rfl) rfl rfl⟩

theorem changeContent (tied : fs.Tied) (id : Nat) (f : Content → Content) :
    Tied { fs with store := fs.store.changeContent id f } :=
  ⟨tied.sound.changeStore tied.sound.numbered, tied.owned.still rfl rfl,
    tied.anchors.still rfl rfl rfl rfl rfl⟩

theorem on (tied : fs.Tied) (platform : Platform) : (fs.on platform).Tied :=
  ⟨tied.sound.changeStore tied.sound.numbered, tied.owned.still rfl rfl,
    tied.anchors.still rfl rfl rfl rfl rfl⟩

theorem passed (tied : fs.Tied) : Tied { fs with store := fs.store.passed } :=
  tied.untouched ⟨.inl rfl, .inr rfl, rfl, rfl⟩

theorem anchor (tied : fs.Tied) (found : fs.catalog.find? path = some e)
    (kind : e.kind = .delegated) : ∃ target, fs.AnchoredAt path e.descriptor? target :=
  tied.anchors path _ ((Catalog.view_of_find? found).trans (Entry.link?_delegated kind))

theorem not_missing (tied : fs.Tied) (found : fs.catalog.find? path = some e)
    (kind : e.kind = .delegated) : fs.store.node path.name ≠ .error .noEntry := by
  obtain ⟨target, at'⟩ := tied.anchor found kind
  rw [at'.node]
  exact nofun

theorem target_eq (tied : fs.Tied)
    (live : fs.catalog.view Entry.link? path = some d?)
    (found : fs.store.node path.name = .ok target.node) : fs.AnchoredAt path d? target := by
  obtain ⟨other, at'⟩ := tied.anchors path d? live
  have same : other = target := Target.node_inj (Except.ok.inj (at'.node.symm.trans found))
  exact same ▸ at'

theorem made_live (tied : fs.Tied) {mode : Nat} {made : Store}
    (live : fs.catalog.view Entry.link? path = some d?)
    (creation : fs.store.Made path.name mode target made) :
    made = fs.store.changeTarget target (·.resize 0) ∧ fs.AnchoredAt path d? target := by
  cases creation with
  | fresh free =>
    obtain ⟨other, at'⟩ := tied.anchors path d? live
    cases (Store.find_ok.1 free).2.symm.trans at'.named
  | @emptied id found =>
    have named : fs.store.node path.name = .ok (Target.file id).node := Store.node_ok.2 found
    exact ⟨rfl, tied.target_eq live named⟩
  | device found =>
    have named : fs.store.node path.name = .ok Target.nullDevice.node := Store.node_ok.2 found
    exact ⟨rfl, tied.target_eq live named⟩

/-- A path takes a new descriptor of the target that its name has then. -/
theorem take (tied : fs.Tied) (top : path.isTopLevel = true)
    (directory : after.backingDirectory = fs.backingDirectory)
    (unblocked : after.store.blocked? = fs.store.blocked?)
    (view : after.catalog.view Entry.link? = fun other =>
      if other = path then some (some fs.store.nextDescriptor)
      else fs.catalog.view Entry.link? other)
    (names : ∀ name, name ≠ path.name →
      after.store.names.find? name = fs.store.names.find? name)
    (opened : after.store.descriptors =
      fs.store.descriptors.insert fs.store.nextDescriptor ⟨target, 1⟩)
    (real : ∃ text, fs.realPath path = .ok text) (accessible : fs.store.Accessible path.name)
    (named : after.store.names.find? path.name = some target.node) : after.Anchors := by
  refine tied.anchors.of_touched (· = path) directory unblocked (fun other away => ?_)
    (fun other d? away live => names _ (tied.sound.name_ne top live away))
    (fun other d away live => ?_) ?_
  · rw [view]
    exact if_neg away
  · obtain ⟨_, at'⟩ := tied.anchors other (some d) live
    obtain ⟨holders, open'⟩ := Store.target_ok.1 (at'.held d rfl)
    have known := tied.sound.numbered.lt open'
    rw [opened, Table.find?_insert_other _ _ (by omega)]
  · rintro other d? rfl live
    simp only [view, if_true] at live
    cases live
    obtain ⟨text, real⟩ := real
    refine ⟨target, ⟨text, ?_⟩, ⟨accessible.speakable, ?_, accessible.short⟩, named, ?_⟩
    · rw [realPath, directory]
      exact real
    · rw [unblocked, accessible.unblocked]
    · rintro d ⟨⟩
      exact Store.target_ok.2 ⟨1, by rw [opened, Table.find?_insert_same]⟩

theorem isTopLevel (tied : fs.Tied) (found : fs.catalog.find? path = some e) :
    path.isTopLevel = true :=
  (newFileClass_ok.1 (tied.sound.formed.place found)).2.1

theorem referred {d : Nat} (tied : fs.Tied) (found : fs.catalog.find? path = some e)
    (kind : e.kind = .delegated) (referred : fs.Referred path e d base) : base.Tied := by
  refine ⟨tied.sound.referred found kind referred,
    tied.owned.referred tied.sound.numbered found referred, ?_⟩
  cases referred with
  | shared =>
    exact tied.anchors.still rfl rfl (Catalog.view_modify_same path fun _ => by simp) rfl rfl
  | @opened target _ closed there here =>
    have live : fs.catalog.view Entry.link? path = some none := by
      rw [Catalog.view_of_find? found, Entry.link?_delegated kind, Entry.descriptor?, closed]
      rfl
    have at' := tied.target_eq live here
    refine tied.take (tied.isTopLevel found) rfl rfl ?_ (fun _ _ => rfl) rfl at'.real
      at'.accessible at'.named
    rw [Catalog.view_modify found, Entry.link?_delegated, Entry.descriptor?_attach closed]
    rw [Entry.attach_closed closed]
    exact kind

theorem descriptor_ne (tied : fs.Tied) {other : Path} {d d' : Nat}
    (held : fs.catalog.view Entry.descriptor? path = some d)
    (live : fs.catalog.view Entry.link? other = some (some d')) (different : other ≠ path) :
    d' ≠ d := by
  rintro rfl
  obtain ⟨e, found, link⟩ := Option.bind_eq_some_iff.1 live
  have held' : fs.catalog.view Entry.descriptor? other = some d' := by
    rw [Catalog.view_of_find? found, (Entry.link?_eq_some.1 link).2]
  exact different (tied.owned.apart other path d' held' held)

theorem find?_releaseAll (tied : fs.Tied) {s : Store}
    (same : s.descriptors = fs.store.descriptors) {ds : List Nat} {other : Path} {d : Nat}
    (held : ∀ d ∈ ds, fs.catalog.view Entry.descriptor? path = some d)
    (live : fs.catalog.view Entry.link? other = some (some d)) (different : other ≠ path) :
    (s.releaseAll ds).descriptors.find? d = fs.store.descriptors.find? d := by
  have single : ∀ d file, s.descriptors.find? d = some file → file.holders = 1 := by
    intro d file found
    rw [same] at found
    exact Owns.single tied.owned found
  rw [Store.find?_releaseAll single, if_neg, same]
  intro member
  exact tied.descriptor_ne (held d member) live different rfl

theorem dropReference (tied : fs.Tied) (path : Path) : (fs.dropReference path).Tied := by
  refine ⟨tied.sound.dropReference path, tied.owned.dropReference path, ?_⟩
  unfold Filesystem.dropReference
  cases found : fs.catalog.find? path with
  | none => exact tied.anchors
  | some e =>
    simp only []
    have same := Store.sameFiles_releaseAll fs.store e.lastDescriptor?.toList
    have held : ∀ d ∈ e.lastDescriptor?.toList,
        fs.catalog.view Entry.descriptor? path = some d := by
      intro d last
      rw [Catalog.view_of_find? found]
      exact Entry.descriptor?_of_last (Option.mem_toList.1 last)
    refine tied.anchors.of_touched (· = path) rfl same.blocked (fun other away => ?_)
      (fun _ _ _ _ => by rw [same.names])
      (fun other d away live => tied.find?_releaseAll rfl held live away) ?_
    · rw [Catalog.view_modify found]
      exact if_neg away
    · rintro other d? rfl live
      simp only [Catalog.view_modify found, if_true] at live
      obtain ⟨kind, holds⟩ := Entry.link?_eq_some.1 live
      obtain ⟨target, at'⟩ := tied.anchor found kind
      refine ⟨target, at'.real, same.accessible at'.accessible,
        same.find?.trans at'.named, ?_⟩
      rintro d rfl
      rw [Entry.descriptor?_release] at holds
      cases last : e.lastDescriptor? with
      | some _ => rw [last] at holds; cases holds
      | none =>
        rw [last] at holds
        exact at'.held d holds

theorem forget (tied : fs.Tied) (found : fs.catalog.find? path = some e) :
    Anchors (forget { fs with store := fs.store.unnamed path.name } path e) := by
  have same := Store.sameFiles_releaseAll (fs.store.unnamed path.name) e.descriptor?.toList
  have held : ∀ d ∈ e.descriptor?.toList, fs.catalog.view Entry.descriptor? path = some d := by
    intro d member
    rw [Catalog.view_of_find? found]
    exact Option.mem_toList.1 member
  refine tied.anchors.of_touched (· = path) rfl same.blocked (fun other away => ?_)
    (fun other d? away live => ?_)
    (fun other d away live => tied.find?_releaseAll (s := fs.store.unnamed path.name) rfl held
      live away) ?_
  · rw [Filesystem.forget, Catalog.view_remove]
    exact if_neg away
  · have apart := tied.sound.name_ne (tied.isTopLevel found) live away
    exact same.find?.trans (Table.find?_erase_other _ apart)
  · rintro other d? rfl live
    rw [Filesystem.forget, Catalog.view_remove] at live
    simp at live

theorem move {old new : Path} {store : Store} (tied : fs.Tied)
    (found : fs.catalog.find? old = some e) (top : new.isTopLevel = true)
    (real : ∃ text, fs.realPath new = .ok text) (accessible : fs.store.Accessible new.name)
    (here : fs.store.names.find? old.name = some target.node)
    (unblocked : store.blocked? = fs.store.blocked?)
    (descriptors : store.descriptors = fs.store.descriptors)
    (names : ∀ name, name ≠ old.name → name ≠ new.name →
      store.names.find? name = fs.store.names.find? name)
    (there : store.names.find? new.name = some target.node) :
    Anchors { fs with catalog := fs.catalog.move old new, store } := by
  have view := Catalog.view_move (f := Entry.link?) new (fun _ => rfl) found
  refine tied.anchors.of_touched (fun other => other = old ∨ other = new) rfl unblocked
    (fun other away => ?_) (fun other d? away live => ?_)
    (fun _ _ _ _ => by rw [descriptors]) ?_
  · obtain ⟨notOld, notNew⟩ := not_or.1 away
    simp only [view, if_neg notOld, if_neg notNew]
  · obtain ⟨notOld, notNew⟩ := not_or.1 away
    have apart := tied.sound.name_ne (tied.isTopLevel found) live notOld
    have apart' := tied.sound.name_ne top live notNew
    exact names _ apart apart'
  · intro other d? about live
    simp only [view] at live
    split at live
    · next isNew =>
      subst isNew
      obtain ⟨known, at'⟩ := tied.anchors old d? live
      have same : known = target :=
        Target.node_inj (Option.some.inj (at'.named.symm.trans here))
      subst same
      refine ⟨known, real, ⟨accessible.speakable, ?_, accessible.short⟩, there, fun d holds => ?_⟩
      · rw [unblocked, accessible.unblocked]
      · rw [Store.target, descriptors]
        exact at'.held d holds
    · next notNew =>
      rw [if_pos (about.resolve_right notNew)] at live
      cases live

theorem written (tied : fs.Tied) (target : Target) (offset : Nat) (data : List UInt8) :
    Tied { fs with store := fs.store.written target offset data } := by
  cases target with
  | file id => exact tied.changeContent id (·.splice offset data)
  | nullDevice => exact tied

theorem live (tied : fs.Tied) (place : newFileClass path = .ok .delegated)
    (found : fs.catalog.find? path = some e) :
    e.kind = .delegated ∧ fs.catalog.view Entry.link? path = some e.descriptor? := by
  have kind := Except.ok.inj ((tied.sound.formed.place found).symm.trans place)
  exact ⟨kind, (Catalog.view_of_find? found).trans (Entry.link?_delegated kind)⟩

end Tied

/-- One operation keeps the two ways together. -/
theorem Transition.tied (step : fs.Transition op r after) (tied : fs.Tied) : after.Tied := by
  have sound := step.sound tied.sound
  have owned := step.owned tied.sound tied.owned
  cases step with
  | failed same => exact tied.untouched same
  | looked => exact tied
  | destroyed | tornDown =>
    refine ⟨sound, owned, ?_⟩
    intro path d? live
    cases live
  | madeSynthetic _ vacant _ =>
    exact ⟨sound, owned,
      tied.anchors.still rfl rfl (Catalog.view_put_same vacant rfl) rfl rfl⟩
  | resetSynthetic => exact tied.resizeEntry _ 0
  | madeDelegated place _ there made _ =>
    obtain ⟨same, next', -⟩ := made.descriptors
    refine ⟨sound, owned, ?_⟩
    refine tied.take (newFileClass_ok.1 place).2.1 rfl made.blocked (Catalog.view_put _)
      (fun _ => made.names) ?_ ⟨_, there⟩ made.accessible (Store.node_iff.1 made.node).2
    rw [Store.register, same, next']
  | resetOpen place found _ _ made _ =>
    obtain ⟨rfl, -⟩ := tied.made_live (tied.live place found).2 made
    refine ⟨sound, owned, ?_⟩
    exact tied.anchors.still rfl made.blocked (Catalog.view_modify_same _ fun _ => by simp)
      (Store.names_changeTarget _ _ _) made.descriptors.1
  | @resetClosed path _ _ _ _ _ e place found _ there made closed =>
    obtain ⟨kind, live⟩ := tied.live place found
    obtain ⟨rfl, at'⟩ := tied.made_live live made
    obtain ⟨same, next', -⟩ := made.descriptors
    refine ⟨sound, owned, ?_⟩
    refine tied.take (tied.isTopLevel found) rfl made.blocked ?_ (fun _ => made.names) ?_
      at'.real at'.accessible (Store.node_iff.1 made.node).2
    · rw [Catalog.view_modify ((Catalog.find?_takeSequence _ _).trans found), Entry.link?_delegated,
        Entry.descriptor?_attach (e := e.resize 0) closed]
      · rfl
      · rw [Entry.attach_closed (e := e.resize 0) closed]
        exact kind
    · rw [Store.register, same, next']
  | openedSynthetic =>
    split
    · exact tied.resizeEntry _ 0
    · exact tied
  | openedDelegated found kind _ referred => exact tied.referred found kind referred
  | emptiedDelegated found kind _ referred _ =>
    exact ((tied.referred found kind referred).resizeEntry _ 0).changeContent _ _
  | read _ _ idle => exact tied.untouched idle.untouched
  | wroteSynthetic => exact tied.resizeEntry _ _
  | wroteNothing _ _ idle => exact (tied.untouched idle.untouched).resizeEntry _ _
  | wroteDelegated _ _ _ _ reached =>
    cases reached with
    | held => exact (tied.resizeEntry _ _).written _ _ _
    | transient => exact (tied.passed.resizeEntry _ _).written _ _ _
  | brokeOff _ _ _ _ reached =>
    cases reached with
    | held => exact tied.written _ _ _
    | transient => exact tied.passed.written _ _ _
  | cutSynthetic => exact tied.resizeEntry _ _
  | cutDelegated => exact ((tied.resizeEntry _ _).changeContent _ _).passed
  | renamedSynthetic found kind vacant _ =>
    have silent := (Catalog.view_of_find? found).trans (Entry.link?_synthetic kind)
    exact ⟨sound, owned, tied.anchors.still rfl rfl
      (Catalog.view_move_same (fun _ => rfl) found silent vacant) rfl rfl⟩
  | renamedDelegated found kind _ place there named free _ =>
    obtain ⟨target, at'⟩ := tied.anchor found kind
    cases at'.node.symm.trans named
    exact ⟨sound, owned,
      tied.move found (newFileClass_ok.1 place).2.1 ⟨_, there⟩ (Store.find_ok.1 free).1 at'.named
        rfl rfl
        (fun _ notOld notNew =>
          (Table.find?_insert_other _ _ notNew).trans (Table.find?_erase_other _ notOld))
        (Table.find?_insert_same _ _ _)⟩
  | @renamedTwin _ _ _ _ id found _ _ place there named same =>
    have here : fs.store.names.find? _ = some (Target.file id).node := (Store.node_iff.1 named).2
    obtain ⟨accessible, twin⟩ := Store.node_iff.1 same
    exact ⟨sound, owned,
      tied.move found (newFileClass_ok.1 place).2.1 ⟨_, there⟩ accessible here rfl rfl
        (fun _ _ _ => rfl) twin⟩
  | unlinkedSynthetic found kind =>
    have silent := (Catalog.view_of_find? found).trans (Entry.link?_synthetic kind)
    exact ⟨sound, owned,
      tied.anchors.still rfl rfl (Catalog.view_remove_same silent) rfl rfl⟩
  | unlinkedDelegated found =>
    exact ⟨sound, owned, tied.forget found⟩
  | unlinkedMissing found kind missing => exact absurd missing (tied.not_missing found kind)
  | released => exact tied.dropReference _

theorem Untouched.sameFiles (same : fs.Untouched after) : fs.store.SameFiles after.store := by
  rcases same.store with eq | eq <;> rw [eq]
  · exact .refl _
  · exact Store.sameFiles_passed _

theorem Referred.sameFiles {d : Nat} (referred : fs.Referred path e d base) :
    fs.store.SameFiles base.store := by
  cases referred with
  | shared => exact .refl _
  | opened => exact Store.sameFiles_register _ _

theorem sameFiles_dropReference (fs : Filesystem) (path : Path) :
    fs.store.SameFiles (fs.dropReference path).store := by
  unfold dropReference
  split
  · exact .refl _
  · exact Store.sameFiles_releaseAll _ _

theorem Reached.sameFiles {store : Store} (reached : fs.Reached e target store) :
    fs.store.SameFiles store := by
  cases reached with
  | held => exact .refl _
  | transient => exact Store.sameFiles_passed _

/-- No operation gives a file a second name. -/
theorem Transition.separate (step : fs.Transition op r after) (separate : fs.store.Separate) :
    after.store.Separate := by
  cases step with
  | failed same => exact same.sameFiles.separate separate
  | destroyed | tornDown | unlinkedMissing =>
    exact (Store.sameFiles_releaseAll _ _).separate separate
  | madeDelegated _ _ _ made | resetClosed _ _ _ _ made =>
    exact (Store.sameFiles_register _ _).separate (made.separate separate)
  | resetOpen _ _ _ _ made => exact (Store.sameFiles_passed _).separate (made.separate separate)
  | openedSynthetic => split <;> exact separate
  | openedDelegated _ _ _ referred => exact referred.sameFiles.separate separate
  | emptiedDelegated _ _ _ referred =>
    exact Store.separate_changeContent (referred.sameFiles.separate separate) _ (·.resize 0)
  | read _ _ idle => exact idle.untouched.sameFiles.separate separate
  | wroteNothing _ _ idle => exact idle.untouched.sameFiles.separate separate
  | wroteDelegated _ _ _ _ reached | brokeOff _ _ _ _ reached =>
    exact Store.separate_written (reached.sameFiles.separate separate) _ _ _
  | cutDelegated =>
    exact Store.separate_changeContent ((Store.sameFiles_passed _).separate separate) _ (·.resize _)
  | renamedDelegated _ _ _ _ _ named =>
    exact Store.separate_renamed separate (Store.node_iff.1 named).2
  | unlinkedDelegated =>
    exact (Store.sameFiles_releaseAll _ _).separate (Store.separate_unnamed separate _)
  | released => exact (sameFiles_dropReference fs _).separate separate
  | looked | madeSynthetic | resetSynthetic | wroteSynthetic | cutSynthetic | renamedSynthetic
  | renamedTwin | unlinkedSynthetic => exact separate

theorem Anchored.on (anchored : fs.Anchored) (platform : Platform) : (fs.on platform).Anchored where
  toTied := anchored.toTied.on platform
  separate := ⟨anchored.separate.known, anchored.separate.own, anchored.separate.fresh⟩

theorem Sound.not_twin {old new : Path} {id : Nat} (sound : fs.Sound)
    (separate : fs.store.Separate) (found : fs.catalog.find? old = some e)
    (vacant : fs.catalog.find? new = none) (place : newFileClass new = .ok .delegated)
    (named : fs.store.node old.name = .ok (.file id)) :
    fs.store.node new.name ≠ .ok (.file id) := by
  intro same
  have name := separate.own _ _ id (Store.node_file.1 named).2 (Store.node_file.1 same).2
  obtain ⟨-, top, -⟩ := newFileClass_ok.1 (sound.formed.place found)
  obtain ⟨-, top', -⟩ := newFileClass_ok.1 place
  obtain rfl := Path.eq_of_name_eq top top' name
  cases vacant.symm.trans found

theorem Transition.anchored (step : fs.Transition op r after) (anchored : fs.Anchored) :
    after.Anchored := ⟨step.tied anchored.toTied, step.separate anchored.separate⟩

theorem Anchored.start {backingDirectory : String} {fallback : Fallback} {store : Store}
    (unopened : store.descriptors = .empty) (separate : store.Separate) :
    (start backingDirectory fallback store).Anchored := ⟨.start unopened, separate⟩

end Filesystem

end PatternFs
