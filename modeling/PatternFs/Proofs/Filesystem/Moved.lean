import PatternFs.Proofs.Filesystem.Identities
import PatternFs.Proofs.Store.Plain

/-! A renamed file is what it was, under another path. Its entry is the same but for the path, and
the name of a delegated file moves with it. What was moved to a place that nothing had can be moved
back, and then everything is where it was. -/
namespace PatternFs

namespace Table

variable {κ α : Type} [DecidableEq κ] {old new key : κ} {f g : α → α} {s t u : Table κ α}

/-- What `s` has at `old`, changed by `f`, `t` has at `new`; all else is the same. The rows may
stand in another order. -/
def Moved (f : α → α) (old new : κ) (s t : Table κ α) : Prop :=
  ∀ key, t.find? key =
    if key = new then (s.find? old).map f else if key = old then none else s.find? key

theorem moved_insert {v : α} (here : s.find? old = some v) :
    Moved f old new s ((s.erase old).insert new (f v)) := by
  intro key
  rw [find?_insert, find?_erase, here]
  rfl

namespace Moved

theorem at_new (moved : Moved f old new s t) {v : α} (here : s.find? old = some v) :
    t.find? new = some (f v) := by
  rw [moved new, if_pos rfl, here]
  rfl

theorem at_old (moved : Moved f old new s t) (different : old ≠ new) : t.find? old = none := by
  rw [moved old, if_neg different, if_pos rfl]

theorem elsewhere (moved : Moved f old new s t) (notOld : key ≠ old) (notNew : key ≠ new) :
    t.find? key = s.find? key := by
  rw [moved key, if_neg notNew, if_neg notOld]

/-- There and back again. -/
theorem undone (away : Moved f old new s t) (home : Moved g new old t u) {v : α}
    (here : s.find? old = some v) (free : s.find? new = none) (same : g (f v) = v) (key : κ) :
    u.find? key = s.find? key := by
  have different : new ≠ old := by
    rintro rfl
    cases free.symm.trans here
  by_cases isOld : key = old
  · rw [isOld, here, home.at_new (away.at_new here), same]
  · by_cases isNew : key = new
    · rw [isNew, free, home.at_old different]
    · rw [home.elsewhere isNew isOld, away.elsewhere isOld isNew]

end Moved

end Table

theorem Catalog.moved_move {c : Catalog} {old : Path} {e : Entry} (found : c.find? old = some e)
    (new : Path) :
    Table.Moved (fun e => { e with path := new }) old new c.entries (c.move old new).entries := by
  intro path
  rw [show c.entries.find? old = some e from found]
  exact find?_move found new path

theorem Catalog.checkRename_free {c : Catalog} {old new : Path} {e : Entry}
    (found : c.find? old = some e) (free : c.find? new = none)
    (class' : new.entryClass? = some e.kind) : c.checkRename old new = .ok e.kind := by
  have vacant : c.contains new = false := by
    rw [contains, Table.contains, show c.entries.find? new = none from free]
    rfl
  simp only [checkRename, found, vacant, class', Bool.false_eq_true, if_false, ne_eq,
    not_true_eq_false]

theorem Store.rename_free {s : Store} {old new : String} {node : Node}
    (here : s.node old = .ok node) (free : s.find new = .ok none) :
    s.rename old new = (.ok (), s.renamed old new node) := by
  have different : old ≠ new := by
    rintro rfl
    cases (node_ok.1 here).symm.trans free
  have speakable := (find_ok.1 free).1.speakable
  simp only [rename, speakable, Bool.false_eq_true, if_false, here, free, Option.any_none,
    or_false, if_neg different]
  rfl

namespace Filesystem

variable {fs after again : Filesystem} {old new path : Path} {e : Entry} {offset length : Nat}

/-- A real file can be under the path. -/
structure Usable (fs : Filesystem) (path : Path) : Prop where
  real : ∃ text, fs.realPath path = .ok text
  accessible : fs.store.Accessible path.name

/-- The real file of `old` can be moved, and nothing has the name it gets. -/
structure MovableFile (fs : Filesystem) (old new : Path) : Prop where
  source : fs.Usable old
  target : fs.Usable new
  here : ∃ node, fs.store.names.find? old.name = some node
  free : fs.store.names.find? new.name = none

/-- The file `e` at `old` can be moved: both paths are such that a file of its class can be there,
and `new` is free. -/
structure Movable (fs : Filesystem) (old new : Path) (e : Entry) : Prop where
  found : fs.catalog.find? old = some e
  own : e.path = old
  source : newFileClass old = .ok e.kind
  free : fs.catalog.find? new = none
  target : newFileClass new = .ok e.kind
  file : e.kind = .delegated → fs.MovableFile old new

/-- Only the file `e` at `old` is somewhere else, with all it has, and that is at `new`. -/
structure Moved (fs : Filesystem) (old new : Path) (e : Entry) (after : Filesystem) : Prop where
  entries : Table.Moved (fun e => { e with path := new }) old new fs.catalog.entries
    after.catalog.entries
  nextSequence : after.catalog.nextSequence = fs.catalog.nextSequence
  kept : e.kind = .synthetic → after.store.names = fs.store.names
  named : e.kind = .delegated →
    Table.Moved id old.name new.name fs.store.names after.store.names
  store : after.store = { fs.store with names := after.store.names }
  directory : after.backingDirectory = fs.backingDirectory
  fallback : after.fallback = fs.fallback

/-- The entries and the backing directory are what they were. -/
structure Restored (fs again : Filesystem) : Prop where
  entries : ∀ path, again.catalog.find? path = fs.catalog.find? path
  nextSequence : again.catalog.nextSequence = fs.catalog.nextSequence
  names : ∀ name, again.store.names.find? name = fs.store.names.find? name
  store : again.store = { fs.store with names := again.store.names }
  directory : again.backingDirectory = fs.backingDirectory
  fallback : again.fallback = fs.fallback

theorem Movable.rename (movable : fs.Movable old new e) :
    ∃ after, fs.rename old new = (.ok (), after) ∧ fs.Moved old new e after := by
  have class' := (newFileClass_ok.1 movable.target).1
  have checked := Catalog.checkRename_free movable.found movable.free class'
  have entries := Catalog.moved_move movable.found new
  have next' := nextSequence_move fs.catalog old new
  simp only [Filesystem.rename, checked, movable.target]
  cases kind : e.kind with
  | synthetic =>
    refine ⟨_, rfl, entries, next', fun _ => rfl, fun delegated => ?_, rfl, rfl, rfl⟩
    cases kind.symm.trans delegated
  | delegated =>
    obtain ⟨⟨⟨_, source⟩, canRead⟩, ⟨⟨_, target⟩, canWrite⟩, ⟨node, here⟩, free⟩ :=
      movable.file kind
    have there := Store.node_iff.2 ⟨canRead, here⟩
    have renamed := Store.rename_free there (Store.find_ok.2 ⟨canWrite, free⟩)
    simp only [source, target, onStore, renamed]
    refine ⟨_, rfl, entries, next', fun synthetic => ?_, fun _ => Table.moved_insert here, rfl,
      rfl, rfl⟩
    cases kind.symm.trans synthetic

/-- A real file is not moved before its place is known. -/
theorem realPath_of_renamed (renamed : (fs.rename old new).1 = .ok ())
    (found : fs.catalog.find? old = some e) (kind : e.kind = .delegated) :
    ∃ text, fs.realPath old = .ok text := by
  cases source : fs.realPath old with
  | ok text => exact ⟨text, rfl⟩
  | error f =>
    unfold Filesystem.rename at renamed
    cases checked : fs.catalog.checkRename old new with
    | error g =>
      rw [checked] at renamed
      cases renamed
    | ok known =>
      obtain ⟨e', here, rfl, -, -⟩ := Catalog.checkRename_ok checked
      cases found.symm.trans here
      simp only [checked, kind, source] at renamed
      cases place : newFileClass new <;> rw [place] at renamed <;> cases renamed

theorem Sound.movable (sound : fs.Sound) (renamed : (fs.rename old new).1 = .ok ())
    (free : ∀ e, fs.catalog.find? old = some e → e.kind = .delegated →
      fs.store.names.find? new.name = none) : ∃ e, fs.Movable old new e := by
  have step : fs.Transition (.rename old new) _ _ := transition_rename sound.formed
  rw [renamed] at step
  generalize (fs.rename old new).2 = after at step
  cases step with
  | looked looks => cases looks
  | @renamedSynthetic _ _ e found kind vacant place =>
    refine ⟨e, found, sound.formed.own old e found, sound.formed.place found, vacant, kind ▸ place,
      fun delegated => ?_⟩
    cases kind.symm.trans delegated
  | @renamedDelegated _ _ e _ node _ found kind vacant place there named target _ =>
    refine ⟨e, found, sound.formed.own old e found, sound.formed.place found, vacant, kind ▸ place,
      fun _ => ?_⟩
    obtain ⟨canRead, here⟩ := Store.node_iff.1 named
    obtain ⟨canWrite, -⟩ := Store.find_ok.1 target
    exact ⟨⟨realPath_of_renamed renamed found kind, canRead⟩, ⟨⟨_, there⟩, canWrite⟩, ⟨node, here⟩,
      free e found kind⟩
  | renamedTwin found kind _ _ _ _ same =>
    cases (Store.node_iff.1 same).2.symm.trans (free _ found kind)

namespace Moved

theorem realPath (moved : fs.Moved old new e after) (path : Path) :
    after.realPath path = fs.realPath path := by
  rw [Filesystem.realPath, Filesystem.realPath, moved.directory]

theorem accessible (moved : fs.Moved old new e after) {name : String}
    (accessible : fs.store.Accessible name) : after.store.Accessible name := by
  refine ⟨accessible.speakable, ?_, accessible.short⟩
  rw [moved.store]
  exact accessible.unblocked

theorem usable (moved : fs.Moved old new e after) (usable : fs.Usable path) :
    after.Usable path := by
  obtain ⟨⟨text, real⟩, accessible⟩ := usable
  exact ⟨⟨text, (moved.realPath path).trans real⟩, moved.accessible accessible⟩

end Moved

namespace Movable

theorem different (movable : fs.Movable old new e) : old ≠ new := by
  rintro rfl
  cases movable.free.symm.trans movable.found

theorem at_new (movable : fs.Movable old new e) (moved : fs.Moved old new e after) :
    after.catalog.find? new = some { e with path := new } := moved.entries.at_new movable.found

theorem at_old (movable : fs.Movable old new e) (moved : fs.Moved old new e after) :
    after.catalog.find? old = none := moved.entries.at_old movable.different

/-- The place that a file left can take it again. -/
theorem back (movable : fs.Movable old new e) (moved : fs.Moved old new e after) :
    after.Movable new old { e with path := new } where
  found := movable.at_new moved
  own := rfl
  source := movable.target
  free := movable.at_old moved
  target := movable.source
  file delegated := by
    obtain ⟨source, target, ⟨node, here⟩, free⟩ := movable.file delegated
    have names := moved.named delegated
    have different : old.name ≠ new.name := by
      intro same
      rw [same] at here
      cases free.symm.trans here
    exact ⟨moved.usable target, moved.usable source, ⟨node, names.at_new here⟩,
      names.at_old different⟩

theorem restored (movable : fs.Movable old new e) (away : fs.Moved old new e after)
    (home : after.Moved new old { e with path := new } again) : fs.Restored again where
  entries path := by
    refine Table.Moved.undone away.entries home.entries movable.found movable.free ?_ path
    rw [← movable.own]
  nextSequence := home.nextSequence.trans away.nextSequence
  names name := by
    cases kind : e.kind with
    | synthetic => rw [home.kept kind, away.kept kind]
    | delegated =>
      obtain ⟨-, -, ⟨node, here⟩, free⟩ := movable.file kind
      exact Table.Moved.undone (away.named kind) (home.named kind) here free rfl name
  store := by
    rw [home.store, away.store]
  directory := home.directory.trans away.directory
  fallback := home.fallback.trans away.fallback

end Movable

theorem read_alike {other own : Path} (found : fs.catalog.find? path = some e)
    (found' : after.catalog.find? other = some { e with path := own })
    (store : after.store = { fs.store with names := after.store.names })
    (opens : e.kind = .delegated →
      (after.realPath own).map (fun _ => ()) = (fs.realPath e.path).map (fun _ => ()) ∧
        after.store.node own.name = fs.store.node e.path.name) :
    (after.read other offset length).1 = (fs.read path offset length).1 := by
  simp only [Filesystem.read, find, found, found']
  cases kind : e.kind with
  | synthetic => rfl
  | delegated =>
    obtain ⟨real, node⟩ := opens kind
    simp only [withDescriptor]
    cases e.holding? with
    | some h =>
      simp only [onStore]
      rw [store]
      rfl
    | none =>
      -- The only read that looks at a name: the file is closed and has to be found.
      simp only [openReal]
      cases there : fs.realPath e.path with
      | error f =>
        cases there' : after.realPath own with
        | error f' =>
          rw [there, there'] at real
          cases real
          rfl
        | ok text =>
          rw [there, there'] at real
          cases real
      | ok text =>
        cases there' : after.realPath own with
        | error f' =>
          rw [there, there'] at real
          cases real
        | ok text' =>
          simp only [onStore, Store.openExisting, Store.openFor, node]
          cases fs.store.node e.path.name with
          | error error => rfl
          | ok node =>
            rw [store]
            cases node with
            | file id =>
              have may : Store.mayOpen { fs.store with names := after.store.names } id .readWrite =
                  fs.store.mayOpen id .readWrite := rfl
              simp only [may]
              cases fs.store.mayOpen id .readWrite <;> rfl
            | directory | nullDevice => rfl

theorem Movable.read_new (movable : fs.Movable old new e) (moved : fs.Moved old new e after)
    (offset length : Nat) :
    (after.read new offset length).1 = (fs.read old offset length).1 := by
  refine read_alike movable.found (movable.at_new moved) moved.store fun delegated => ?_
  obtain ⟨⟨⟨_, source⟩, canRead⟩, ⟨⟨_, target⟩, canWrite⟩, ⟨node, here⟩, -⟩ :=
    movable.file delegated
  have there := Store.node_iff.2 ⟨canRead, here⟩
  have there' := Store.node_iff.2 ⟨moved.accessible canWrite, (moved.named delegated).at_new here⟩
  rw [movable.own, source, moved.realPath, target, there, there']
  exact ⟨rfl, rfl⟩

theorem Movable.read_other (movable : fs.Movable old new e) (moved : fs.Moved old new e after)
    (sound : fs.Sound) (notOld : path ≠ old) (notNew : path ≠ new) (offset length : Nat) :
    (after.read path offset length).1 = (fs.read path offset length).1 := by
  have same : after.catalog.find? path = fs.catalog.find? path :=
    moved.entries.elsewhere notOld notNew
  cases found : fs.catalog.find? path with
  | none => simp only [Filesystem.read, find, same, found]
  | some other =>
    have own := sound.formed.own path other found
    have found' : after.catalog.find? path = some { other with path } := by
      rw [same, found, ← own]
    refine read_alike found found' moved.store fun _ => ?_
    rw [moved.realPath, own]
    refine ⟨rfl, ?_⟩
    have top := sound.formed.isTopLevel found
    have named : after.store.names.find? path.name = fs.store.names.find? path.name := by
      cases kind : e.kind with
      | synthetic => rw [moved.kept kind]
      | delegated =>
        refine (moved.named kind).elsewhere (fun eq => notOld ?_) fun eq => notNew ?_
        · exact Path.eq_of_name_eq top (sound.formed.isTopLevel movable.found) eq
        · exact Path.eq_of_name_eq top (newFileClass_ok.1 movable.target).2.1 eq
    rw [moved.store]
    simp only [Store.node, Store.find, named]

end Filesystem

end PatternFs
