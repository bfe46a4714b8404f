import PatternFs.Proofs.Filesystem.Site

/-! An operation on a file that is there depends on the site of the file and on nothing else, so two
mounts that have the same site at a path give the same answer there. The numbers of the descriptors
may differ; what they stand for does not. -/
namespace PatternFs

/-- The ids that an operation on a live file of a class spends. A creation over a delegated file
that works has taken one before it turns out that the file is there. -/
def Operation.spent (kind : EntryClass) : Operation → Except Failure Reply → Nat
  | .create _ _ _, .ok _ => if kind = .delegated then 1 else 0
  | _, _ => 0

namespace Filesystem

variable {fs gs base : Filesystem} {path : Path} {e e' : Entry} {op : Operation}
  {d? d?' : Option Nat} {target : Target}

/-- Clients can get at the target of an entry: it is open, or the process may open it. -/
def reaches (fs : Filesystem) (e : Entry) (target : Target) : Bool :=
  e.isOpen || fs.store.admits .readWrite target

theorem reaches_held {h : Holding} (held : e.holding? = some h) (target : Target) :
    fs.reaches e target = true := by
  simp only [reaches, Entry.isOpen, held, Option.isSome_some, Bool.true_or]

theorem reaches_closed (closed : e.holding? = none) (target : Target) :
    fs.reaches e target = fs.store.admits .readWrite target := by
  simp only [reaches, Entry.isOpen, closed, Option.isSome_none, Bool.false_or]

theorem AnchoredAt.openReal (at' : fs.AnchoredAt path d? target) :
    fs.openReal path =
      if fs.store.admits .readWrite target then
        (.ok fs.store.nextDescriptor, { fs with store := (fs.store.register target).2 })
      else (.error (.host .denied), fs) := by
  obtain ⟨text, real⟩ := at'.real
  rw [Filesystem.openReal, real]
  cases admitted : fs.store.admits .readWrite target with
  | true =>
    simp only [onStore, Store.openExisting, Store.openFor_target at'.node admitted, if_true]
    rfl
  | false =>
    simp only [onStore, Store.openExisting, Store.openFor_denied at'.node admitted,
      Bool.false_eq_true, if_false]
    rfl

/-- The target is reached through one descriptor or another, with the files as they are. -/
theorem AnchoredAt.withDescriptor (at' : fs.AnchoredAt path e.descriptor? target)
    (own : e.path = path) {α : Type} (f : Nat → Store → Except HostError α × Store) :
    if fs.reaches e target then
      ∃ d s, s.target d = .ok target ∧ s.files = fs.store.files ∧
        s.platform = fs.store.platform ∧ (fs.withDescriptor e f).1 = (f d s).1.mapError .host
    else (fs.withDescriptor e f).1 = .error (.host .denied) := by
  unfold Filesystem.withDescriptor
  cases held : e.holding? with
  | some h =>
    rw [reaches_held held, if_pos rfl]
    exact ⟨h.descriptor, fs.store, at'.held _ (by rw [Entry.descriptor?, held]; rfl), rfl, rfl, rfl⟩
  | none =>
    rw [reaches_closed held, own, at'.openReal]
    cases fs.store.admits .readWrite target with
    | true => exact ⟨_, _, Store.target_register _ _, rfl, rfl, rfl⟩
    | false => rfl

theorem AnchoredAt.addReference (at' : fs.AnchoredAt path e.descriptor? target) :
    if fs.reaches e target then
      ∃ d base, fs.addReference path e = (.ok d, base) ∧ base.store.target d = .ok target ∧
        base.store.files = fs.store.files ∧ base.store.platform = fs.store.platform
    else fs.addReference path e = (.error (.host .denied), fs) := by
  unfold Filesystem.addReference
  cases held : e.holding? with
  | some h =>
    rw [reaches_held held, if_pos rfl]
    exact ⟨_, _, rfl, at'.held _ (by rw [Entry.descriptor?, held]; rfl), rfl, rfl⟩
  | none =>
    rw [reaches_closed held, at'.openReal]
    cases fs.store.admits .readWrite target with
    | true => exact ⟨_, _, rfl, Store.target_register _ _, rfl, rfl⟩
    | false => rfl

theorem openDelegated_emptied {d : Nat} (referred : fs.addReference path e = (.ok d, base)) :
    (fs.openDelegated path e true).1 =
      ((base.store.setLength d 0).1.mapError .host).map fun _ => e.sequence := by
  rw [openDelegated, referred]
  simp only [if_true, onStore]
  cases (base.store.setLength d 0).1 <;> rfl

theorem write_delegated (found : fs.catalog.find? path = some e) (kind : e.kind = .delegated)
    (offset : Nat) (data : List UInt8) :
    (fs.write path offset data).1 =
      (fs.withDescriptor e fun d store => store.write d offset data).1.map fun _ =>
        data.length := by
  simp only [write, find, found, kind]
  cases fs.withDescriptor e fun d store => store.write d offset data with
  | mk r base => cases r <;> rfl

theorem truncate_delegated (found : fs.catalog.find? path = some e) (kind : e.kind = .delegated)
    (real : ∃ text, fs.realPath path = .ok text) (length : Nat) :
    (fs.truncate path length).1 = (fs.store.truncate path.name length).1.mapError .host := by
  obtain ⟨text, real⟩ := real
  simp only [truncate, find, found, kind, real, onStore]
  cases (fs.store.truncate path.name length).1 <;> rfl

/-- In both mounts, on one host, the path leads to one target, with the same file, which is open in
both or in neither. -/
structure Shared (fs gs : Filesystem) (path : Path) (d? d?' : Option Nat) (target : Target) :
    Prop where
  left : fs.AnchoredAt path d? target
  right : gs.AnchoredAt path d?' target
  platform : gs.store.platform = fs.store.platform
  isOpen : d?'.isSome = d?.isSome
  object : ∀ id, target = .file id → gs.store.files.find? id = fs.store.files.find? id

namespace Shared

theorem reaches (shared : Shared fs gs path e.descriptor? e'.descriptor? target) :
    gs.reaches e' target = fs.reaches e target := by
  have open' : e'.isOpen = e.isOpen := by
    have same := shared.isOpen
    rwa [Entry.descriptor?, Entry.descriptor?, Option.isSome_map, Option.isSome_map] at same
  rw [Filesystem.reaches, Filesystem.reaches, open',
    Store.admits_congr shared.platform shared.object]

theorem withDescriptor (shared : Shared fs gs path e.descriptor? e'.descriptor? target)
    (own : e.path = path) (own' : e'.path = path) {α : Type}
    {f : Nat → Store → Except HostError α × Store}
    (same : ∀ {s t d d'}, Store.Twins s d t d' target → (f d' t).1 = (f d s).1) :
    (gs.withDescriptor e' f).1 = (fs.withDescriptor e f).1 := by
  have left := shared.left.withDescriptor own f
  have right := shared.right.withDescriptor own' f
  rw [shared.reaches] at right
  cases reached : fs.reaches e target with
  | true =>
    rw [reached, if_pos rfl] at left right
    obtain ⟨d, s, left, files, platform, reply⟩ := left
    obtain ⟨d', t, right, files', platform', reply'⟩ := right
    have twins : Store.Twins s d t d' target := by
      refine ⟨?_, left, right, fun id file => ?_⟩
      · rw [platform, platform', shared.platform]
      · rw [files, files', shared.object id file]
    rw [reply, reply', same twins]
  | false =>
    rw [reached, if_neg Bool.false_ne_true] at left right
    rw [left, right]

theorem openDelegated (shared : Shared fs gs path e.descriptor? e'.descriptor? target)
    (sequence : e'.sequence = e.sequence) (truncate : Bool) :
    (gs.openDelegated path e' truncate).1 = (fs.openDelegated path e truncate).1 := by
  have left := shared.left.addReference
  have right := shared.right.addReference
  rw [shared.reaches] at right
  cases reached : fs.reaches e target with
  | false =>
    rw [reached, if_neg Bool.false_ne_true] at left right
    rw [Filesystem.openDelegated, Filesystem.openDelegated, left, right]
  | true =>
    rw [reached, if_pos rfl] at left right
    obtain ⟨d, base, referred, left, files, platform⟩ := left
    obtain ⟨d', base', referred', right, files', platform'⟩ := right
    have twins : Store.Twins base.store d base'.store d' target := by
      refine ⟨?_, left, right, fun id file => ?_⟩
      · rw [platform, platform', shared.platform]
      · rw [files, files', shared.object id file]
    cases truncate with
    | false =>
      rw [Filesystem.openDelegated, Filesystem.openDelegated, referred, referred']
      exact congrArg Except.ok sequence
    | true =>
      rw [openDelegated_emptied referred, openDelegated_emptied referred', twins.setLength 0,
        sequence]

theorem truncate (shared : Shared fs gs path d? d?' target) (length : Nat) :
    (gs.store.truncate path.name length).1 = (fs.store.truncate path.name length).1 := by
  have left := Store.target_register fs.store target
  have right := Store.target_register gs.store target
  have twins : Store.Twins (fs.store.register target).2 fs.store.nextDescriptor
      (gs.store.register target).2 gs.store.nextDescriptor target :=
    ⟨shared.platform, left, right, shared.object⟩
  rw [Store.truncate_target shared.left.node, Store.truncate_target shared.right.node,
    Store.admits_congr shared.platform shared.object, twins.setLength length]

end Shared

/-- The entries of two mounts at a path where they have the same site. -/
structure Counterparts (fs gs : Filesystem) (path : Path) (e e' : Entry) : Prop where
  found : fs.catalog.find? path = some e
  found' : gs.catalog.find? path = some e'
  own : e.path = path
  own' : e'.path = path
  face : e'.face = e.face
  shared : e.kind = .delegated → ∃ target, Shared fs gs path e.descriptor? e'.descriptor? target

theorem Tied.counterparts (tied : fs.Tied) (tied' : gs.Tied)
    (found : fs.catalog.find? path = some e) (same : gs.site path = fs.site path) :
    ∃ e', Counterparts fs gs path e e' := by
  have faces : (gs.catalog.find? path).map Entry.face = some e.face :=
    congrArg Site.face? (same.trans (site_of_find? found))
  obtain ⟨e', found', face⟩ := Option.map_eq_some_iff.1 faces
  refine ⟨e', found, found', tied.sound.formed.own _ _ found,
    tied'.sound.formed.own _ _ found', face, fun kind => ?_⟩
  have kind' : e'.kind = .delegated := (congrArg (·.identity.kind) face).trans kind
  obtain ⟨target, left⟩ := tied.anchor found kind
  obtain ⟨other, right⟩ := tied'.anchor found' kind'
  have named : gs.store.names.find? path.name = fs.store.names.find? path.name :=
    congrArg Site.node? same
  obtain rfl : other = target :=
    Target.node_inj (Option.some.inj (right.named.symm.trans (named.trans left.named)))
  have isOpen : e'.descriptor?.isSome = e.descriptor?.isSome := by
    have opens : e'.opens = e.opens := congrArg Face.opens face
    have closed := (tied.sound.formed.formed _ _ found).closed_iff
    have closed' := (tied'.sound.formed.formed _ _ found').closed_iff
    rw [opens, ← closed] at closed'
    rw [Entry.descriptor?, Entry.descriptor?, Option.isSome_map, Option.isSome_map,
      Bool.eq_iff_iff, Option.isSome_iff_ne_none, Option.isSome_iff_ne_none]
    exact not_congr closed'
  refine ⟨other, left, right, congrArg Site.platform same, isOpen, ?_⟩
  rintro id rfl
  have object : gs.store.objectAt? path.name = fs.store.objectAt? path.name :=
    congrArg Site.object? same
  rwa [Store.objectAt?_file right.named, Store.objectAt?_file left.named] at object

namespace Counterparts

theorem kind (alike : Counterparts fs gs path e e') : e'.kind = e.kind :=
  congrArg (·.identity.kind) alike.face

theorem sequence (alike : Counterparts fs gs path e e') : e'.sequence = e.sequence :=
  congrArg (·.identity.sequence) alike.face

theorem pattern (alike : Counterparts fs gs path e e') : e'.pattern = e.pattern :=
  congrArg (·.identity.pattern) alike.face

theorem size (alike : Counterparts fs gs path e e') : e'.size = e.size :=
  congrArg Face.size alike.face

theorem getAttributes (alike : Counterparts fs gs path e e') :
    gs.getAttributes path = fs.getAttributes path := by
  unfold Filesystem.getAttributes
  split
  · rfl
  · simp only [find, alike.found, alike.found', alike.kind, alike.size]
    cases kind : e.kind with
    | synthetic => rfl
    | delegated =>
      obtain ⟨target, shared⟩ := alike.shared kind
      obtain ⟨text, real⟩ := shared.left.real
      obtain ⟨text', real'⟩ := shared.right.real
      simp only [real, real', Store.attributes_target shared.left.node shared.right.node
        shared.object]

theorem openFile (alike : Counterparts fs gs path e e') (flags : OpenFlags) :
    (gs.openFile path flags).1 = (fs.openFile path flags).1 := by
  simp only [Filesystem.openFile, find, alike.found, alike.found', alike.kind]
  cases kind : e.kind with
  | synthetic => exact congrArg Except.ok alike.sequence
  | delegated =>
    obtain ⟨target, shared⟩ := alike.shared kind
    exact shared.openDelegated alike.sequence flags.truncate

theorem read (alike : Counterparts fs gs path e e') (offset length : Nat) :
    (gs.read path offset length).1 = (fs.read path offset length).1 := by
  simp only [Filesystem.read, find, alike.found, alike.found', alike.kind]
  cases kind : e.kind with
  | synthetic => simp only [alike.pattern, alike.size]
  | delegated =>
    obtain ⟨target, shared⟩ := alike.shared kind
    exact shared.withDescriptor alike.own alike.own' fun twins => twins.read offset length

theorem write (alike : Counterparts fs gs path e e') (offset : Nat) (data : List UInt8) :
    (gs.write path offset data).1 = (fs.write path offset data).1 := by
  cases kind : e.kind with
  | synthetic =>
    simp only [Filesystem.write, find, alike.found, alike.found', alike.kind, kind,
      Synthetic.write, alike.own, alike.own', alike.size]
    cases Synthetic.grown? e.size offset data.length <;> rfl
  | delegated =>
    obtain ⟨target, shared⟩ := alike.shared kind
    rw [write_delegated alike.found kind, write_delegated alike.found' (alike.kind.trans kind),
      shared.withDescriptor alike.own alike.own' fun twins => twins.write offset data]

theorem front (alike : Counterparts fs gs path e e') (about : op.subject? = some path) :
    gs.front op = fs.front op := by
  cases op with
  | write _ offset data =>
    cases about
    simp only [Filesystem.front, alike.found, alike.found', alike.kind]
    cases kind : e.kind with
    | synthetic => rfl
    | delegated =>
      obtain ⟨target, shared⟩ := alike.shared kind
      have same : gs.landed e' offset data = fs.landed e offset data := by
        rw [landed, landed, shared.withDescriptor alike.own alike.own' fun twins =>
          congrArg Except.ok (twins.taken offset data)]
      simp only [same]
  | _ => rfl

theorem truncate (alike : Counterparts fs gs path e e') (length : Nat) :
    (gs.truncate path length).1 = (fs.truncate path length).1 := by
  cases kind : e.kind with
  | synthetic =>
    simp only [Filesystem.truncate, find, alike.found, alike.found', alike.kind, kind]
  | delegated =>
    obtain ⟨target, shared⟩ := alike.shared kind
    rw [truncate_delegated alike.found kind shared.left.real,
      truncate_delegated alike.found' (alike.kind.trans kind) shared.right.real,
      shared.truncate length]

end Counterparts

theorem Tied.create_exclusive (tied : fs.Tied)
    (found : fs.catalog.find? path = some e) (mode : Nat) {flags : OpenFlags}
    (exclusive : flags.isExclusiveCreate = true) :
    fs.create path mode flags = (.error (.alreadyExists path), fs) := by
  rw [Filesystem.create, tied.sound.formed.place found, exclusive]
  cases e.kind with
  | synthetic => simp only [createSynthetic, Catalog.resetExisting, found, if_true]
  | delegated =>
    have known : fs.catalog.contains path = true := Catalog.contains_iff.2 ⟨e, found⟩
    simp only [createDelegated, known, Bool.and_true, if_true]

theorem Sound.create_synthetic (sound : fs.Sound) (found : fs.catalog.find? path = some e)
    (kind : e.kind = .synthetic) (mode : Nat) {flags : OpenFlags}
    (shared : flags.isExclusiveCreate = false) :
    fs.create path mode flags = (.ok e.sequence, fs.resizeEntry path 0) := by
  have place : newFileClass path = .ok .synthetic := kind ▸ sound.formed.place found
  simp only [Filesystem.create, place, createSynthetic, Catalog.resetExisting, found, shared,
    Bool.false_eq_true, if_false]
  rfl

theorem AnchoredAt.create_denied (at' : fs.AnchoredAt path d? target)
    (place : newFileClass path = .ok .delegated) (mode : Nat) {flags : OpenFlags}
    (shared : flags.isExclusiveCreate = false)
    (denied : fs.store.admits .readWrite target = false) :
    fs.create path mode flags = (.error (.host .denied), fs) := by
  obtain ⟨text, real⟩ := at'.real
  have refused := Store.create_target at'.node mode
  rw [denied, if_neg Bool.false_ne_true] at refused
  cases result : fs.store.create path.name mode false with
  | mk r store =>
    rw [result] at refused
    obtain rfl : r = .error .denied := refused
    obtain rfl := Store.create_error result
    simp only [Filesystem.create, place, shared, createDelegated, Bool.false_and,
      Bool.false_eq_true, if_false, real, onStore, result]
    rfl

theorem AnchoredAt.create_admitted (at' : fs.AnchoredAt path d? target)
    (place : newFileClass path = .ok .delegated) (found : fs.catalog.find? path = some e)
    (mode : Nat) {flags : OpenFlags} (shared : flags.isExclusiveCreate = false)
    (admitted : fs.store.admits .readWrite target = true) :
    (fs.create path mode flags).1 = .ok e.sequence := by
  obtain ⟨text, real⟩ := at'.real
  have made := Store.create_target at'.node mode
  rw [admitted, if_pos rfl] at made
  cases result : fs.store.create path.name mode false with
  | mk r store =>
    rw [result] at made
    obtain rfl : r = .ok fs.store.nextDescriptor := made
    have worked : fs.onStore (·.create path.name mode false) =
        (.ok fs.store.nextDescriptor, { fs with store }) := by
      rw [onStore, result]
      rfl
    have found' := (Catalog.find?_takeSequence fs.catalog path).trans found
    simp only [Filesystem.create, place, shared, createDelegated, Bool.false_and,
      Bool.false_eq_true, if_false, real, worked, Catalog.insertOrReset, Entry.delegated, found']

theorem Tied.unlink (tied : fs.Tied) (found : fs.catalog.find? path = some e) :
    (fs.unlink path).1 = .ok () := by
  simp only [Filesystem.unlink, find, found]
  cases kind : e.kind with
  | synthetic => rfl
  | delegated =>
    obtain ⟨target, at'⟩ := tied.anchor found kind
    obtain ⟨text, real⟩ := at'.real
    have removed := Store.remove_target at'.node
    simp only [real]
    cases result : fs.store.remove path.name with
    | mk r store =>
      rw [result] at removed
      obtain rfl : r = .ok () := removed
      rfl

theorem Counterparts.create (alike : Counterparts fs gs path e e') (sound : fs.Sound)
    (sound' : gs.Sound) (mode : Nat) {flags : OpenFlags}
    (exclusive : flags.isExclusiveCreate = false) :
    (gs.create path mode flags).1 = (fs.create path mode flags).1 := by
  cases kind : e.kind with
  | synthetic =>
    rw [sound.create_synthetic alike.found kind mode exclusive,
      sound'.create_synthetic alike.found' (alike.kind.trans kind) mode exclusive, alike.sequence]
  | delegated =>
    obtain ⟨target, shared⟩ := alike.shared kind
    have place : newFileClass path = .ok .delegated := kind ▸ sound.formed.place alike.found
    have same := Store.admits_congr shared.platform shared.object .readWrite
    cases admitted : fs.store.admits .readWrite target with
    | false =>
      rw [shared.left.create_denied place mode exclusive admitted,
        shared.right.create_denied place mode exclusive (same.trans admitted)]
    | true =>
      rw [shared.left.create_admitted place alike.found mode exclusive admitted,
        shared.right.create_admitted place alike.found' mode exclusive (same.trans admitted),
        alike.sequence]

/-- Two mounts that have the same site at a path give the same answer there. -/
theorem Tied.reply_eq (tied : fs.Tied) (tied' : gs.Tied)
    (about : op.subject? = some path) (found : fs.catalog.find? path = some e)
    (same : gs.site path = fs.site path) : (gs.perform op).1 = (fs.perform op).1 := by
  obtain ⟨e', alike⟩ := tied.counterparts tied' found same
  cases op with
  | getAttributes => cases about; exact congrArg (Except.map _) alike.getAttributes
  | create _ mode flags =>
    cases about
    refine congrArg (Except.map Reply.count) ?_
    cases exclusive : flags.isExclusiveCreate with
    | true =>
      rw [tied.create_exclusive alike.found mode exclusive,
        tied'.create_exclusive alike.found' mode exclusive]
    | false => exact alike.create tied.sound tied'.sound mode exclusive
  | openFile _ flags => cases about; exact congrArg (Except.map _) (alike.openFile flags)
  | read _ offset length => cases about; exact congrArg (Except.map _) (alike.read offset length)
  | write _ offset data => cases about; exact congrArg (Except.map _) (alike.write offset data)
  | truncate _ length => cases about; exact congrArg (Except.map _) (alike.truncate length)
  | unlink =>
    cases about
    simp only [perform, replied, tied.unlink alike.found, tied'.unlink alike.found']
  | release => rfl
  | setUp | destroy | teardown | rename | flush | openDirectory | list | access | lock
  | getAttribute | refused => cases about

theorem catalog_openReal (fs : Filesystem) (path : Path) :
    (fs.openReal path).2.catalog = fs.catalog := by
  unfold openReal
  split <;> rfl

theorem catalog_withDescriptor {α : Type} (fs : Filesystem) (e : Entry)
    (f : Nat → Store → Except HostError α × Store) :
    (fs.withDescriptor e f).2.catalog = fs.catalog := by
  have opened := catalog_openReal fs e.path
  unfold withDescriptor
  split
  · rfl
  · split
    · next result => rw [result] at opened; exact opened
    · next result => rw [result] at opened; exact opened

theorem nextSequence_addReference (fs : Filesystem) (path : Path) (e : Entry) :
    (fs.addReference path e).2.catalog.nextSequence = fs.catalog.nextSequence := by
  have opened := congrArg Catalog.nextSequence (catalog_openReal fs path)
  unfold addReference
  split
  · rfl
  · split
    · next result => rw [result] at opened; exact opened
    · next result => rw [result] at opened; exact opened

theorem nextSequence_dropReference (fs : Filesystem) (path : Path) :
    (fs.dropReference path).catalog.nextSequence = fs.catalog.nextSequence := by
  unfold dropReference
  split <;> rfl

theorem nextSequence_openFile (fs : Filesystem) (path : Path) (flags : OpenFlags) :
    (fs.openFile path flags).2.catalog.nextSequence = fs.catalog.nextSequence := by
  unfold openFile
  split
  · rfl
  · next e _ =>
    split
    · split <;> rfl
    · have referred := nextSequence_addReference fs path e
      unfold openDelegated
      split
      · next result => rw [result] at referred; exact referred
      · next result =>
        rw [result] at referred
        split
        · split
          · next cut =>
            have kept := congrArg (fun r => r.2.catalog.nextSequence) cut
            exact (nextSequence_dropReference _ _).trans (kept.symm.trans referred)
          · next cut =>
            have kept := congrArg (fun r => r.2.catalog.nextSequence) cut
            exact kept.symm.trans referred
        · exact referred

theorem nextSequence_file? (about : op.file? = some path) :
    (fs.perform op).2.catalog.nextSequence = fs.catalog.nextSequence := by
  cases op with
  | getAttributes => rfl
  | openFile _ flags => exact nextSequence_openFile fs _ flags
  | release => exact nextSequence_dropReference fs _
  | read _ offset length =>
    change (fs.read _ offset length).2.catalog.nextSequence = _
    unfold read
    split
    · rfl
    · split
      · rfl
      · exact congrArg Catalog.nextSequence (catalog_withDescriptor _ _ _)
  | write _ offset data =>
    change (fs.write _ offset data).2.catalog.nextSequence = _
    unfold write
    split
    · rfl
    · next e _ =>
      split
      · split <;> rfl
      · have kept := congrArg Catalog.nextSequence
          (catalog_withDescriptor fs e fun d store => store.write d offset data)
        split
        · next wrote => rw [wrote] at kept; exact kept
        · next wrote => rw [wrote] at kept; exact kept
  | truncate _ length =>
    change (fs.truncate _ length).2.catalog.nextSequence = _
    unfold truncate
    split
    · rfl
    · split
      · rfl
      · split
        · rfl
        · split
          · next cut => exact (congrArg (fun r => r.2.catalog.nextSequence) cut).symm
          · next cut => exact (congrArg (fun r => r.2.catalog.nextSequence) cut).symm
  | unlink =>
    change (fs.unlink _).2.catalog.nextSequence = _
    unfold unlink
    split
    · rfl
    · split
      · rfl
      · split
        · rfl
        · split
          · rfl
          · split <;> rfl
  | create | setUp | destroy | teardown | rename | flush | openDirectory | list | access | lock
  | getAttribute | refused => cases about

theorem Tied.create_error (tied : fs.Tied) (found : fs.catalog.find? path = some e) (mode : Nat)
    {flags : OpenFlags} {f : Failure} (failed : (fs.create path mode flags).1 = .error f) :
    (fs.create path mode flags).2 = fs := by
  cases exclusive : flags.isExclusiveCreate with
  | true => rw [tied.create_exclusive found mode exclusive]
  | false =>
    cases kind : e.kind with
    | synthetic =>
      rw [tied.sound.create_synthetic found kind mode exclusive] at failed
      cases failed
    | delegated =>
      obtain ⟨target, at'⟩ := tied.anchor found kind
      have place : newFileClass path = .ok .delegated := kind ▸ tied.sound.formed.place found
      cases admitted : fs.store.admits .readWrite target with
      | false => rw [at'.create_denied place mode exclusive admitted]
      | true =>
        rw [at'.create_admitted place found mode exclusive admitted] at failed
        cases failed

/-- A creation over a delegated file takes an id, which the file does not need. -/
theorem Tied.nextSequence_create (tied : fs.Tied)
    (found : fs.catalog.find? path = some e) (mode : Nat) (flags : OpenFlags) :
    (fs.perform (.create path mode flags)).2.catalog.nextSequence =
      fs.catalog.nextSequence +
        Operation.spent e.kind (.create path mode flags)
          (fs.perform (.create path mode flags)).1 := by
  have place := tied.sound.formed.place found
  have step := tied.transition (.create path mode flags)
  cases answer : (fs.create path mode flags).1 with
  | error f =>
    have still : (fs.perform (.create path mode flags)).2 = fs :=
      tied.create_error found mode answer
    have failed : (fs.perform (.create path mode flags)).1 = .error f := replied_error answer
    rw [still, failed]
    rfl
  | ok id =>
    have worked : (fs.perform (.create path mode flags)).1 = .ok (.count id) := replied_ok answer
    rw [worked] at step ⊢
    generalize (fs.perform (.create path mode flags)).2 = after at step ⊢
    cases step with
    | looked looks => cases looks
    | madeSynthetic _ vacant | madeDelegated _ vacant => cases vacant.symm.trans found
    | resetSynthetic place' =>
      have kind : e.kind = .synthetic := Except.ok.inj (place.symm.trans place')
      rw [kind]
      rfl
    | resetOpen place' | resetClosed place' =>
      have kind : e.kind = .delegated := Except.ok.inj (place.symm.trans place')
      rw [kind]
      rfl

theorem Tied.nextSequence (tied : fs.Tied) (about : op.subject? = some path)
    (found : fs.catalog.find? path = some e) :
    (fs.perform op).2.catalog.nextSequence =
      fs.catalog.nextSequence + op.spent e.kind (fs.perform op).1 := by
  cases op with
  | create _ mode flags =>
    cases about
    exact tied.nextSequence_create found mode flags
  | _ => exact nextSequence_file? about

end Filesystem

end PatternFs
