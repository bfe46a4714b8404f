import PatternFs.Backing
import PatternFs.Catalog
import PatternFs.Fallback
import PatternFs.OpenFlags
import PatternFs.Store
import PatternFs.Synthetic

/-! The mounted file system: one directory of synthetic and delegated files. Every operation gives
an answer and the next state, also when it fails. A delegated file is reached through the
descriptor its entry holds, and through one that is opened for the single operation when no client
has it open. -/
namespace PatternFs

structure Filesystem where
  catalog : Catalog
  store : Store
  backingDirectory : String
  fallback : Fallback

namespace Filesystem

/-- A mount that has no entries yet, on a backing directory in any state. -/
def start (backingDirectory : String) (fallback : Fallback) (store : Store) : Filesystem :=
  { catalog := .empty, store, backingDirectory, fallback }

def find (fs : Filesystem) (path : Path) : Except Failure Entry :=
  match fs.catalog.find? path with
  | some e => .ok e
  | none => .error (.notFound path)

def realPath (fs : Filesystem) (path : Path) : Except Failure String :=
  Backing.realPath fs.backingDirectory path

/-- The class that a new file at `path` has, unless no file can be there. -/
def newFileClass (path : Path) : Except Failure EntryClass :=
  match path.entryClass? with
  | none => .error (.invalidPath path .rootIsNoFile)
  | some kind =>
    if ¬ path.isTopLevel then .error (.invalidPath path .nested)
    else if path.name = "." ∨ path.name = ".." then .error (.invalidPath path .notAFileName)
    else if path.name.utf8ByteSize > nameLimit then
      .error (.pathTooLong path.text path.name.utf8ByteSize nameLimit)
    else .ok kind

def onStore {α : Type} (fs : Filesystem) (f : Store → Except HostError α × Store) :
    Except Failure α × Filesystem :=
  let (r, store) := f fs.store
  (r.mapError .host, { fs with store })

def openReal (fs : Filesystem) (path : Path) : Except Failure Nat × Filesystem :=
  match fs.realPath path with
  | .error f => (.error f, fs)
  | .ok _ => fs.onStore (·.openExisting path.name)

/-- Runs `f` on a descriptor of the entry's real file. -/
def withDescriptor {α : Type} (fs : Filesystem) (e : Entry)
    (f : Nat → Store → Except HostError α × Store) : Except Failure α × Filesystem :=
  match e.holding? with
  | some h => fs.onStore (f h.descriptor)
  | none =>
    match fs.openReal e.path with
    | (.error failure, fs) => (.error failure, fs)
    | (.ok d, fs) =>
      let (r, fs) := fs.onStore (f d)
      (r, { fs with store := fs.store.release d })

def resizeEntry (fs : Filesystem) (path : Path) (size : Nat) : Filesystem :=
  { fs with catalog := fs.catalog.modify path (·.resize size) }

/-- One client fewer at `path`. The descriptor is closed with the last one. -/
def dropReference (fs : Filesystem) (path : Path) : Filesystem :=
  match fs.catalog.find? path with
  | none => fs
  | some e =>
    { fs with
      catalog := fs.catalog.modify path Entry.release
      store := fs.store.releaseAll e.lastDescriptor?.toList }

/-- One more client at `path`, where `e` lives. A closed entry is opened. -/
def addReference (fs : Filesystem) (path : Path) (e : Entry) : Except Failure Nat × Filesystem :=
  match e.holding? with
  | some h => (.ok h.descriptor, { fs with catalog := fs.catalog.modify path Entry.acquire })
  | none =>
    match fs.openReal path with
    | (.error f, fs) => (.error f, fs)
    | (.ok d, fs) => (.ok d, { fs with catalog := fs.catalog.modify path (·.attach d) })

def getAttributes (fs : Filesystem) (path : Path) : Except Failure Attributes :=
  if path.pathClass = .root then .ok .root
  else
    match fs.find path with
    | .error f => .error f
    | .ok e =>
      match e.kind with
      | .synthetic => .ok (.synthetic e.size)
      | .delegated =>
        match fs.realPath path with
        | .error f => .error f
        | .ok _ => (fs.store.attributes path.name).mapError .host

/-- Only the root can be listed. -/
def openDirectory (path : Path) : Except Failure Unit :=
  if path.pathClass = .root then .ok () else .error (.notFound path)

def list (fs : Filesystem) (path : Path) : Except Failure (List String) :=
  match openDirectory path with
  | .error f => .error f
  | .ok () => .ok ("." :: ".." :: fs.catalog.names)

/-- A sequence id is spent even when the name is refused. -/
def createSynthetic (fs : Filesystem) (path : Path) (exclusive : Bool) :
    Except Failure Nat × Filesystem :=
  match fs.catalog.resetExisting path exclusive with
  | (.error f, _) => (.error f, fs)
  | (.ok (some id), catalog) => (.ok id, { fs with catalog })
  | (.ok none, _) =>
    let (id, catalog) := fs.catalog.takeSequence
    match Pattern.derive fs.fallback path.name id with
    | .error f => (.error f, { fs with catalog })
    | .ok pattern => (.ok id, { fs with catalog := catalog.put (.synthetic path pattern id) })

def createDelegated (fs : Filesystem) (path : Path) (mode : Nat) (exclusive : Bool) :
    Except Failure Nat × Filesystem :=
  if exclusive && fs.catalog.contains path then (.error (.alreadyExists path), fs)
  else
    match fs.realPath path with
    | .error f => (.error f, fs)
    | .ok _ =>
      match fs.onStore (·.create path.name mode exclusive) with
      | (.error f, fs) => (.error f, fs)
      | (.ok d, fs) =>
        let (id, catalog) := fs.catalog.takeSequence
        match catalog.insertOrReset (.delegated path d id) exclusive with
        | (.error f, catalog) => (.error f, { fs with catalog, store := fs.store.release d })
        | (.ok placed, catalog) =>
          (.ok placed.sequence,
            { fs with catalog, store := fs.store.releaseAll placed.surplus?.toList })

def create (fs : Filesystem) (path : Path) (mode : Nat) (flags : OpenFlags) :
    Except Failure Nat × Filesystem :=
  match newFileClass path with
  | .error f => (.error f, fs)
  | .ok .synthetic => fs.createSynthetic path flags.isExclusiveCreate
  | .ok .delegated => fs.createDelegated path mode flags.isExclusiveCreate

/-- An open that fails is never released, so it gives its reference back itself. -/
def openDelegated (fs : Filesystem) (path : Path) (e : Entry) (truncate : Bool) :
    Except Failure Nat × Filesystem :=
  match fs.addReference path e with
  | (.error f, fs) => (.error f, fs)
  | (.ok d, fs) =>
    if truncate then
      match fs.onStore (·.setLength d 0) with
      | (.error f, fs) => (.error f, fs.dropReference path)
      | (.ok (), fs) => (.ok e.sequence, fs.resizeEntry path 0)
    else (.ok e.sequence, fs)

def openFile (fs : Filesystem) (path : Path) (flags : OpenFlags) :
    Except Failure Nat × Filesystem :=
  match fs.find path with
  | .error f => (.error f, fs)
  | .ok e =>
    match e.kind with
    | .synthetic => (.ok e.sequence, if flags.truncate then fs.resizeEntry path 0 else fs)
    | .delegated => fs.openDelegated path e flags.truncate

/-- Releasing never fails, not even where there is no file. -/
def release (fs : Filesystem) (path : Path) : Filesystem := fs.dropReference path

def read (fs : Filesystem) (path : Path) (offset length : Nat) :
    Except Failure (List UInt8) × Filesystem :=
  match fs.find path with
  | .error f => (.error f, fs)
  | .ok e =>
    match e.kind with
    | .synthetic => (.ok (Synthetic.read e.pattern e.size offset length), fs)
    | .delegated => fs.withDescriptor e fun d store => (store.read d offset length, store)

/-- The end of a write, or the last position where it would lie beyond. -/
def writeEnd (offset length : Nat) : Nat := min (offset + length) (Size.limit - 1)

def write (fs : Filesystem) (path : Path) (offset : Nat) (data : List UInt8) :
    Except Failure Nat × Filesystem :=
  match fs.find path with
  | .error f => (.error f, fs)
  | .ok e =>
    match e.kind with
    | .synthetic =>
      match Synthetic.write e offset data.length with
      | (.error f, _) => (.error f, fs)
      | (.ok count, grown) => (.ok count, fs.resizeEntry path grown.size)
    | .delegated =>
      match fs.withDescriptor e fun d store => store.write d offset data with
      | (.error f, fs) => (.error f, fs)
      | (.ok (), fs) =>
        (.ok data.length, fs.resizeEntry path (max e.size (writeEnd offset data.length)))

def truncate (fs : Filesystem) (path : Path) (length : Nat) : Except Failure Unit × Filesystem :=
  match fs.find path with
  | .error f => (.error f, fs)
  | .ok e =>
    match e.kind with
    | .synthetic => (.ok (), fs.resizeEntry path length)
    | .delegated =>
      match fs.realPath path with
      | .error f => (.error f, fs)
      | .ok _ =>
        match fs.onStore (·.truncate path.name length) with
        | (.error f, fs) => (.error f, fs)
        | (.ok (), fs) => (.ok (), fs.resizeEntry path length)

/-- The real file is moved first; the entry follows only when that worked. -/
def rename (fs : Filesystem) (old new : Path) : Except Failure Unit × Filesystem :=
  match fs.catalog.checkRename old new with
  | .error f => (.error f, fs)
  | .ok kind =>
    match newFileClass new with
    | .error f => (.error f, fs)
    | .ok _ =>
      match kind with
      | .synthetic => (.ok (), { fs with catalog := fs.catalog.move old new })
      | .delegated =>
        match fs.realPath old, fs.realPath new with
        | .error f, _ => (.error f, fs)
        | .ok _, .error f => (.error f, fs)
        | .ok _, .ok _ =>
          match fs.onStore (·.rename old.name new.name) with
          | (.error f, fs) => (.error f, fs)
          | (.ok (), fs) => (.ok (), { fs with catalog := fs.catalog.move old new })

/-- The entry goes, and its descriptor is closed, however many clients it has. -/
def forget (fs : Filesystem) (path : Path) (e : Entry) : Filesystem :=
  { fs with
    catalog := fs.catalog.remove path
    store := fs.store.releaseAll (e.holding?.map Holding.descriptor).toList }

/-- A real file that is gone already is no obstacle. -/
def unlink (fs : Filesystem) (path : Path) : Except Failure Unit × Filesystem :=
  match fs.find path with
  | .error f => (.error f, fs)
  | .ok e =>
    match e.kind with
    | .synthetic => (.ok (), fs.forget path e)
    | .delegated =>
      match fs.realPath path with
      | .error f => (.error f, fs)
      | .ok _ =>
        match fs.store.remove path.name with
        | (.ok (), store) => (.ok (), { fs with store }.forget path e)
        | (.error error, _) =>
          if error = .noEntry then (.ok (), fs.forget path e) else (.error (.host error), fs)

/-- Closes every descriptor and forgets every entry. The answer counts the closed descriptors. -/
def teardown (fs : Filesystem) : Nat × Filesystem :=
  let held := fs.catalog.entries.values.filterMap (·.holding?)
  (held.length,
    { fs with
      catalog := fs.catalog.drained
      store := fs.store.releaseAll (held.map Holding.descriptor) })

end Filesystem

end PatternFs
