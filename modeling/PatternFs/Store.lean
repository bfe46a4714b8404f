import PatternFs.Attributes
import PatternFs.Host
import PatternFs.Platform
import PatternFs.Reading
import PatternFs.Table

/-! The backing directory and the files that are open in it. Names stand for files, and an open
descriptor stands for the file it was opened on, whatever becomes of the name. A file may have
several names. A descriptor may have several holders; it is closed when the last of them lets go.
Numbers of files and of descriptors are never given out twice. All files belong to the process. -/
namespace PatternFs

/-- What a name in the backing directory stands for. -/
inductive Node
  | file (id : Nat)
  | directory (inside : Tree)
  /-- A link to the device that holds nothing and takes everything. -/
  | nullDevice

def Node.sameFile : Node → Node → Bool
  | .file id, .file other => id = other
  | _, _ => false

structure FileObject where
  content : Content
  mode : Nat

/-- What a descriptor was opened on. -/
inductive Target
  | file (id : Nat)
  | nullDevice
  deriving DecidableEq

structure OpenFile where
  target : Target
  holders : Nat
  deriving DecidableEq

structure Store where
  platform : Platform
  /-- Set when the directory cannot be reached. Every access by name then fails. -/
  blocked? : Option HostError
  names : Table String Node
  files : Table Nat FileObject
  nextFile : Nat
  descriptors : Table Nat OpenFile
  nextDescriptor : Nat
  /-- The descriptors that were closed, the last one first. -/
  closed : List Nat

namespace Store

def empty : Store :=
  { platform := .common
    blocked? := none
    names := .empty
    files := .empty
    nextFile := 0
    descriptors := .empty
    nextDescriptor := 0
    closed := [] }

/-- A store whose directory meets `e` on every access. -/
def unreachable (e : HostError) : Store := { empty with blocked? := some e }

/-- Permission bits of a new file, after the bits that others than the owner may not have. -/
def createdMode (mode : Nat) : Nat := mode &&& 0o7755

/-- A change of the content takes away the right to run as the owner, and as the group where the
group may run the file. -/
def changedMode (mode : Nat) : Nat :=
  let owner := if mode.testBit 11 then 0o4000 else 0
  let group := if mode.testBit 10 && mode.testBit 3 then 0o2000 else 0
  mode - owner - group

inductive Access
  | readWrite
  | writeOnly
  deriving DecidableEq

/-- The permission bits of the owner that an access asks for. -/
def Access.granted (access : Access) (mode : Nat) : Bool :=
  match access with
  | .readWrite => mode.testBit 8 && mode.testBit 7
  | .writeOnly => mode.testBit 7

/-- A name with a NUL cannot be handed to the system at all. -/
def unspeakable (name : String) : Bool := name.toList.contains '\x00'

def find (s : Store) (name : String) : Except HostError (Option Node) :=
  if unspeakable name then .error .unnumbered
  else
    match s.blocked? with
    | some e => .error e
    | none =>
      if name.utf8ByteSize > nameLimit then .error .nameTooLong else .ok (s.names.find? name)

def node (s : Store) (name : String) : Except HostError Node :=
  match s.find name with
  | .ok (some n) => .ok n
  | .ok none => .error .noEntry
  | .error e => .error e

def register (s : Store) (target : Target) : Nat × Store :=
  (s.nextDescriptor,
    { s with
      descriptors := s.descriptors.insert s.nextDescriptor ⟨target, 1⟩
      nextDescriptor := s.nextDescriptor + 1 })

def retain (s : Store) (d : Nat) : Store :=
  { s with descriptors := s.descriptors.modify d fun f => { f with holders := f.holders + 1 } }

/-- One holder lets go of `d`. Letting go of a descriptor that is not open counts as one more
close of it. -/
def release (s : Store) (d : Nat) : Store :=
  match s.descriptors.find? d with
  | some ⟨_, holders + 2⟩ =>
    { s with descriptors := s.descriptors.modify d fun f => { f with holders := holders + 1 } }
  | _ => { s with descriptors := s.descriptors.erase d, closed := d :: s.closed }

def releaseAll (s : Store) (descriptors : List Nat) : Store := descriptors.foldl release s

/-- Error number of an access through a descriptor that is not open. -/
def badDescriptor : HostError := .numbered 9

/-- What the host reports when a holder of `d` closes it. Only the last one makes a call. -/
def closeError? (s : Store) (d : Nat) : Option HostError :=
  match s.descriptors.find? d with
  | some ⟨_, _ + 2⟩ => none
  | _ => s.platform.closing d

def target (s : Store) (d : Nat) : Except HostError Target :=
  match s.descriptors.find? d with
  | some f => .ok f.target
  | none => .error badDescriptor

def content (s : Store) (id : Nat) : Content :=
  ((s.files.find? id).map FileObject.content).getD .empty

def changeContent (s : Store) (id : Nat) (f : Content → Content) : Store :=
  { s with
    files := s.files.modify id fun object => ⟨f object.content, changedMode object.mode⟩ }

/-- What the host answers to a read: all it has at once, and then nothing. -/
def answers (s : Store) (d offset length : Nat) : List Answer :=
  match s.target d with
  | .error e => [.failed e]
  | .ok target =>
    if offset + length ≥ Content.limit then [.failed .invalid]
    else
      match target with
      | .file id => [.bytes ((s.content id).slice offset length), .bytes []]
      | .nullDevice => [.bytes []]

def read (s : Store) (d offset length : Nat) : Except HostError (List UInt8) :=
  (Reading.run length (s.answers d offset length)).result

/-- The calls of a write to a file. -/
def writing (s : Store) (id offset : Nat) (data : List UInt8) : Writing :=
  Writing.run (s.content id) offset data (s.platform.writing (s.content id) offset data)

/-- Writing nothing makes no call and always succeeds. A write that fails may have changed the file
before the call that failed. -/
def write (s : Store) (d offset : Nat) (data : List UInt8) : Except HostError Unit × Store :=
  if data = [] then (.ok (), s)
  else
    match s.target d with
    | .error e => (.error e, s)
    | .ok target =>
      if offset + data.length ≥ Content.limit then (.error .invalid, s)
      else
        match target with
        | .file id =>
          let w := s.writing id offset data
          (w.result, if w.taken = 0 then s else s.changeContent id fun _ => w.content)
        | .nullDevice => (.ok (), s)

/-- A length that does not fit the host's type is refused before any call. -/
def setLength (s : Store) (d length : Nat) : Except HostError Unit × Store :=
  if length ≥ Content.limit then (.error .unnumbered, s)
  else
    match s.target d with
    | .error e => (.error e, s)
    | .ok (.file id) =>
      if length > s.platform.sizeLimit then (.error .tooBig, s)
      else (.ok (), s.changeContent id (·.resize length))
    | .ok .nullDevice => (.error .invalid, s)

/-- A new empty file under a free name. -/
def addFile (s : Store) (name : String) (mode : Nat) : Nat × Store :=
  (s.nextFile,
    { s with
      names := s.names.insert name (.file s.nextFile)
      files := s.files.insert s.nextFile ⟨.empty, createdMode mode⟩
      nextFile := s.nextFile + 1 })

def mode (s : Store) (id : Nat) : Nat := ((s.files.find? id).map FileObject.mode).getD 0

def mayOpen (s : Store) (id : Nat) (access : Access) : Bool :=
  s.platform.overrides || access.granted (s.mode id)

def opened (r : Nat × Store) : Except HostError Nat × Store := (.ok r.1, r.2)

/-- Opens a file, emptied when it is there and new otherwise. An exclusive creation takes a free
name only. -/
def create (s : Store) (name : String) (mode : Nat) (exclusive : Bool) :
    Except HostError Nat × Store :=
  match s.find name with
  | .error e => (.error e, s)
  | .ok none =>
    let (id, s) := s.addFile name mode
    opened (s.register (.file id))
  | .ok (some node) =>
    if exclusive then (.error .fileExists, s)
    else
      match node with
      | .file id =>
        if s.mayOpen id .readWrite then
          opened ((s.changeContent id (·.resize 0)).register (.file id))
        else (.error .denied, s)
      | .directory _ => (.error .isDirectory, s)
      | .nullDevice => opened (s.register .nullDevice)

def openFor (access : Access) (s : Store) (name : String) : Except HostError Nat × Store :=
  match s.node name with
  | .error e => (.error e, s)
  | .ok (.file id) =>
    if s.mayOpen id access then opened (s.register (.file id)) else (.error .denied, s)
  | .ok (.directory _) => (.error .isDirectory, s)
  | .ok .nullDevice => opened (s.register .nullDevice)

def openExisting (s : Store) (name : String) : Except HostError Nat × Store :=
  s.openFor .readWrite name

/-- Opens the file for the one change. -/
def truncate (s : Store) (name : String) (length : Nat) : Except HostError Unit × Store :=
  match s.openFor .writeOnly name with
  | (.error e, s) => (.error e, s)
  | (.ok d, s) =>
    let (r, s) := s.setLength d length
    (r, s.release d)

/-- Why an entry may not be put where another one is, if it may not. A directory replaces only an
empty directory, and nothing else replaces a directory. -/
def replaceError? : Node → Node → Option HostError
  | .directory _, .directory inside => if inside.entries.isEmpty then none else some .notEmpty
  | .directory _, _ => some .notDirectory
  | _, .directory _ => some .isDirectory
  | _, _ => none

/-- The entry moves with its content and its descriptors, and replaces what had the new name. Where
the new name stands for the same file already, nothing happens. -/
def rename (s : Store) (old new : String) : Except HostError Unit × Store :=
  if unspeakable new then (.error .unnumbered, s)
  else
    match s.node old with
    | .error e => (.error e, s)
    | .ok moved =>
      match s.find new with
      | .error e => (.error e, s)
      | .ok target? =>
        if old = new ∨ target?.any moved.sameFile then (.ok (), s)
        else
          match target?.bind (replaceError? moved) with
          | some e => (.error e, s)
          | none => (.ok (), { s with names := (s.names.erase old).insert new moved })

def remove (s : Store) (name : String) : Except HostError Unit × Store :=
  match s.node name with
  | .error e => (.error e, s)
  | .ok (.directory _) => (.error .isDirectory, s)
  | .ok _ => (.ok (), { s with names := s.names.erase name })

/-- Permission bits of a directory that the host makes. -/
def directoryMode : Nat := 0o755

def attributes (s : Store) (name : String) : Except HostError Attributes :=
  match s.node name with
  | .error e => .error e
  | .ok (.file id) =>
    .ok
      { kind := .regular
        permissions := s.mode id
        extent? := some ⟨(s.content id).size, 1, 0⟩
        allocation? := none }
  | .ok (.directory _) =>
    .ok { kind := .directory, permissions := directoryMode, extent? := none, allocation? := none }
  | .ok .nullDevice =>
    .ok
      { kind := .regular
        permissions := 0o666
        extent? := some ⟨0, 1, 0x103⟩
        allocation? := none }

theorem read_file {s : Store} {d id offset length : Nat} (open' : s.target d = .ok (.file id))
    (inside : offset + length < Content.limit) :
    s.read d offset length = .ok ((s.content id).slice offset length) := by
  rw [read, answers, open']
  simp only [ge_iff_le, Nat.not_le.2 inside, if_false]
  exact Reading.run_whole _ _ (by rw [Content.length_slice]; exact Nat.min_le_left _ _)

theorem content_changeContent (s : Store) (id other : Nat) (f : Content → Content)
    (known : (s.files.find? id).isSome) :
    (s.changeContent id f).content other =
      if other = id then f (s.content id) else s.content other := by
  obtain ⟨object, h⟩ := Option.isSome_iff_exists.1 known
  by_cases same : other = id
  · subst same; simp [content, changeContent, Table.find?_modify, h]
  · simp [content, changeContent, Table.find?_modify, same]

end Store

end PatternFs
