import PatternFs.Filesystem.Operation
import PatternFs.InodeTable
import PatternFs.Kernel.Callback

/-! A mount as the kernel sees it: the file system, and the inode numbers under which the kernel
knows its paths. The callbacks give an answer and the next state. -/
namespace PatternFs.Kernel

/-- Why a change cannot be made at all: only the size of a file can be changed. -/
def Change.refused? (c : Change) : Option Refused :=
  if c.mode?.isSome then some .changeMode
  else if c.user?.isSome || c.group?.isSome then some .changeOwner
  else none

structure Session where
  /-- How many entries a reply buffer of a size takes from the front of those it is offered. -/
  buffer : Nat → List Listed → Nat
  fs : Filesystem
  inodes : InodeTable

namespace Session

def startOn (buffer : Nat → List Listed → Nat) (fs : Filesystem) : Session := ⟨buffer, fs, .start⟩

def resolve (k : Session) (inode : Nat) : Except Denial Path :=
  match k.inodes.path? inode with
  | some path => .ok path
  | none => .error (.unknownInode inode)

def decode (bytes : List UInt8) : Except Denial String :=
  match String.fromUTF8? ⟨bytes.toArray⟩ with
  | some name => .ok name
  | none => .error (.undecodableName bytes)

def pathAt (spot : Spot) : Except Denial Path :=
  if spot.parent ≠ InodeTable.rootNumber then .error (.notTheRoot spot.parent)
  else (decode spot.name).map Path.child

/-- Goes on with a path if there is one. -/
def withPath {α : Type} (k : Session) (path : Except Denial Path)
    (f : Path → Except Denial α × Session) : Except Denial α × Session :=
  match path with
  | .error d => (.error d, k)
  | .ok path => f path

/-- Takes over what an operation of the file system leaves behind. -/
def after {α : Type} (k : Session) (r : Except Failure α × Filesystem) :
    Except Denial α × Session := (r.1.mapError .failed, { k with fs := r.2 })

/-- Goes on with what the file system answered. -/
def andThen {α β : Type} (r : Except Denial α × Session)
    (f : α → Session → Except Denial β × Session) : Except Denial β × Session :=
  match r with
  | (.error d, k) => (.error d, k)
  | (.ok a, k) => f a k

def told (reply : Reply) (k : Session) : Except Denial Reply × Session := (.ok reply, k)

/-- Attributes and number of a path. Only a path that has attributes gets a number. -/
def describe (k : Session) (path : Path) : Except Denial (Nat × Attributes) × Session :=
  match k.fs.getAttributes path with
  | .error f => (.error (.failed f), k)
  | .ok a =>
    let (inode, inodes) := k.inodes.assign path
    (.ok (inode, a), { k with inodes })

def lookup (k : Session) (path : Path) : Except Denial Reply × Session :=
  andThen (k.describe path) fun found => told (.node found.1 found.2)

def getAttributes (k : Session) (path : Path) : Except Denial Reply × Session :=
  andThen (k.describe path) fun found => told (.attributes found.1 found.2)

def setAttributes (k : Session) (path : Path) (c : Change) : Except Denial Reply × Session :=
  match c.refused? with
  | some r => (.error (.failed r.failure), k)
  | none =>
    match c.size? with
    | none => k.getAttributes path
    | some size => andThen (k.after (k.fs.truncate path size)) fun _ k => k.getAttributes path

/-- The flag with which the kernel asks that a rename replaces nothing. It is taken and makes no
difference. -/
def keepTargetFlag : Nat := 1

/-- Offsets that the kernel gives are signed. -/
def position (offset : Int) : Except Denial Nat :=
  if offset < 0 then .error (.negativeOffset offset) else .ok offset.toNat

def openFile (k : Session) (path : Path) (flags : Int) : Except Denial Reply × Session :=
  andThen (k.after (k.fs.openFile path (.ofHost flags))) fun handle => told (.opened handle)

def read (k : Session) (inode : Nat) (offset : Int) (length : Nat) :
    Except Denial Reply × Session :=
  match position offset with
  | .error d => (.error d, k)
  | .ok offset =>
    k.withPath (k.resolve inode) fun path =>
      andThen (k.after (k.fs.read path offset length)) fun data => told (.bytes data)

def write (k : Session) (inode : Nat) (offset : Int) (data : List UInt8) :
    Except Denial Reply × Session :=
  match position offset with
  | .error d => (.error d, k)
  | .ok offset =>
    k.withPath (k.resolve inode) fun path =>
      andThen (k.after (k.fs.write path offset data)) fun count => told (.written count)

/-- A file that is gone may still be released. -/
def release (k : Session) (inode : Nat) : Except Denial Reply × Session :=
  match k.resolve inode with
  | .error _ => told .done k
  | .ok path => told .done { k with fs := k.fs.release path }

/-- Bits of `mode` that are not set in `mask`. -/
def masked (mode mask : Nat) : Nat := mode ^^^ (mode &&& mask)

def creationFlags (flags : Int) : OpenFlags := { OpenFlags.ofHost flags with create := true }

def create (k : Session) (path : Path) (mode mask : Nat) (flags : Int) :
    Except Denial Reply × Session :=
  andThen (k.after (k.fs.create path (masked mode mask) (creationFlags flags))) fun handle k =>
    andThen (k.describe path) fun found => told (.created found.1 found.2 handle)

def rename (k : Session) (old new : Path) (flags : Nat) : Except Denial Reply × Session :=
  if flags ≠ 0 ∧ flags ≠ keepTargetFlag then (.error (.unknownRenameFlags flags), k)
  else
    andThen (k.after (k.fs.rename old new)) fun _ k =>
      told .done { k with inodes := k.inodes.rename old new }

def unlink (k : Session) (path : Path) : Except Denial Reply × Session :=
  andThen (k.after (k.fs.unlink path)) fun _ k =>
    told .done { k with inodes := k.inodes.forget path }

/-- Names that stand for the directory itself. -/
def isDirectoryName (name : String) : Bool := name = "." || name = ".."

/-- Where a listed name leads. -/
def listedPath (name : String) : Path := if isDirectoryName name then .root else .child name

def listedKind (name : String) : FileKind := if isDirectoryName name then .directory else .regular

def listing (names : List String) (inodes : List Nat) : List Listed :=
  (names.zip inodes).zipIdx.map fun ((name, inode), i) =>
    { inode, position := i + 1, kind := listedKind name, name }

/-- Everything that is listed gets a number, also what does not fit in. -/
def readDirectory (k : Session) (path : Path) (offset : Int) (room : Nat) :
    Except Denial Reply × Session :=
  match k.fs.list path with
  | .error f => (.error (.failed f), k)
  | .ok names =>
    let (numbers, inodes) := InodeTable.assignAll (names.map listedPath) k.inodes
    let left := (listing names numbers).drop offset.toNat
    told (.listing (left.take (k.buffer room left))) { k with inodes }

/-- Checks that the inode is known, and refuses. -/
def refuse (k : Session) (path : Except Denial Path) (f : Path → Failure) :
    Except Denial Reply × Session :=
  match path with
  | .error d => (.error d, k)
  | .ok path => (.error (.failed (f path)), k)

def refuseWith (k : Session) (path : Except Denial Path) (r : Refused) :
    Except Denial Reply × Session := k.refuse path fun _ => r.failure

def answer (k : Session) : Callback → Except Denial Reply × Session
  | .setUp => told .done k
  | .destroy => told .done { k with fs := k.fs.teardown.2 }
  | .lookup spot => k.withPath (pathAt spot) k.lookup
  | .getAttributes inode => k.withPath (k.resolve inode) k.getAttributes
  | .setAttributes inode change =>
    k.withPath (k.resolve inode) fun path => k.setAttributes path change
  | .openFile inode flags => k.withPath (k.resolve inode) fun path => k.openFile path flags
  | .read inode offset length => k.read inode offset length
  | .write inode offset data => k.write inode offset data
  | .flush inode => k.withPath (k.resolve inode) fun _ => told .done k
  | .release inode => k.release inode
  | .create spot mode mask flags =>
    k.withPath (pathAt spot) fun path => k.create path mode mask flags
  | .rename old new flags =>
    k.withPath (pathAt old) fun old => k.withPath (pathAt new) fun new => k.rename old new flags
  | .unlink spot => k.withPath (pathAt spot) k.unlink
  | .openDirectory inode =>
    k.withPath (k.resolve inode) fun path =>
      andThen (k.after (Filesystem.openDirectory path, k.fs)) fun _ => told (.opened 0)
  | .readDirectory inode offset room =>
    k.withPath (k.resolve inode) fun path => k.readDirectory path offset room
  | .access inode => k.withPath (k.resolve inode) fun _ => told .done k
  | .getAttribute inode name =>
    k.withPath (k.resolve inode) fun path =>
      match decode name with
      | .error d => (.error d, k)
      | .ok name => (.error (.failed (Filesystem.attributeFailure path name)), k)
  | .setAttribute inode => k.refuseWith (k.resolve inode) .setAttribute
  | .listAttributes inode => k.refuseWith (k.resolve inode) .listAttributes
  | .removeAttribute inode => k.refuseWith (k.resolve inode) .removeAttribute
  | .getLock inode => k.refuse (k.resolve inode) fun _ => Filesystem.lockFailure
  | .setLock inode => k.refuse (k.resolve inode) fun _ => Filesystem.lockFailure
  | .makeDirectory spot => k.refuseWith (pathAt spot) .makeDirectory
  | .removeDirectory spot => k.refuseWith (pathAt spot) .removeDirectory
  | .makeNode spot => k.refuseWith (pathAt spot) .makeNode
  | .symlink spot => k.refuseWith (pathAt spot) .symlink
  | .readlink inode => k.refuseWith (k.resolve inode) .readlink
  | .link inode spot => k.withPath (k.resolve inode) fun _ => k.refuseWith (pathAt spot) .link

/-- The state after a sequence of callbacks. -/
def execute : List Callback → Session → Session
  | [], k => k
  | c :: cs, k => execute cs (k.answer c).2

end Session

end PatternFs.Kernel
