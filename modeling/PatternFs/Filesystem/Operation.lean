import PatternFs.Filesystem

/-! The table of operations that a host binding calls. What the mount does not offer is refused in
the same way for every path. -/
namespace PatternFs

inductive Refused
  | setAttribute
  | listAttributes
  | removeAttribute
  | symlink
  | readlink
  | link
  | changeMode
  | changeOwner
  | makeDirectory
  | removeDirectory
  | makeNode
  deriving DecidableEq

def Refused.name : Refused → String
  | .setAttribute => "setxattr"
  | .listAttributes => "listxattr"
  | .removeAttribute => "removexattr"
  | .symlink => "symlink"
  | .readlink => "readlink"
  | .link => "link"
  | .changeMode => "chmod"
  | .changeOwner => "chown"
  | .makeDirectory => "mkdir"
  | .removeDirectory => "rmdir"
  | .makeNode => "mknod"

def Refused.failure (r : Refused) : Failure := .unsupported r.name

inductive Operation
  | setUp
  | destroy
  | teardown
  | getAttributes (path : Path)
  | create (path : Path) (mode : Nat) (flags : OpenFlags)
  | openFile (path : Path) (flags : OpenFlags)
  | read (path : Path) (offset length : Nat)
  | write (path : Path) (offset : Nat) (data : List UInt8)
  | truncate (path : Path) (length : Nat)
  | rename (old new : Path)
  | unlink (path : Path)
  | release (path : Path)
  | flush (path : Path)
  | openDirectory (path : Path)
  | list (path : Path)
  | access (path : Path)
  | lock (path : Path)
  | getAttribute (path : Path) (name : String)
  | refused (r : Refused)

inductive Reply
  | done
  | count (n : Nat)
  | bytes (data : List UInt8)
  | attributes (a : Attributes)
  | names (names : List String)

namespace Filesystem

def lockFailure : Failure := .notPermitted "lock"

/-- No file has extended attributes. -/
def attributeFailure (path : Path) (name : String) : Failure := .noAttribute path name

/-- Turns the answer of an operation into a reply. -/
def replied {α : Type} (f : α → Reply) (r : Except Failure α × Filesystem) :
    Except Failure Reply × Filesystem := (r.1.map f, r.2)

def perform (fs : Filesystem) : Operation → Except Failure Reply × Filesystem
  | .setUp => (.ok .done, fs)
  | .destroy => (.ok .done, fs.teardown.2)
  | .teardown => (.ok (.count fs.teardown.1), fs.teardown.2)
  | .getAttributes path => ((fs.getAttributes path).map .attributes, fs)
  | .create path mode flags => replied .count (fs.create path mode flags)
  | .openFile path flags => replied .count (fs.openFile path flags)
  | .read path offset length => replied .bytes (fs.read path offset length)
  | .write path offset data => replied .count (fs.write path offset data)
  | .truncate path length => replied (fun _ => .done) (fs.truncate path length)
  | .rename old new => replied (fun _ => .done) (fs.rename old new)
  | .unlink path => replied (fun _ => .done) (fs.unlink path)
  | .release path => (.ok .done, fs.release path)
  | .flush _ => (.ok .done, fs)
  | .openDirectory path => ((openDirectory path).map fun _ => .done, fs)
  | .list path => ((fs.list path).map .names, fs)
  | .access _ => (.ok .done, fs)
  | .lock _ => (.error lockFailure, fs)
  | .getAttribute path name => (.error (attributeFailure path name), fs)
  | .refused r => (.error r.failure, fs)

def execute : List Operation → Filesystem → Filesystem
  | [], fs => fs
  | op :: ops, fs => execute ops (fs.perform op).2

/-- The mount, with what is decided below it. -/
def on (fs : Filesystem) (platform : Platform) : Filesystem :=
  { fs with store := { fs.store with platform } }

/-- The state after a sequence of operations, each with the host as it is then. -/
def executeOn : List (Platform × Operation) → Filesystem → Filesystem
  | [], fs => fs
  | (platform, op) :: rest, fs => executeOn rest ((fs.on platform).perform op).2

end Filesystem

end PatternFs
