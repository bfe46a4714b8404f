import PatternFs.Attributes
import PatternFs.Failure

/-! What the kernel asks a mount and what it is told. The kernel names files by an inode number,
or by the bytes of a name in the directory that has such a number. -/
namespace PatternFs.Kernel

inductive Denial
  | failed (f : Failure)
  | unknownInode (number : Nat)
  /-- Only the root has children. -/
  | notTheRoot (number : Nat)
  | undecodableName (bytes : List UInt8)
  | negativeOffset (offset : Int)
  | unknownRenameFlags (flags : Nat)
  deriving DecidableEq

def Denial.errno : Denial → Nat
  | .failed f => f.errno
  | .unknownInode _ => 2
  | .notTheRoot _ => 2
  | .undecodableName _ => 22
  | .negativeOffset _ => 22
  | .unknownRenameFlags _ => 22

/-- Where a name is looked for. -/
structure Spot where
  parent : Nat
  name : List UInt8
  deriving DecidableEq

/-- Attributes that a client wants to have changed. -/
structure Change where
  mode? : Option Nat
  user? : Option Nat
  group? : Option Nat
  size? : Option Nat
  deriving DecidableEq

inductive Callback
  | setUp
  | destroy
  | lookup (spot : Spot)
  | getAttributes (inode : Nat)
  | setAttributes (inode : Nat) (change : Change)
  | openFile (inode : Nat) (flags : Int)
  | read (inode : Nat) (offset : Int) (length : Nat)
  | write (inode : Nat) (offset : Int) (data : List UInt8)
  | flush (inode : Nat)
  | release (inode : Nat)
  | create (spot : Spot) (mode mask : Nat) (flags : Int)
  | rename (old new : Spot) (flags : Nat)
  | unlink (spot : Spot)
  | openDirectory (inode : Nat)
  | readDirectory (inode : Nat) (offset : Int) (room : Nat)
  | access (inode : Nat)
  | getAttribute (inode : Nat) (name : List UInt8)
  | setAttribute (inode : Nat)
  | listAttributes (inode : Nat)
  | removeAttribute (inode : Nat)
  | getLock (inode : Nat)
  | setLock (inode : Nat)
  | makeDirectory (spot : Spot)
  | removeDirectory (spot : Spot)
  | makeNode (spot : Spot)
  | symlink (spot : Spot)
  | readlink (inode : Nat)
  | link (inode : Nat) (spot : Spot)
  deriving DecidableEq

/-- A directory entry as the kernel gets it. `position` is where a later listing goes on after it.
-/
structure Listed where
  inode : Nat
  position : Nat
  kind : FileKind
  name : String
  deriving DecidableEq

inductive Reply
  | done
  | attributes (inode : Nat) (a : Attributes)
  /-- A file that was found, and how often its number was used before. -/
  | node (inode : Nat) (a : Attributes)
  | created (inode : Nat) (a : Attributes) (handle : Nat)
  | opened (handle : Nat)
  | bytes (data : List UInt8)
  | written (count : Nat)
  | listing (page : List Listed)
  deriving DecidableEq

/-- Seconds for which the kernel may keep names and attributes. -/
def lifetime : Nat := 1

/-- Inode numbers are never used again, so there is one generation of them. -/
def generation : Nat := 0

end PatternFs.Kernel
