/-! What a client is told about a file. -/
namespace PatternFs

inductive FileKind
  | regular
  | directory
  deriving DecidableEq

/-- Numbers that depend on the host for one of its directories, and on nothing else otherwise. -/
structure Extent where
  size : Nat
  links : Nat
  device : Nat
  deriving DecidableEq

/-- Space that a file is said to take, in blocks of 512 bytes. -/
structure Allocation where
  blocks : Nat
  blockSize : Nat
  deriving DecidableEq

structure Attributes where
  kind : FileKind
  permissions : Nat
  extent? : Option Extent
  /-- Left to the host for a real file. -/
  allocation? : Option Allocation
  deriving DecidableEq

namespace Attributes

def blockSize : Nat := 512

/-- The one directory of the mount, open to all for reading. -/
def root : Attributes :=
  { kind := .directory
    permissions := 0o755
    extent? := some ⟨0, 2, 0⟩
    allocation? := some ⟨0, blockSize⟩ }

/-- A file that exists only as a pattern and a size, open to all. -/
def synthetic (size : Nat) : Attributes :=
  { kind := .regular
    permissions := 0o777
    extent? := some ⟨size, 1, 0⟩
    allocation? := some ⟨size / blockSize, blockSize⟩ }

end Attributes

end PatternFs
