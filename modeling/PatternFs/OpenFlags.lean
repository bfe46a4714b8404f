/-! What a client asks for when it opens or creates a file. -/
namespace PatternFs

structure OpenFlags where
  read : Bool
  write : Bool
  create : Bool
  truncate : Bool
  exclusive : Bool
  deriving DecidableEq

namespace OpenFlags

def empty : OpenFlags := ⟨false, false, false, false, false⟩

/-- One bit a flag, the lowest for `read`. -/
def bits (f : OpenFlags) : Nat :=
  f.read.toNat + 2 * f.write.toNat + 4 * f.create.toNat + 8 * f.truncate.toNat +
    16 * f.exclusive.toNat

/-- Bits that stand for no flag are dropped. -/
def ofBits (n : Nat) : OpenFlags :=
  ⟨n.testBit 0, n.testBit 1, n.testBit 2, n.testBit 3, n.testBit 4⟩

/-- Reads the flags of the `open` system call. The two lowest bits are the access mode, of which the
fourth value means reading. -/
def ofHost (flags : Int) : OpenFlags :=
  let word := (flags % 0x100000000).toNat
  let mode := word % 4
  { read := mode != 1
    write := mode == 1 || mode == 2
    create := word.testBit 6
    truncate := word.testBit 9
    exclusive := word.testBit 7 }

def union (f g : OpenFlags) : OpenFlags :=
  ⟨f.read || g.read, f.write || g.write, f.create || g.create, f.truncate || g.truncate,
    f.exclusive || g.exclusive⟩

def isEmpty (f : OpenFlags) : Bool := f = empty

/-- Every flag of `g` is set in `f`. -/
def contains (f g : OpenFlags) : Bool := f.union g = f

/-- Exclusive creation takes both flags. -/
def isExclusiveCreate (f : OpenFlags) : Bool := f.create && f.exclusive

end OpenFlags

end PatternFs
