import PatternFs.Kernel.Mount

/-! The reply buffer that a mount is served with. In a listing every entry has a fixed head, and its
name behind that. -/
namespace PatternFs.Kernel

/-- Bytes that an entry takes in a listing, filled up to whole words. -/
def Listed.room (e : Listed) : Nat := (24 + e.name.utf8ByteSize + 7) / 8 * 8

/-- How many entries fit into `room` bytes together. -/
def fitting (room : Nat) : List Listed → Nat
  | [] => 0
  | e :: rest => if e.room ≤ room then fitting (room - e.room) rest + 1 else 0

def Session.start (fs : Filesystem) : Session := startOn fitting fs

end PatternFs.Kernel
