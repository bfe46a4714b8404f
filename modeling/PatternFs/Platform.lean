import PatternFs.Writing

/-! What is decided below the mount, and by nothing that the mount can see: which files the process
may open, how long a file may be, how much of a write the host takes, and what a close reports. -/
namespace PatternFs

structure Platform where
  /-- The process may open every file, whatever the permission bits of the file. Even then it may
  not leave a file that it changes with the right to run as the owner. -/
  overrides : Bool
  /-- The length that no file can be made to exceed. -/
  sizeLimit : Nat
  /-- The answers to the calls of a write to a file with the given content, at an offset. -/
  writing : Content → Nat → List UInt8 → List Taking
  /-- What the host reports when it closes a descriptor. -/
  closing : Nat → Option HostError

namespace Platform

/-- A host that refuses nothing but files longer than `limit`. A write across the limit gets as far
as there. -/
def limited (limit : Nat) : Platform where
  overrides := true
  sizeLimit := limit
  writing _ offset data :=
    if offset + data.length ≤ limit then []
    else if offset < limit then [.took (limit - offset), .failed .tooBig]
    else [.failed .tooBig]
  closing _ := none

/-- The longest file of a disk with blocks of 4096 bytes and block numbers of 32 bits. -/
def common : Platform := limited 0xffffffff000

end Platform

end PatternFs
