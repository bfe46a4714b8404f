import PatternFs.Text.Hex

/-! The four bytes that a synthetic file repeats. A pattern is written as eight hexadecimal digits,
and a file name that starts with eight of them carries its pattern. -/
namespace PatternFs

structure Pattern where
  bytes : Vector UInt8 4
  deriving DecidableEq

namespace Pattern

def ofBytes (a b c d : UInt8) : Pattern := ⟨#v[a, b, c, d]⟩

def zero : Pattern := ofBytes 0 0 0 0

def ofDigits? : List Char → Option Pattern
  | [a, b, c, d, e, f, g, h] => do
    let w ← Text.byteOfHex? a b
    let x ← Text.byteOfHex? c d
    let y ← Text.byteOfHex? e f
    let z ← Text.byteOfHex? g h
    return ofBytes w x y z
  | _ => none

def ofName? (name : String) : Option Pattern := ofDigits? (name.toList.take 8)

/-- The low 32 bits of a sequence id, the most significant byte first. -/
def ofSequence (id : Nat) : Pattern :=
  ofBytes (UInt8.ofNat (id / 0x1000000)) (UInt8.ofNat (id / 0x10000)) (UInt8.ofNat (id / 0x100))
    (UInt8.ofNat id)

def digits (p : Pattern) : List Char := p.bytes.toList.flatMap Text.hexByte

def text (p : Pattern) : String := String.ofList p.digits

/-- The byte at an absolute position of a file. -/
def byteAt (p : Pattern) (position : Nat) : UInt8 := p.bytes.get (Fin.ofNat 4 position)

theorem ofDigits?_digits (p : Pattern) : ofDigits? p.digits = some p := by
  obtain ⟨⟨⟨bytes⟩, four⟩⟩ := p
  match bytes, four with
  | [w, x, y, z], _ =>
    simp [digits, Text.hexByte, ofDigits?, ofBytes, Text.byteOfHex?_hexByte]

end Pattern

end PatternFs
