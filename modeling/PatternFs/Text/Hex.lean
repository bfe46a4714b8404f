/-! Hexadecimal digits. Either letter case is read, lower case is written. -/
namespace PatternFs.Text

def hexValue? (c : Char) : Option Nat :=
  if '0' ≤ c ∧ c ≤ '9' then some (c.toNat - 48)
  else if 'a' ≤ c ∧ c ≤ 'f' then some (c.toNat - 87)
  else if 'A' ≤ c ∧ c ≤ 'F' then some (c.toNat - 55)
  else none

def isHexDigit (c : Char) : Bool := (hexValue? c).isSome

def hexByte (b : UInt8) : List Char := [Nat.digitChar (b.toNat / 16), Nat.digitChar (b.toNat % 16)]

def byteOfHex? (hi lo : Char) : Option UInt8 := do
  let h ← hexValue? hi
  let l ← hexValue? lo
  return UInt8.ofNat (16 * h + l)

theorem hexValue?_digitChar : ∀ n < 16, hexValue? (Nat.digitChar n) = some n := by decide

theorem byteOfHex?_hexByte (b : UInt8) :
    byteOfHex? (Nat.digitChar (b.toNat / 16)) (Nat.digitChar (b.toNat % 16)) = some b := by
  have := b.toNat_lt
  rw [byteOfHex?, hexValue?_digitChar _ (by omega), hexValue?_digitChar _ (by omega)]
  show some (UInt8.ofNat (16 * (b.toNat / 16) + b.toNat % 16)) = some b
  rw [Nat.div_add_mod, UInt8.ofNat_toNat]

end PatternFs.Text
