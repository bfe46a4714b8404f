import PatternFs.Pattern
import PatternFs.Proofs.Text.Ascii

/-! The digits of a pattern. Reading takes letters of either case and undoes writing, which gives
small ones, so a text holds the digits of a pattern exactly when it is what is written for it in
lower case. -/
namespace PatternFs

namespace Text

variable {c hi lo : Char} {v : Nat} {b : UInt8}

theorem toNat_digitChar :
    ∀ v < 16, (Nat.digitChar v).toNat = if v < 10 then 48 + v else 87 + v := by
  decide

theorem hexValue?_eq_some_iff : hexValue? c = some v ↔ v < 16 ∧ c.toLower = Nat.digitChar v := by
  have bounds : ∀ d e : Char, d ≤ e ↔ d.toNat ≤ e.toNat := fun d e => by
    simp [Char.le_def, UInt32.le_iff_toNat_le]
  have spelled : v < 16 →
      (c.toLower = Nat.digitChar v ↔
        (if 65 ≤ c.toNat ∧ c.toNat ≤ 90 then c.toNat + 32 else c.toNat) =
          if v < 10 then 48 + v else 87 + v) := fun small => by
    rw [← Char.toNat_inj, toNat_toLower, toNat_digitChar v small]
  unfold hexValue?
  simp only [bounds, Char.reduceToNat]
  by_cases small : v < 16
  · rw [spelled small]
    grind
  · grind

theorem byteOfHex?_eq_some_iff :
    byteOfHex? hi lo = some b ↔ hi.toLower = Nat.digitChar (b.toNat / 16) ∧
      lo.toLower = Nat.digitChar (b.toNat % 16) := by
  have small := b.toNat_lt
  constructor
  · intro read
    obtain ⟨h, high, read⟩ := Option.bind_eq_some_iff.1 read
    obtain ⟨l, low, read⟩ := Option.bind_eq_some_iff.1 read
    obtain ⟨high_lt, high⟩ := hexValue?_eq_some_iff.1 high
    obtain ⟨low_lt, low⟩ := hexValue?_eq_some_iff.1 low
    have fits : 16 * h + l < UInt8.size := by simp [UInt8.size]; omega
    have value : b.toNat = 16 * h + l := by
      rw [← Option.some.inj read, UInt8.toNat_ofNat_of_lt' fits]
    rw [show b.toNat / 16 = h by omega, show b.toNat % 16 = l by omega]
    exact ⟨high, low⟩
  · rintro ⟨high, low⟩
    have high := hexValue?_eq_some_iff.2 ⟨by omega, high⟩
    have low := hexValue?_eq_some_iff.2 ⟨by omega, low⟩
    rw [byteOfHex?, high, low]
    show some (UInt8.ofNat (16 * (b.toNat / 16) + b.toNat % 16)) = some b
    rw [Nat.div_add_mod, UInt8.ofNat_toNat]

theorem exists_byteOfHex? (high : isHexDigit hi = true) (low : isHexDigit lo = true) :
    ∃ b, byteOfHex? hi lo = some b := by
  obtain ⟨h, high⟩ := Option.isSome_iff_exists.1 high
  obtain ⟨l, low⟩ := Option.isSome_iff_exists.1 low
  exact ⟨UInt8.ofNat (16 * h + l), by rw [byteOfHex?, high, low]; rfl⟩

theorem isHexDigit_iff : isHexDigit c = true ↔ c ∈ "0123456789abcdefABCDEF".toList := by
  constructor
  · intro digit
    obtain ⟨v, value⟩ := Option.isSome_iff_exists.1 digit
    obtain ⟨small, lower⟩ := hexValue?_eq_some_iff.1 value
    have listed : ∀ n < 0x80, isHexDigit (Char.ofNat n) = true →
        Char.ofNat n ∈ "0123456789abcdefABCDEF".toList := by
      decide
    have ascii : c.toNat < 0x80 := by
      have code := congrArg Char.toNat lower
      rw [toNat_toLower, toNat_digitChar v small] at code
      grind
    have here := listed c.toNat ascii
    rw [Char.ofNat_toNat] at here
    exact here digit
  · have digits : "0123456789abcdefABCDEF".toList.all isHexDigit = true := by decide
    exact List.all_eq_true.1 digits c

end Text

namespace Pattern

variable {p : Pattern} {cs : List Char}

@[simp] theorem length_digits (p : Pattern) : p.digits.length = 8 := by
  obtain ⟨⟨⟨bytes⟩, four⟩⟩ := p
  match bytes, four with
  | [w, x, y, z], _ => rfl

theorem length_of_toLower (lower : cs.map Char.toLower = p.digits) : cs.length = 8 := by
  have lengths := congrArg List.length lower
  rwa [List.length_map, length_digits] at lengths

theorem length_of_ofDigits? (read : ofDigits? cs = some p) : cs.length = 8 := by
  unfold ofDigits? at read
  split at read
  · rfl
  · cases read

theorem ofDigits?_eq_some_ofBytes {a b c d e f g h : Char} {w x y z : UInt8} :
    ofDigits? [a, b, c, d, e, f, g, h] = some (ofBytes w x y z) ↔
      Text.byteOfHex? a b = some w ∧ Text.byteOfHex? c d = some x ∧
        Text.byteOfHex? e f = some y ∧ Text.byteOfHex? g h = some z := by
  simp only [ofDigits?, Option.bind_eq_bind, Option.bind_eq_some_iff]
  constructor
  · rintro ⟨w', first, x', second, y', third, z', fourth, same⟩
    obtain ⟨rfl, rfl, rfl, rfl⟩ : w' = w ∧ x' = x ∧ y' = y ∧ z' = z := by
      simpa [ofBytes] using same
    exact ⟨first, second, third, fourth⟩
  · rintro ⟨first, second, third, fourth⟩
    exact ⟨w, first, x, second, y, third, z, fourth, rfl⟩

/-- Eight digits hold the pattern that is written in their lower case. -/
theorem ofDigits?_eq_some_iff : ofDigits? cs = some p ↔ cs.map Char.toLower = p.digits := by
  by_cases eight : cs.length = 8
  · obtain ⟨⟨⟨bytes⟩, four⟩⟩ := p
    match bytes, four, cs, eight with
    | [w, x, y, z], _, [a, b, c, d, e, f, g, h], _ =>
      refine ofDigits?_eq_some_ofBytes.trans ?_
      simp [Text.byteOfHex?_eq_some_iff, digits, Text.hexByte, and_assoc]
  · exact iff_of_false (fun read => eight (length_of_ofDigits? read))
      fun lower => eight (length_of_toLower lower)

theorem isHexDigit_of_toLower {c : Char} (member : c.toLower ∈ p.digits) :
    Text.isHexDigit c = true := by
  obtain ⟨b, -, inside⟩ := List.mem_flatMap.1 member
  have small := b.toNat_lt
  obtain ⟨v, sixteen, digit⟩ : ∃ v < 16, c.toLower = Nat.digitChar v := by
    rcases List.mem_cons.1 inside with high | low
    · exact ⟨b.toNat / 16, by omega, high⟩
    · exact ⟨b.toNat % 16, by omega, List.mem_singleton.1 low⟩
  exact Option.isSome_iff_exists.2 ⟨v, Text.hexValue?_eq_some_iff.2 ⟨sixteen, digit⟩⟩

theorem exists_ofDigits?_iff :
    (∃ p, ofDigits? cs = some p) ↔ cs.length = 8 ∧ ∀ c ∈ cs, Text.isHexDigit c = true := by
  constructor
  · rintro ⟨p, read⟩
    refine ⟨length_of_ofDigits? read, fun c member => isHexDigit_of_toLower (p := p) ?_⟩
    rw [← ofDigits?_eq_some_iff.1 read]
    exact List.mem_map_of_mem member
  · rintro ⟨eight, hex⟩
    match cs, eight with
    | [a, b, c, d, e, f, g, h], _ =>
      obtain ⟨w, first⟩ := Text.exists_byteOfHex? (hex a (by simp)) (hex b (by simp))
      obtain ⟨x, second⟩ := Text.exists_byteOfHex? (hex c (by simp)) (hex d (by simp))
      obtain ⟨y, third⟩ := Text.exists_byteOfHex? (hex e (by simp)) (hex f (by simp))
      obtain ⟨z, fourth⟩ := Text.exists_byteOfHex? (hex g (by simp)) (hex h (by simp))
      exact ⟨ofBytes w x y z, ofDigits?_eq_some_ofBytes.2 ⟨first, second, third, fourth⟩⟩

theorem ofName?_text_append (p : Pattern) (rest : String) : ofName? (p.text ++ rest) = some p := by
  have digits : (p.text ++ rest).toList.take 8 = p.digits := by
    simp [text]
  rw [ofName?, digits, ofDigits?_digits]

end Pattern

end PatternFs
