import Mathlib.Data.String.Basic
import Mathlib.Tactic.Linarith
import Mathlib.Tactic.Ring
import PatternFs.Proofs.Size.Grammar

/-! The shortest text for a number of bytes. Every unit is worth more than the two letters that it
costs, and a larger unit leaves no more digits than a smaller one, so the largest unit that divides
the number gives a text that no other one beats. -/
namespace PatternFs.Size

variable {s t : String} {n q k factor : Nat} {digits unit : List Char}

theorem ofDigitChars_lt (decimal : ∀ c ∈ digits, c.isDigit = true) :
    Nat.ofDigitChars 10 digits 0 < 10 ^ digits.length := by
  induction digits with
  | nil => simp
  | cons c rest ih =>
    have low := Char.isDigit_iff_toNat.1 (decimal c List.mem_cons_self)
    have below := ih fun d member => decimal d (List.mem_cons_of_mem _ member)
    simp only [Char.reduceToNat] at low
    rw [Nat.ofDigitChars_cons, Nat.ofDigitChars_eq_ofDigitChars_zero, List.length_cons, pow_succ]
    have bound : c.toNat - '0'.toNat ≤ 9 := by simp; omega
    nlinarith

theorem isDigit_toDigits (n : Nat) : ∀ c ∈ Nat.toDigits 10 n, c.isDigit = true := fun _ member =>
  Nat.isDigit_of_mem_toDigits (by decide) (by decide) member

/-- A number has no more digits than any text of digits for it. -/
theorem length_toDigits_le (some : digits ≠ []) (decimal : ∀ c ∈ digits, c.isDigit = true)
    (small : n ≤ Nat.ofDigitChars 10 digits 0) : (Nat.toDigits 10 n).length ≤ digits.length := by
  apply (Nat.length_toDigits_le_iff (by decide) (List.length_pos_iff.2 some)).2
  exact Nat.lt_of_le_of_lt small (ofDigitChars_lt decimal)

/-- A thousandth has three digits less, unless it is nothing. -/
theorem length_toDigits_thousandth (some : 0 < q) (large : 1000 * q ≤ n) :
    (Nat.toDigits 10 q).length + 3 ≤ (Nat.toDigits 10 n).length := by
  have short : n < 10 ^ (Nat.toDigits 10 n).length :=
    (Nat.length_toDigits_le_iff (by decide) Nat.length_toDigits_pos).1 le_rfl
  have long : 3 < (Nat.toDigits 10 n).length := by
    by_contra few
    have := Nat.pow_le_pow_right (n := 10) (by decide) (Nat.le_of_not_lt few)
    omega
  obtain ⟨k, more⟩ := Nat.exists_eq_add_of_lt long
  have power : 10 ^ (3 + k + 1) = 1000 * 10 ^ (k + 1) := by ring
  have fits : (Nat.toDigits 10 q).length ≤ k + 1 := by
    apply (Nat.length_toDigits_le_iff (by decide) (Nat.succ_pos k)).2
    rw [more, power] at short
    exact Nat.lt_of_mul_lt_mul_left (Nat.lt_of_le_of_lt large short)
  omega

theorem utf8ByteSize_ascii (ascii : ∀ c ∈ s.toList, c.toNat < 0x80) :
    s.utf8ByteSize = s.toList.length := by
  have one : ∀ c ∈ s.toList, c.utf8Size = 1 := fun c member => by
    apply Char.utf8Size_eq_one_iff.2
    have := ascii c member
    exact UInt32.le_iff_toNat_le.2 (Nat.le_of_lt_succ this)
  rw [← String.utf8Len_toList]
  generalize s.toList = cs at one
  induction cs with
  | nil => rfl
  | cons c rest ih =>
    rw [String.utf8Len_cons, one c List.mem_cons_self,
      ih fun d member => one d (List.mem_cons_of_mem _ member), List.length_cons]

theorem length_le_utf8ByteSize (s : String) : s.toList.length ≤ s.utf8ByteSize := by
  rw [← String.utf8Len_toList]
  induction s.toList with
  | nil => simp
  | cons c rest ih =>
    have := c.utf8Size_pos
    simp
    omega

theorem units_sorted : units.Pairwise fun u v => v.2 ≤ u.2 := by decide

theorem mem_units_of_mem_words : ∀ entry ∈ words, entry ∈ units := by decide

theorem le_of_find? {fit : String × Nat → Bool} {table : List (String × Nat)} {u v : String × Nat}
    (sorted : table.Pairwise fun u v => v.2 ≤ u.2) (found : table.find? fit = some u)
    (member : v ∈ table) (fits : fit v = true) : v.2 ≤ u.2 := by
  obtain ⟨-, larger, smaller, rfl, unfit⟩ := List.find?_eq_some_iff_append.1 found
  rcases List.mem_append.1 member with before | later
  · have := unfit v before
    simp [fits] at this
  · rcases List.mem_cons.1 later with rfl | after
    · exact le_rfl
    · exact (List.pairwise_cons.1 (List.pairwise_append.1 sorted).2.1).1 v after

theorem compact_cases (n : Nat) :
    (∃ name factor q, (name, factor) ∈ words ∧ 0 < n ∧ n = q * factor ∧
      compact n = toString q ++ name ∧
      ∀ entry ∈ words, entry.2 ∣ n → entry.2 ≤ factor) ∨
    compact n = toString n ∧ (0 < n → ∀ entry ∈ words, ¬ entry.2 ∣ n) := by
  let fit : String × Nat → Bool := fun unit => 0 < n && n % unit.2 == 0
  have fits : ∀ entry, fit entry = true ↔ 0 < n ∧ entry.2 ∣ n := fun entry => by
    simp [fit, Nat.dvd_iff_mod_eq_zero]
  cases found : units.find? fit with
  | none =>
    refine .inr ⟨by rw [compact, found], fun some entry known divides => ?_⟩
    exact List.find?_eq_none.1 found entry (mem_units_of_mem_words entry known)
      ((fits entry).2 ⟨some, divides⟩)
  | some entry =>
    obtain ⟨some, divides⟩ := (fits entry).1 (List.find?_some found)
    have known := mem_words_of_mem_units entry (List.mem_of_find?_eq_some found)
    refine .inl ⟨entry.1, entry.2, n / entry.2, known, some, (Nat.div_mul_cancel divides).symm,
      by rw [compact, found], fun entry' known' divides' => ?_⟩
    exact le_of_find? units_sorted found (mem_units_of_mem_words entry' known')
      ((fits entry').2 ⟨some, divides'⟩)

theorem utf8ByteSize_toString (n : Nat) :
    (toString n).utf8ByteSize = (Nat.toDigits 10 n).length := by
  rw [utf8ByteSize_ascii]
  · simp
  · intro c member
    have := Char.isDigit_iff_toNat.1 (isDigit_toDigits n c (by simpa using member))
    simp at this
    omega

/-- A word costs two letters and is worth more than three digits. -/
theorem worth_of_word : ∀ entry ∈ words,
    entry.1.utf8ByteSize = 2 ∧ entry.1.toList.length = 2 ∧ 1000 ≤ entry.2 := by
  decide

theorem counts_compact (fits : n < limit) : Counts (compact n) n := by
  rcases compact_cases n with ⟨name, factor, q, known, -, value, text, -⟩ | ⟨text, -⟩
  · have lower : name.toList.map Char.toLower = name.toList := by
      have all : ∀ entry ∈ words, entry.1.toList.map Char.toLower = entry.1.toList := by decide
      exact all _ known
    refine ⟨[], Nat.toDigits 10 q, name.toList, [], factor, by simp [text], by simp, by simp,
      by simp, isDigit_toDigits q, .word known lower, ?_, fits⟩
    rw [Nat.ofDigitChars_ten_toDigits, value]
  · refine ⟨[], Nat.toDigits 10 n, [], [], 1, by simp [text], by simp, by simp, by simp,
      isDigit_toDigits n, .none, ?_, fits⟩
    rw [Nat.ofDigitChars_ten_toDigits, Nat.mul_one]

theorem length_of_word {name : String} (known : (name, factor) ∈ words)
    (spelled : unit.map Char.toLower = name.toList) : unit.length = 2 := by
  have lengths := congrArg List.length spelled
  rwa [List.length_map, (worth_of_word _ known).2.1] at lengths

/-- No text for the number is shorter: not one in bytes, which has all the digits, and not one with
another unit, which is no larger and so needs no fewer of them. -/
theorem utf8ByteSize_compact_le (counts : Counts t n) :
    (compact n).utf8ByteSize ≤ t.utf8ByteSize := by
  obtain ⟨before, digits, unit, after, factor, joined, -, -, some, decimal, isUnit, value, -⟩ :=
    counts
  have room : digits.length + unit.length ≤ t.utf8ByteSize := by
    have := length_le_utf8ByteSize t
    simp [joined] at this
    omega
  rcases compact_cases n with
    ⟨name, factor', q, known, pos, value', text, largest⟩ | ⟨text, plain⟩
  · obtain ⟨two, -, worth⟩ := worth_of_word _ known
    rw [text, String.utf8ByteSize_append, utf8ByteSize_toString, two]
    cases isUnit with
    | none =>
      have nonzero : 0 < q := Nat.pos_of_mul_pos_right (value' ▸ pos)
      have thousandth := length_toDigits_thousandth (n := n) nonzero (by nlinarith)
      have fewest := length_toDigits_le (n := n) some decimal (by omega)
      omega
    | word known' spelled =>
      have smaller : factor ≤ factor' := largest _ known' (Dvd.intro_left _ value.symm)
      have product : q * factor' ≤ Nat.ofDigitChars 10 digits 0 * factor' := by
        rw [← value', value]
        exact Nat.mul_le_mul_left _ smaller
      have fewest := length_toDigits_le some decimal
        (Nat.le_of_mul_le_mul_right product (by omega))
      have letters := length_of_word known' spelled
      omega
  · rw [text, utf8ByteSize_toString]
    cases isUnit with
    | none =>
      have fewest := length_toDigits_le (n := n) some decimal (by omega)
      omega
    | word known' spelled =>
      -- Only of nothing at all every unit is a divisor and none is written.
      have nothing : n = 0 := Nat.eq_zero_of_not_pos fun pos =>
        plain pos _ known' (Dvd.intro_left _ value.symm)
      have fewest := length_toDigits_le (n := n) some decimal (by omega)
      omega

/-- For every number that 64 bits can hold, the text written for it is read as just that number, and
no text with fewer bytes is. -/
theorem compact_shortest (n : UInt64) :
    ofText (compact n.toNat) = .ok n.toNat ∧
      ∀ t, ofText t = .ok n.toNat → (compact n.toNat).utf8ByteSize ≤ t.utf8ByteSize := by
  constructor
  · exact ofText_eq_ok_iff.2 (counts_compact n.toNat_lt)
  · intro t read
    exact utf8ByteSize_compact_le (ofText_eq_ok_iff.1 read)

/-- The largest number has no unit, and the largest one with a unit has few digits. -/
example : compact 18446744073709551615 = "18446744073709551615" ∧
    compact 18446742974197923840 = "16777215tb" := by
  decide +kernel

end PatternFs.Size
