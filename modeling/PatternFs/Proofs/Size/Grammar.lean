import PatternFs.Proofs.Text.Ascii
import PatternFs.Size

/-! Which texts count bytes, and how many: digits, however many of them, and at most one unit in any
letter case, with blanks around. All that keeps such a text from being read is a count that 64 bits
cannot hold. -/
namespace PatternFs.Size

variable {s : String} {n factor : Nat} {digits unit : List Char}

def words : List (String × Nat) :=
  [("kb", 0x400), ("mb", 0x100000), ("gb", 0x40000000), ("tb", 0x10000000000)]

/-- What can stand after the digits, and what it multiplies them by: nothing or a word in any letter
case. -/
inductive IsUnit : List Char → Nat → Prop
  | none : IsUnit [] 1
  | word {name : String} {factor : Nat} {unit : List Char} : (name, factor) ∈ words →
      unit.map Char.toLower = name.toList → IsUnit unit factor

/-- The text counts `n` bytes. -/
def Counts (s : String) (n : Nat) : Prop :=
  ∃ before digits unit after factor, s.toList = before ++ (digits ++ unit ++ after) ∧
    (∀ c ∈ before, Text.isBlank c = true) ∧ (∀ c ∈ after, Text.isBlank c = true) ∧
    digits ≠ [] ∧ (∀ c ∈ digits, c.isDigit = true) ∧ IsUnit unit factor ∧
    n = Nat.ofDigitChars 10 digits 0 * factor ∧ n < 0x10000000000000000

theorem mem_words_of_mem_units : ∀ entry ∈ units, entry ∈ words := by decide

theorem isBlank_digit {c : Char} (digit : c.isDigit = true) : Text.isBlank c = false := by
  have := Char.isDigit_iff_toNat.1 digit
  simp only [Char.reduceToNat] at this
  apply Text.isBlank_eq_false <;> omega

theorem isBlank_letter {c : Char} (low : 0x40 < c.toLower.toNat) (high : c.toLower.toNat < 0x80) :
    Text.isBlank c = false := by
  rw [Text.toNat_toLower] at low high
  apply Text.isBlank_eq_false <;> grind

theorem IsUnit.visible (isUnit : IsUnit unit factor) : ∀ c ∈ unit, Text.isBlank c = false := by
  cases isUnit with
  | none => simp
  | @word name _ _ known spelled =>
    have letters : ∀ entry ∈ words, ∀ k ∈ entry.1.toList.map Char.toNat, 0x40 < k ∧ k < 0x80 := by
      decide
    intro c member
    have inside : c.toLower ∈ name.toList := spelled ▸ List.mem_map_of_mem member
    obtain ⟨low, high⟩ := letters _ known _ (List.mem_map_of_mem inside)
    exact isBlank_letter low high

theorem splitUnit_word {name : String} (known : (name, factor) ∈ words) (digits : List Char) :
    splitUnit (digits ++ name.toList) = (digits, factor) := by
  have suffix : ∀ c l : Char, [c, 'b'].isSuffixOf (digits ++ [l, 'b']) = (c == l) := fun c l => by
    simp [List.isSuffixOf, List.isPrefixOf]
  have found : units.find? (fun unit => unit.1.toList.isSuffixOf (digits ++ name.toList)) =
      some (name, factor) := by
    simp only [words, List.mem_cons, Prod.mk.injEq, List.not_mem_nil, or_false] at known
    rcases known with ⟨rfl, rfl⟩ | ⟨rfl, rfl⟩ | ⟨rfl, rfl⟩ | ⟨rfl, rfl⟩ <;> simp [units, suffix]
  rw [splitUnit, found]
  simp [← String.length_toList]

theorem splitUnit_append (isUnit : IsUnit unit factor) (decimal : ∀ c ∈ digits, c.isDigit = true) :
    splitUnit (digits ++ unit.map Char.toLower) = (digits, factor) := by
  cases isUnit with
  | none =>
    have none : units.find? (fun unit => unit.1.toList.isSuffixOf digits) = none := by
      apply List.find?_eq_none.2
      intro unit known suffix
      have lettered : ∀ unit ∈ units, 'b' ∈ unit.1.toList := by decide
      have inside := (List.isSuffixOf_iff_suffix.1 suffix).subset (lettered unit known)
      exact absurd (decimal 'b' inside) (by decide)
    simp [splitUnit, none]
  | word known spelled =>
    rw [spelled]
    exact splitUnit_word known digits

theorem eq_splitUnit_append (cs : List Char) : ∃ name, cs = (splitUnit cs).1 ++ name ∧
    ∀ unit : List Char, unit.map Char.toLower = name → IsUnit unit (splitUnit cs).2 := by
  rw [splitUnit]
  split
  · next entry found =>
    have suffix := List.find?_some found
    obtain ⟨front, joined⟩ := List.isSuffixOf_iff_suffix.1 suffix
    refine ⟨entry.1.toList, ?_, fun unit => .word ?_⟩
    · subst joined
      simp [← String.length_toList]
    · exact mem_words_of_mem_units entry (List.mem_of_find?_eq_some found)
  · refine ⟨[], by simp, fun unit lower => ?_⟩
    obtain rfl : unit = [] := List.map_eq_nil_iff.1 lower
    exact .none

theorem ofDigits?_eq_some_iff : ofDigits? digits factor = some n ↔
    digits ≠ [] ∧ (∀ c ∈ digits, c.isDigit = true) ∧
      n = Nat.ofDigitChars 10 digits 0 * factor ∧ n < limit := by
  have checked : (digits ≠ [] && digits.all Char.isDigit) = true ↔
      digits ≠ [] ∧ ∀ c ∈ digits, c.isDigit = true := by simp
  unfold ofDigits?
  by_cases decimal : digits ≠ [] ∧ ∀ c ∈ digits, c.isDigit = true
  · rw [if_pos (checked.2 decimal)]
    by_cases fits : Nat.ofDigitChars 10 digits 0 * factor < limit
    · rw [if_pos fits, Option.some_inj]
      constructor
      · rintro rfl
        exact ⟨decimal.1, decimal.2, rfl, fits⟩
      · rintro ⟨-, -, rfl, -⟩
        rfl
    · rw [if_neg fits]
      refine iff_of_false nofun ?_
      rintro ⟨-, -, rfl, fits'⟩
      exact fits fits'
  · rw [if_neg (mt checked.1 decimal)]
    refine iff_of_false nofun ?_
    rintro ⟨some, digits, -⟩
    exact decimal ⟨some, digits⟩

theorem ofText?_eq_some_iff : ofText? s = some n ↔ Counts s n := by
  rw [ofText?, ofDigits?_eq_some_iff]
  constructor
  · rintro ⟨some, decimal, value, fits⟩
    obtain ⟨before, after, joined, blank, blank'⟩ := Text.eq_append_trimBlank s.toList
    obtain ⟨name, split, isUnit⟩ :=
      eq_splitUnit_append ((Text.trimBlank s.toList).map Char.toLower)
    obtain ⟨digits, unit, parts, lower, lower'⟩ := List.map_eq_append_iff.1 split
    have decimal' : ∀ c ∈ digits, c.isDigit = true := by
      intro c member
      rw [← Text.isDigit_toLower]
      exact decimal _ (lower ▸ List.mem_map_of_mem member)
    rw [Text.map_toLower_digits decimal'] at lower
    rw [← lower] at some value
    exact ⟨before, digits, unit, after, _, parts ▸ joined, blank, blank', some, decimal',
      isUnit unit lower', value, fits⟩
  · rintro ⟨before, digits, unit, after, factor, joined, blank, blank', some, decimal, isUnit,
      value, fits⟩
    have visible : ∀ c ∈ digits ++ unit, Text.isBlank c = false := by
      intro c member
      rcases List.mem_append.1 member with digit | letter
      · exact isBlank_digit (decimal c digit)
      · exact isUnit.visible c letter
    have trimmed : Text.trimBlank s.toList = digits ++ unit := by
      rw [joined]
      exact Text.trimBlank_append blank blank' visible (by simp [some])
    rw [trimmed, List.map_append, Text.map_toLower_digits decimal, splitUnit_append isUnit decimal]
    exact ⟨some, decimal, value, fits⟩

theorem ofText_eq_ok_iff : ofText s = .ok n ↔ Counts s n := by
  rw [← ofText?_eq_some_iff, ofText]
  cases ofText? s with
  | none => simp
  | some count => simp

theorem ofText_eq_error_iff :
    ofText s = .error (.invalidArgument s .notASize) ↔ ∀ n, ¬ Counts s n := by
  simp only [← ofText?_eq_some_iff, ofText]
  cases ofText? s with
  | none => simp
  | some count => simp

/-- A text is read as a number of bytes exactly when it counts that many; of any other the reader
says that it is not a size. -/
theorem ofText_of_counts (s : String) :
    (∀ n, ofText s = .ok n ↔ Counts s n) ∧
      (ofText s = .error (.invalidArgument s .notASize) ↔ ∀ n, ¬ Counts s n) :=
  ⟨fun _ => ofText_eq_ok_iff, ofText_eq_error_iff⟩

/-- Leading zeros, a unit in mixed case and an ideographic space. -/
example : ofText? " 007Kb\u3000" = some 7168 := by decide +kernel

end PatternFs.Size
