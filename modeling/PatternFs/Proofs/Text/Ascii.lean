import PatternFs.Text.Blank

/-! Characters and their codes, letters of either case, digits, and blanks around a text. -/
namespace PatternFs.Text

variable {c d : Char} {cs before after : List Char}

theorem toNat_ofNat {n : Nat} (valid : n.isValidChar) : (Char.ofNat n).toNat = n := by
  rw [Char.ofNat, dif_pos valid]
  rfl

theorem toNat_toLower (c : Char) :
    c.toLower.toNat = if 65 ≤ c.toNat ∧ c.toNat ≤ 90 then c.toNat + 32 else c.toNat := by
  have bounds : c.val ≥ 'A'.val ∧ c.val ≤ 'Z'.val ↔ 65 ≤ c.toNat ∧ c.toNat ≤ 90 := by
    simp [UInt32.le_iff_toNat_le]
  unfold Char.toLower
  by_cases capital : 65 ≤ c.toNat ∧ c.toNat ≤ 90
  · rw [dif_pos (bounds.2 capital), if_pos capital]
    simp
    omega
  · rw [dif_neg (mt bounds.1 capital), if_neg capital]

@[simp] theorem isDigit_toLower (c : Char) : c.toLower.isDigit = c.isDigit := by
  apply Bool.eq_iff_iff.2
  simp only [Char.isDigit_iff_toNat, toNat_toLower, Char.reduceToNat]
  split <;> omega

theorem toLower_of_isDigit (digit : c.isDigit = true) : c.toLower = c := by
  apply Char.toNat_inj.1
  have := Char.isDigit_iff_toNat.1 digit
  simp only [Char.reduceToNat] at this
  rw [toNat_toLower]
  split <;> omega

theorem map_toLower_digits (digits : ∀ c ∈ cs, c.isDigit = true) : cs.map Char.toLower = cs := by
  have same : ∀ c ∈ cs, c.toLower = id c := fun c member => toLower_of_isDigit (digits c member)
  rw [List.map_congr_left same, List.map_id]

theorem isBlank_eq_false (low : 0x20 < c.toNat) (high : c.toNat < 0x80) : isBlank c = false := by
  simp [isBlank]
  omega

theorem dropWhile_append_blank (blank : ∀ c ∈ before, isBlank c = true)
    (visible : ∀ c ∈ cs, isBlank c = false) (some : cs ≠ []) (after : List Char) :
    (before ++ (cs ++ after)).dropWhile isBlank = cs ++ after := by
  rw [List.dropWhile_append_of_pos blank]
  cases cs with
  | nil => exact absurd rfl some
  | cons c rest => simp [visible c List.mem_cons_self]

theorem trimBlank_append (blank : ∀ c ∈ before, isBlank c = true)
    (blank' : ∀ c ∈ after, isBlank c = true) (visible : ∀ c ∈ cs, isBlank c = false)
    (some : cs ≠ []) : trimBlank (before ++ (cs ++ after)) = cs := by
  have mirrored : (cs ++ after).reverse.dropWhile isBlank = cs.reverse := by
    have visible' : ∀ c ∈ cs.reverse, isBlank c = false := by simpa using visible
    have blank'' : ∀ c ∈ after.reverse, isBlank c = true := by simpa using blank'
    simpa using dropWhile_append_blank blank'' visible' (by simpa using some) []
  rw [trimBlank, dropWhile_append_blank blank visible some, mirrored, List.reverse_reverse]

theorem eq_append_trimBlank (cs : List Char) :
    ∃ before after, cs = before ++ (trimBlank cs ++ after) ∧
      (∀ c ∈ before, isBlank c = true) ∧ ∀ c ∈ after, isBlank c = true := by
  let rest := cs.dropWhile isBlank
  refine ⟨cs.takeWhile isBlank, (rest.reverse.takeWhile isBlank).reverse, ?_, ?_, ?_⟩
  · rw [trimBlank, ← List.reverse_append, List.takeWhile_append_dropWhile, List.reverse_reverse,
      List.takeWhile_append_dropWhile]
  · exact List.all_eq_true.1 List.all_takeWhile
  · intro c member
    exact List.all_eq_true.1 List.all_takeWhile c (List.mem_reverse.1 member)

end PatternFs.Text
