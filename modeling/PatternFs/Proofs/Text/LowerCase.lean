import PatternFs.Proofs.Text.Ascii
import PatternFs.Text.LowerCase

/-! What lower case can make of a text. ASCII letters are lowered as ever. Outside ASCII there is
one letter whose lower case is all ASCII, the sign of the kelvin, which gives a `k`: so a text whose
lower case is plain ASCII without a `k` was ASCII itself. -/
namespace PatternFs.Text

variable {c : Char} {cs word : List Char}

/-- An ASCII character that no letter outside ASCII is lowered to. -/
def IsPlain (c : Char) : Prop := c.toNat < 0x80 ∧ c ≠ 'k'

instance (c : Char) : Decidable (IsPlain c) :=
  inferInstanceAs (Decidable (c.toNat < 0x80 ∧ c ≠ 'k'))

theorem lowerChar_ascii (ascii : c.toNat < 0x80) : lowerChar c = [c.toLower] := if_pos ascii

/-- Every run but that of the kelvin sign leads to characters outside ASCII. -/
theorem caseRuns_outside : ∀ run ∈ caseRuns,
    (run.first + run.offset = 0x6b ∧ run.last + run.offset = 0x6b) ∨
      (0x80 ≤ run.first + run.offset ∧ run.last + run.offset < 0xd800) ∨
      (0xdfff < run.first + run.offset ∧ run.last + run.offset < 0x110000) := by
  decide +kernel

theorem not_isPlain_run {run : CaseRun} (known : run ∈ caseRuns) {code : Nat}
    (covers : run.covers code = true) :
    ¬ IsPlain (Char.ofNat (code + run.offset).toNat) := by
  simp only [CaseRun.covers, Bool.and_eq_true, decide_eq_true_eq] at covers
  obtain ⟨⟨low, high⟩, -⟩ := covers
  rintro ⟨ascii, different⟩
  rcases caseRuns_outside run known with ⟨start, stop⟩ | ⟨start, stop⟩ | ⟨start, stop⟩
  · apply different
    rw [show (code + run.offset).toNat = 0x6b by omega]
  · rw [toNat_ofNat (.inl (by omega))] at ascii
    omega
  · rw [toNat_ofNat (.inr (by omega))] at ascii
    omega

/-- A character outside ASCII is never lowered to plain characters only. -/
theorem ascii_of_lowerChar (plain : ∀ d ∈ lowerChar c, IsPlain d) : c.toNat < 0x80 := by
  refine Nat.lt_of_not_le fun outside => ?_
  rw [lowerChar, if_neg (Nat.not_lt.2 outside)] at plain
  split at plain
  · exact absurd (plain (Char.ofNat 0x307) (by simp)).1 (by decide)
  · split at plain
    · next run found =>
      have covers := List.find?_some found
      exact not_isPlain_run (List.mem_of_find?_eq_some found) covers (plain _ (by simp))
    · exact absurd (plain c (by simp)).1 (Nat.not_lt.2 outside)

theorem toLower_ascii (ascii : c.toLower.toNat < 0x80) : c.toNat < 0x80 := by
  rw [toNat_toLower] at ascii
  split at ascii <;> omega

theorem map_toLower_toLower (cs : List Char) :
    (cs.map Char.toLower).map Char.toLower = cs.map Char.toLower := by
  rw [List.map_map]
  refine List.map_congr_left fun c _ => Char.toNat_inj.1 ?_
  simp only [Function.comp_apply, toNat_toLower]
  split
  · next upper => rw [if_neg (by omega)]
  · rfl

theorem flatMap_lowerChar (ascii : ∀ c ∈ cs, c.toNat < 0x80) :
    cs.flatMap lowerChar = cs.map Char.toLower := by
  induction cs with
  | nil => rfl
  | cons c rest ih =>
    obtain ⟨here, later⟩ := List.forall_mem_cons.1 ascii
    rw [List.flatMap_cons, lowerChar_ascii here, ih later]
    rfl

theorem flatMap_lowerChar_eq_iff (plain : ∀ d ∈ word, IsPlain d) :
    cs.flatMap lowerChar = word ↔ cs.map Char.toLower = word := by
  constructor
  · rintro rfl
    refine (flatMap_lowerChar fun c member => ascii_of_lowerChar fun d inside => ?_).symm
    exact plain d (List.mem_flatMap_of_mem member inside)
  · rintro rfl
    refine flatMap_lowerChar fun c member => toLower_ascii ?_
    exact (plain c.toLower (List.mem_map_of_mem member)).1

end PatternFs.Text
