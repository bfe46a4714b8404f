/-! Pieces between separators. -/
namespace PatternFs.Text

theorem not_mem_of_mem_splitOn {sep : Char} {cs piece : List Char} (h : piece ∈ cs.splitOn sep) :
    sep ∉ piece := by
  induction cs generalizing piece with
  | nil => simp_all
  | cons c rest ih =>
    rw [List.splitOn_cons_eq_if_modifyHead] at h
    split at h
    · rcases List.mem_cons.1 h with rfl | h
      · simp
      · exact ih h
    · next apart =>
      cases pieces : rest.splitOn sep with
      | nil => simp [pieces] at h
      | cons first others =>
        rw [pieces] at h
        rcases List.mem_cons.1 h with rfl | h
        · have : sep ∉ first := ih (by simp [pieces])
          simp only [List.mem_cons, not_or]
          exact ⟨fun e => apart (by simp [e]), this⟩
        · exact ih (by simp [pieces, h])

theorem length_splitOn (sep : Char) (cs : List Char) :
    (cs.splitOn sep).length = cs.count sep + 1 := by
  induction cs with
  | nil => simp
  | cons c rest ih =>
    rw [List.splitOn_cons_eq_if_modifyHead, List.count_cons]
    split <;> simp [*]

end PatternFs.Text
