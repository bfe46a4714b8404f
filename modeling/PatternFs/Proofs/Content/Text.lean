import PatternFs.Content

/-! Contents as the texts that a client reads. A text has no bytes beyond its end, so a write that
starts further out has to fill the gap itself. -/
namespace PatternFs.Content

/-- The text cut at `length`, or lengthened to it with zeros. -/
def resized (text : List UInt8) (length : Nat) : List UInt8 :=
  text.take length ++ List.replicate (length - text.length) 0

/-- The text after `data` was put into it at `offset`. Writing nothing does not even fill the
gap. -/
def spliced (text : List UInt8) (offset : Nat) (data : List UInt8) : List UInt8 :=
  if data = [] then text
  else resized text offset ++ data ++ text.drop (offset + data.length)

theorem length_resized (text : List UInt8) (length : Nat) :
    (resized text length).length = length := by
  rw [resized, List.length_append, List.length_take, List.length_replicate]
  omega

theorem length_spliced (text : List UInt8) (offset : Nat) {data : List UInt8} (some : data ≠ []) :
    (spliced text offset data).length = max text.length (offset + data.length) := by
  rw [spliced, if_neg some, List.length_append, List.length_append, length_resized,
    List.length_drop]
  omega

theorem length_le_spliced (text : List UInt8) (offset : Nat) (data : List UInt8) :
    text.length ≤ (spliced text offset data).length := by
  by_cases none : data = []
  · have same : spliced text offset data = text := if_pos none
    exact Nat.le_of_eq (congrArg List.length same.symm)
  · rw [length_spliced text offset none]
    exact Nat.le_max_left _ _

theorem length_spliced_le {text other data : List UInt8} {offset : Nat}
    (shorter : text.length ≤ other.length) :
    (spliced text offset data).length ≤ (spliced other offset data).length := by
  by_cases none : data = []
  · rwa [spliced, if_pos none, spliced, if_pos none]
  · rw [length_spliced text offset none, length_spliced other offset none]
    omega

theorem getElem?_resized (text : List UInt8) (length i : Nat) :
    (resized text length)[i]? = if i < length then some (text[i]?.getD 0) else none := by
  rw [resized, List.getElem?_append, List.length_take, List.getElem?_take, List.getElem?_replicate]
  by_cases inside : i < length
  · by_cases before : i < text.length
    · have kept : i < min length text.length := by omega
      simp [inside, before, kept]
    · have added : ¬ i < min length text.length := by omega
      have filled : i - min length text.length < length - text.length := by omega
      simp [inside, before, added, filled]
  · have outside : ¬ i < min length text.length := by omega
    have beyond : ¬ i - min length text.length < length - text.length := by omega
    simp [inside, outside, beyond]

variable (c : Content)

@[simp] theorem length_bytes : c.bytes.length = c.size := by
  rw [bytes, length_slice, Nat.sub_zero, Nat.min_self]

theorem getElem?_slice (offset length i : Nat) :
    (c.slice offset length)[i]? =
      if i < length ∧ offset + i < c.size then some (c.byteAt (offset + i)) else none := by
  by_cases inside : i < min length (c.size - offset)
  · rw [if_pos (by omega), slice, List.getElem?_map, List.getElem?_range' inside, Nat.one_mul]
    rfl
  · rw [if_neg (by omega), List.getElem?_eq_none]
    rw [length_slice]
    omega

theorem getElem?_bytes (i : Nat) :
    c.bytes[i]? = if i < c.size then some (c.byteAt i) else none := by
  simp only [bytes, getElem?_slice, Nat.zero_add, and_self]

theorem byteAt_eq (i : Nat) : c.byteAt i = c.bytes[i]?.getD 0 := by
  rw [getElem?_bytes]
  split
  · rfl
  · next beyond => exact c.zero_beyond i (Nat.not_lt.1 beyond)

theorem slice_eq (offset length : Nat) :
    c.slice offset length = (c.bytes.drop offset).take length := by
  apply List.ext_getElem?
  intro i
  rw [getElem?_slice, List.getElem?_take]
  by_cases inside : i < length
  · rw [if_pos inside, List.getElem?_drop, getElem?_bytes]
    simp only [inside, true_and]
  · rw [if_neg inside, if_neg (fun both => inside both.1)]

theorem bytes_resize (length : Nat) : (c.resize length).bytes = resized c.bytes length := by
  apply List.ext_getElem?
  intro i
  rw [getElem?_bytes, getElem?_resized, ← byteAt_eq, byteAt_resize, size_resize]
  split <;> rfl

theorem bytes_splice (offset : Nat) (data : List UInt8) :
    (c.splice offset data).bytes = spliced c.bytes offset data := by
  by_cases nothing : data = []
  · rw [nothing, splice_nil, spliced, if_pos rfl]
  apply List.ext_getElem?
  intro i
  rw [getElem?_bytes, size_splice c offset nothing, byteAt_splice, spliced, if_neg nothing,
    List.append_assoc, List.getElem?_append, length_resized, getElem?_resized, ← byteAt_eq,
    List.getElem?_append, List.getElem?_drop]
  by_cases before : i < offset
  · have early : ¬ offset ≤ i := by omega
    have inside : i < max c.size (offset + data.length) := by
      have := List.length_pos_iff.2 nothing
      omega
    simp [before, early, inside]
  · have late : offset ≤ i := by omega
    by_cases written : i - offset < data.length
    · have inside : i < max c.size (offset + data.length) := by omega
      have here : i < offset + data.length := by omega
      simp [before, late, written, inside, here]
    · have after : ¬ i < offset + data.length := by omega
      have same : offset + data.length + (i - offset - data.length) = i := by omega
      have known : i < max c.size (offset + data.length) ↔ i < c.size := by omega
      simp [before, late, written, after, same, known, getElem?_bytes]

theorem bytes_ofBytes (data : List UInt8) : (ofBytes data).bytes = data := by
  rw [ofBytes, bytes_splice, spliced]
  split
  · next nothing =>
    rw [nothing]
    rfl
  · simp [resized, bytes, slice]

end PatternFs.Content
