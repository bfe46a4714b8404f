import PatternFs.Synthetic

/-! What a read of a synthetic file gives, byte for byte, for files of every size up to the limit of
64 bits. Reads put side by side give what one read of the whole range gives, as long as the later
ones start inside the file: past its end a read goes on with zeros, but one that starts there gives
nothing. A client that cuts each answer at the end of the file need not care. -/
namespace PatternFs.Synthetic

variable {pattern : Pattern} {size offset length a b : Nat}

theorem read_outside (outside : size ≤ offset) : read pattern size offset length = [] :=
  if_pos outside

theorem length_read (inside : offset < size) :
    (read pattern size offset length).length = length := by
  rw [read_eq_map _ _ _ _ inside, List.length_map, List.length_range]

theorem getElem?_read (inside : offset < size) {i : Nat} (here : i < length) :
    (read pattern size offset length)[i]? = some (byte pattern size (offset + i)) := by
  rw [read_eq_map _ _ _ _ inside, List.getElem?_map, List.getElem?_range here]
  rfl

theorem read_add (inside : offset + a < size) :
    read pattern size offset (a + b) =
      read pattern size offset a ++ read pattern size (offset + a) b := by
  rw [read_eq_map _ _ _ _ (by omega), read_eq_map _ _ _ _ (by omega), read_eq_map _ _ _ _ inside,
    List.range_add, List.map_append, List.map_map]
  congr 1
  apply List.map_congr_left
  intro i _
  simp only [Function.comp_apply, Nat.add_assoc]

/-- A read without what lies past the end of the file. -/
def readCut (pattern : Pattern) (size offset length : Nat) : List UInt8 :=
  (read pattern size offset length).take (size - offset)

/-- Reads of these lengths, each from where the one before it ended. -/
def readChunks (pattern : Pattern) (size offset : Nat) : List Nat → List UInt8
  | [] => []
  | length :: lengths =>
    readCut pattern size offset length ++ readChunks pattern size (offset + length) lengths

theorem readCut_outside (outside : size ≤ offset) : readCut pattern size offset length = [] := by
  rw [readCut, read_outside outside, List.take_nil]

theorem readCut_add :
    readCut pattern size offset (a + b) =
      readCut pattern size offset a ++ readCut pattern size (offset + a) b := by
  by_cases inside : offset + a < size
  · have first : (read pattern size offset a).length = a := length_read (by omega)
    rw [readCut, read_add inside, List.take_append, first, readCut, readCut, Nat.sub_sub]
  · by_cases started : offset < size
    · -- The second read starts past the end, and the first one has all that is left.
      rw [readCut_outside (Nat.le_of_not_lt inside), List.append_nil, readCut, readCut,
        read_eq_map _ _ _ _ started, read_eq_map _ _ _ _ started, List.range_add, List.map_append,
        List.take_append_of_le_length]
      rw [List.length_map, List.length_range]
      omega
    · have outside : size ≤ offset := Nat.le_of_not_lt started
      rw [readCut_outside outside, readCut_outside outside, readCut_outside (by omega)]
      rfl

theorem readChunks_eq (pattern : Pattern) (size offset : Nat) (lengths : List Nat) :
    readChunks pattern size offset lengths =
      readCut pattern size offset (lengths.foldr (· + ·) 0) := by
  induction lengths generalizing offset with
  | nil =>
    by_cases inside : offset < size
    · have nothing : read pattern size offset 0 = [] :=
        List.eq_nil_of_length_eq_zero (length_read inside)
      rw [readChunks, List.foldr_nil, readCut, nothing, List.take_nil]
    · rw [readChunks, readCut_outside (Nat.le_of_not_lt inside)]
  | cons length lengths ih => rw [readChunks, ih, List.foldr_cons, readCut_add]

/-- A difference of words, where there is one. -/
def difference? (x y : UInt64) : Option UInt64 := if y ≤ x then some (x - y) else none

/-- A sum of words, where it fits a word. -/
def sum? (x y : UInt64) : Option UInt64 :=
  if x.toNat + y.toNat < Size.limit then some (x + y) else none

/-- The same read in words. Nothing comes of it when a difference or a sum leaves them. -/
def readWords? (pattern : Pattern) (size offset length : UInt64) : Option (List UInt8) :=
  if offset ≥ size then some []
  else do
    let available := min (← difference? size offset) length
    let positions ← (List.range available.toNat).mapM fun i => sum? offset (.ofNat i)
    return positions.map (pattern.byteAt ·.toNat) ++
      List.replicate (length.toNat - available.toNat) 0

theorem toNat_min (x y : UInt64) : (min x y).toNat = min x.toNat y.toNat := by
  change (if x ≤ y then x else y).toNat = _
  split
  · next le => exact (Nat.min_eq_left (UInt64.le_iff_toNat_le.1 le)).symm
  · next lt =>
    have le : y ≤ x := UInt64.le_of_lt (UInt64.not_le.1 lt)
    exact (Nat.min_eq_right (UInt64.le_iff_toNat_le.1 le)).symm

theorem sum?_ofNat {offset : UInt64} {i : Nat} (fits : offset.toNat + i < Size.limit) :
    ∃ position, sum? offset (.ofNat i) = some position ∧ position.toNat = offset.toNat + i := by
  have small : (UInt64.ofNat i).toNat = i :=
    UInt64.toNat_ofNat_of_lt' (Nat.lt_of_le_of_lt (Nat.le_add_left i _) fits)
  refine ⟨offset + .ofNat i, ?_, ?_⟩
  · rw [sum?, if_pos (by rwa [small])]
  · rw [UInt64.toNat_add, small]
    exact Nat.mod_eq_of_lt fits

theorem mapM_sum? {offset : UInt64} {count : Nat} (fits : offset.toNat + count ≤ Size.limit) :
    ∃ positions, (List.range count).mapM (fun i => sum? offset (.ofNat i)) = some positions ∧
      positions.map UInt64.toNat = (List.range count).map (offset.toNat + ·) := by
  induction count with
  | zero => exact ⟨[], rfl, rfl⟩
  | succ count ih =>
    obtain ⟨positions, summed, told⟩ := ih (by omega)
    have here : offset.toNat + count < Size.limit := by omega
    obtain ⟨position, last, at'⟩ := sum?_ofNat here
    refine ⟨positions ++ [position], ?_, ?_⟩
    · simp [List.range_succ, List.mapM_append, summed, last]
    · rw [List.map_append, told, List.range_succ, List.map_append]
      simp [at']

/-- No word overflows, whatever is read. -/
theorem readWords?_eq (pattern : Pattern) (size offset length : UInt64) :
    readWords? pattern size offset length =
      some (read pattern size.toNat offset.toNat length.toNat) := by
  unfold readWords? read
  by_cases outside : size ≤ offset
  · rw [if_pos outside, if_pos (UInt64.le_iff_toNat_le.1 outside)]
  · rw [if_neg outside, if_neg fun words => outside (UInt64.le_iff_toNat_le.2 words)]
    have before : offset ≤ size := UInt64.le_of_lt (UInt64.not_le.1 outside)
    have left : (size - offset).toNat = size.toNat - offset.toNat :=
      UInt64.toNat_sub_of_le _ _ before
    have available : (min (size - offset) length).toNat =
        min (size.toNat - offset.toNat) length.toNat := by
      rw [toNat_min, left]
    have fits : offset.toNat + min (size.toNat - offset.toNat) length.toNat ≤ Size.limit := by
      have := size.toNat_lt
      have := UInt64.le_iff_toNat_le.1 before
      unfold Size.limit
      omega
    obtain ⟨positions, summed, told⟩ := mapM_sum? fits
    simp only [difference?, if_pos before, Option.bind_eq_bind, Option.bind_some, available,
      summed]
    have bytes := congrArg (List.map pattern.byteAt) told
    rw [List.map_map, List.map_map] at bytes
    exact congrArg (fun known => some (known ++ _)) bytes

/-- A read of a synthetic file, for every pattern and all numbers that 64 bits can hold. From the
end of the file on it gives nothing. Inside it gives exactly as many bytes as it asks for, the
pattern by absolute positions and then zeros. No difference and no sum on the way leaves the 64
bits. A read can be split wherever the second part starts inside the file, and cut at its end, reads
in a row are as good as one. -/
theorem read_of_words (pattern : Pattern) (size offset length : UInt64) :
    let bytes := read pattern size.toNat offset.toNat length.toNat
    (size ≤ offset → bytes = []) ∧
      (offset < size → bytes.length = length.toNat ∧ ∀ i < length.toNat,
        bytes[i]? = some (if offset.toNat + i < size.toNat
          then pattern.bytes.get ⟨(offset.toNat + i) % 4, Nat.mod_lt _ (by decide)⟩ else 0)) ∧
      readWords? pattern size offset length = some bytes ∧
      (∀ a b, length.toNat = a + b → offset.toNat + a < size.toNat →
        bytes = read pattern size.toNat offset.toNat a ++
          read pattern size.toNat (offset.toNat + a) b) ∧
      ∀ lengths, lengths.foldr (· + ·) 0 = length.toNat →
        readChunks pattern size.toNat offset.toNat lengths =
          bytes.take (size.toNat - offset.toNat) := by
  intro bytes
  refine ⟨fun outside => ?_, fun inside => ?_, readWords?_eq pattern size offset length,
    fun a b split inside => ?_, fun lengths total => ?_⟩
  · exact read_outside (UInt64.le_iff_toNat_le.1 outside)
  · have inside := UInt64.lt_iff_toNat_lt.1 inside
    exact ⟨length_read inside, fun i here => getElem?_read inside here⟩
  · exact (congrArg _ split).trans (read_add inside)
  · rw [readChunks_eq, total]
    rfl

/-- A read over the end of a file of an exabyte, and two reads in its place. -/
theorem read_of_exabyte_file :
    let pattern := Pattern.ofBytes 0xde 0xad 0xbe 0xef
    let size : UInt64 := 0x1000000000000000
    let offset : UInt64 := 0x0ffffffffffffffe
    let bytes := read pattern size.toNat offset.toNat 4
    offset < size ∧ bytes = [0xbe, 0xef, 0, 0] ∧
      readWords? pattern size offset 4 = some [0xbe, 0xef, 0, 0] ∧
      bytes = read pattern size.toNat offset.toNat 1 ++
        read pattern size.toNat (offset.toNat + 1) 3 ∧
      readChunks pattern size.toNat offset.toNat [1, 3] = [0xbe, 0xef] := by
  intro pattern size offset bytes
  obtain ⟨-, inside, words, split, chunks⟩ := read_of_words pattern size offset 4
  have inFile : offset < size := by decide
  have told : bytes = [0xbe, 0xef, 0, 0] := by decide
  have counted : bytes.length = 4 := (inside inFile).1
  have left : size.toNat - offset.toNat = 2 := by decide
  refine ⟨inFile, told, words.trans (congrArg some told), split 1 3 rfl (by decide), ?_⟩
  rw [chunks [1, 3] rfl, left]
  exact congrArg (List.take 2) told

end PatternFs.Synthetic
