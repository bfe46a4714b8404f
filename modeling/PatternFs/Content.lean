/-! Contents of real files. A content is a size and a byte for every position, zero from the end
on, so a file may have large holes; two contents with the same size and bytes are equal. -/
namespace PatternFs

structure Content where
  size : Nat
  byteAt : Nat → UInt8
  zero_beyond : ∀ i, size ≤ i → byteAt i = 0

namespace Content

@[ext] theorem ext {c d : Content} (size : c.size = d.size) (bytes : ∀ i, c.byteAt i = d.byteAt i) :
    c = d := by
  obtain ⟨n, f, _⟩ := c
  obtain ⟨m, g, _⟩ := d
  obtain rfl : n = m := size
  obtain rfl : f = g := funext bytes
  rfl

/-- Sizes and positions of real files are below 2^63. -/
def limit : Nat := 0x8000000000000000

def empty : Content := ⟨0, fun _ => 0, fun _ _ => rfl⟩

/-- Puts `data` at `offset`. A gap before it reads as zeros. -/
def splice (c : Content) (offset : Nat) (data : List UInt8) : Content :=
  if data = [] then c
  else
    let block := data.toArray
    { size := max c.size (offset + data.length)
      byteAt := fun i =>
        if offset ≤ i ∧ i < offset + data.length then block[i - offset]?.getD 0 else c.byteAt i
      zero_beyond := fun i h => by
        have outside : ¬ (offset ≤ i ∧ i < offset + data.length) := by omega
        simp only [if_neg outside]
        exact c.zero_beyond i (by omega) }

/-- Cuts the content or lengthens it with zeros. -/
def resize (c : Content) (size : Nat) : Content where
  size := size
  byteAt i := if i < size then c.byteAt i else 0
  zero_beyond i h := by simp [Nat.not_lt.2 h]

/-- The bytes from `offset` on, at most `length` of them. -/
def slice (c : Content) (offset length : Nat) : List UInt8 :=
  (List.range' offset (min length (c.size - offset))).map c.byteAt

def bytes (c : Content) : List UInt8 := c.slice 0 c.size

def ofBytes (data : List UInt8) : Content := empty.splice 0 data

@[simp] theorem size_empty : empty.size = 0 := rfl

@[simp] theorem size_resize (c : Content) (n : Nat) : (c.resize n).size = n := rfl

@[simp] theorem splice_nil (c : Content) (offset : Nat) : c.splice offset [] = c := by simp [splice]

theorem size_splice (c : Content) (offset : Nat) {data : List UInt8} (h : data ≠ []) :
    (c.splice offset data).size = max c.size (offset + data.length) := by simp [splice, h]

theorem byteAt_splice (c : Content) (offset : Nat) (data : List UInt8) (i : Nat) :
    (c.splice offset data).byteAt i =
      if offset ≤ i ∧ i < offset + data.length then data[i - offset]?.getD 0 else c.byteAt i := by
  by_cases h : data = []
  · subst h
    have outside : ¬ (offset ≤ i ∧ i < offset + ([] : List UInt8).length) := by
      rw [List.length_nil]
      omega
    rw [splice_nil, if_neg outside]
  · simp [splice, h]

theorem byteAt_resize (c : Content) (n i : Nat) :
    (c.resize n).byteAt i = if i < n then c.byteAt i else 0 := rfl

@[simp] theorem length_slice (c : Content) (offset length : Nat) :
    (c.slice offset length).length = min length (c.size - offset) := by simp [slice]

end Content

end PatternFs
