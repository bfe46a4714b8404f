import PatternFs.Proofs.Content.Text
import PatternFs.Proofs.Synthetic.Reads
import PatternFs.Reading

/-! Reads that are answered piece by piece. A host may bring any part of what it is asked for, from
one byte to all that is there, and it may be interrupted before it brings any. What the read has got
is always what the file has from the first position on, so the next call continues where the last
one ended, and every call that is not interrupted brings the end nearer. -/
namespace PatternFs

theorem Content.slice_add (c : Content) (offset a b : Nat) :
    c.slice offset (a + b) = c.slice offset a ++ c.slice (offset + a) b := by
  rw [slice_eq, slice_eq, slice_eq, List.take_add, List.drop_drop]

theorem Content.slice_zero (c : Content) (offset : Nat) : c.slice offset 0 = [] := by
  rw [slice_eq, List.take_zero]

theorem Content.slice_beyond {c : Content} {offset : Nat} (beyond : c.size ≤ offset)
    (length : Nat) : c.slice offset length = [] := by
  apply List.eq_nil_of_length_eq_zero
  rw [length_slice]
  omega

namespace Reading

variable {c : Content} {offset : UInt64} {length n m : Nat} {answers : Nat → Answer} {a : Answer}
  {got : List UInt8} {r : Except HostError (List UInt8)}

/-- The read after its first `n` calls. -/
def after (length : Nat) (answers : Nat → Answer) (n : Nat) : Reading :=
  run length ((List.range n).map answers)

theorem after_zero : after length answers 0 = start length := rfl

theorem after_succ :
    after length answers (n + 1) = take length (after length answers n) (answers n) := by
  rw [after, run, List.range_succ, List.map_append, List.foldl_append]
  rfl

theorem after_ended (ended : after length answers n = .ended r) (later : n ≤ m) :
    after length answers m = .ended r := by
  induction later with
  | refl => exact ended
  | step _ ih => rw [after_succ, ih, take]

theorem take_bytes {chunk : List UInt8} (some : chunk ≠ []) :
    take length (.going got) (.bytes chunk) =
      if (got ++ chunk).length < length then .going (got ++ chunk)
      else .ended (.ok (got ++ chunk)) := by
  cases chunk with
  | nil => exact absurd rfl some
  | cons => rfl

/-- Where in the file a call reads, and how many bytes it has room for. -/
structure Call where
  position : UInt64
  room : Nat

/-- The call that a read at `offset` makes next. There is none if its position does not fit a
word. -/
def next? (offset : UInt64) (length : Nat) : Reading → Option Call
  | .going got => (Synthetic.sum? offset (.ofNat got.length)).map (⟨·, length - got.length⟩)
  | .ended _ => none

/-- Any part of what is there and fits, nothing only from the end of the file on, an interruption or
a failure. -/
inductive Served (c : Content) (call : Call) : Answer → Prop
  | bytes {count : Nat} : 1 ≤ count → count ≤ call.room →
      call.position.toNat + count ≤ c.size →
      Served c call (.bytes (c.slice call.position.toNat count))
  | atEnd : c.size ≤ call.position.toNat → Served c call (.bytes [])
  | interrupted : Served c call .interrupted
  | failed (e : HostError) : Served c call (.failed e)

/-- The answers to the calls of one read. -/
structure Schedule (c : Content) (offset : UInt64) (length : Nat) (answers : Nat → Answer) :
    Prop where
  served : ∀ n call, next? offset length (after length answers n) = some call →
    Served c call (answers n)
  finite : ∃ bound, ∀ n, bound ≤ n → answers n ≠ .interrupted

/-- The read has what the file has from `offset` on, and wants more. -/
structure Underway (c : Content) (offset : UInt64) (length : Nat) (got : List UInt8) : Prop where
  aligned : got = c.slice offset.toNat got.length
  short : got.length < length

/-- No position leaves the 64 bits. -/
theorem Underway.next? (underway : Underway c offset length got) (small : c.size < Content.limit)
    (below : offset.toNat < Content.limit) :
    ∃ call, next? offset length (.going got) = some call ∧
      call.position.toNat = offset.toNat + got.length ∧ call.room = length - got.length := by
  have available : got.length ≤ c.size - offset.toNat := by
    have := congrArg List.length underway.aligned
    rw [Content.length_slice] at this
    omega
  have fits : offset.toNat + got.length < Size.limit := by
    unfold Content.limit at small below
    unfold Size.limit
    omega
  obtain ⟨position, sum, value⟩ := Synthetic.sum?_ofNat fits
  exact ⟨⟨position, length - got.length⟩, by rw [Reading.next?, sum]; rfl, value, rfl⟩

/-- What a call can make of a read. -/
inductive Taken (c : Content) (offset : UInt64) (length : Nat) (got : List UInt8) :
    Answer → Reading → Prop
  | more {chunk got' : List UInt8} : got.length < got'.length → Underway c offset length got' →
      Taken c offset length got (.bytes chunk) (.going got')
  | whole {chunk : List UInt8} :
      Taken c offset length got (.bytes chunk) (.ended (.ok (c.slice offset.toNat length)))
  | again : Taken c offset length got .interrupted (.going got)
  | failed (e : HostError) : Taken c offset length got (.failed e) (.ended (.error e))

theorem Underway.taken (underway : Underway c offset length got) {call : Call}
    (position : call.position.toNat = offset.toNat + got.length)
    (room : call.room = length - got.length) (served : Served c call a) :
    Taken c offset length got a (take length (.going got) a) := by
  have short := underway.short
  cases served with
  | @bytes count some fits inside =>
    have chunk : (c.slice call.position.toNat count).length = count := by
      rw [Content.length_slice]
      omega
    have joined : got ++ c.slice call.position.toNat count =
        c.slice offset.toNat (got.length + count) := by
      rw [Content.slice_add, ← underway.aligned, position]
    have total : (c.slice offset.toNat (got.length + count)).length = got.length + count := by
      rw [← joined, List.length_append, chunk]
    have chunk_ne : c.slice call.position.toNat count ≠ [] := by
      intro nothing
      rw [nothing, List.length_nil] at chunk
      omega
    rw [take_bytes chunk_ne, joined, total]
    split
    · next wanted =>
      refine .more (by omega) ⟨?_, by omega⟩
      rw [total]
    · next full =>
      rw [show got.length + count = length by omega]
      exact .whole
  | atEnd beyond =>
    have all : c.slice offset.toNat length = got := by
      rw [show length = got.length + (length - got.length) by omega, Content.slice_add,
        ← underway.aligned, Content.slice_beyond (position ▸ beyond), List.append_nil]
    have step : take length (.going got) (.bytes []) = .ended (.ok got) := rfl
    rw [step, ← all]
    exact .whole
  | interrupted => exact .again
  | failed e => exact .failed e

def interruptions (answers : Nat → Answer) (n : Nat) : Nat :=
  ((List.range n).map answers).count .interrupted

theorem interruptions_succ (answers : Nat → Answer) (n : Nat) :
    interruptions answers (n + 1) =
      interruptions answers n + if answers n = .interrupted then 1 else 0 := by
  rw [interruptions, List.range_succ, List.map_append, List.count_append, List.map_singleton,
    List.count_singleton]
  simp [interruptions]

theorem interruptions_le {bound : Nat} (finite : ∀ n, bound ≤ n → answers n ≠ .interrupted)
    (n : Nat) : interruptions answers n ≤ min n bound := by
  induction n with
  | zero => exact Nat.zero_le _
  | succ n ih =>
    rw [interruptions_succ]
    split
    · next here =>
      have early : n < bound := Nat.lt_of_not_le fun late => finite n late here
      omega
    · omega

/-- What a read can have come to when `n` calls were answered. Each of them brought a byte at least
or was interrupted. -/
inductive Reached (c : Content) (offset : UInt64) (length : Nat) (answers : Nat → Answer)
    (n : Nat) : Reading → Prop
  | going {got : List UInt8} : Underway c offset length got →
      n ≤ got.length + interruptions answers n → Reached c offset length answers n (.going got)
  | whole : Reached c offset length answers n (.ended (.ok (c.slice offset.toNat length)))
  | failed {m : Nat} {got : List UInt8} {e : HostError} :
      after length answers m = .going got → answers m = .failed e →
      Reached c offset length answers n (.ended (.error e))

theorem Schedule.reached (schedule : Schedule c offset length answers)
    (small : c.size < Content.limit) (below : offset.toNat < Content.limit) (n : Nat) :
    Reached c offset length answers n (after length answers n) := by
  induction n with
  | zero =>
    rw [after_zero, start]
    split
    · next nothing =>
      rw [← c.slice_zero offset.toNat, ← nothing]
      exact .whole
    · next some =>
      exact .going ⟨(c.slice_zero _).symm, Nat.pos_of_ne_zero some⟩ (Nat.zero_le _)
  | succ n ih =>
    rw [after_succ]
    generalize here : after length answers n = reading at ih ⊢
    cases ih with
    | whole => exact .whole
    | failed made fails => exact .failed made fails
    | @going got underway spent =>
      obtain ⟨call, made, position, room⟩ := underway.next? small below
      have served := schedule.served n call (here ▸ made)
      have taken := underway.taken position room served
      have counted := interruptions_succ answers n
      generalize answer : answers n = a at taken counted ⊢
      generalize take length (.going got) a = reading' at taken ⊢
      cases taken with
      | more longer underway' => exact .going underway' (by omega)
      | whole => exact .whole
      | again => exact .going underway (by rw [if_pos rfl] at counted; omega)
      | failed e => exact .failed here answer

/-- Each call brings the end nearer, but for the interruptions, and they come to an end. -/
theorem Schedule.exists_ended (schedule : Schedule c offset length answers)
    (small : c.size < Content.limit) (below : offset.toNat < Content.limit) :
    ∃ n r, after length answers n = .ended r := by
  obtain ⟨bound, finite⟩ := schedule.finite
  have reached := schedule.reached small below (length + bound)
  generalize here : after length answers (length + bound) = reading at reached
  cases reached with
  | going underway spent =>
    have := underway.short
    have := interruptions_le finite (length + bound)
    omega
  | whole => exact ⟨_, _, here⟩
  | failed => exact ⟨_, _, here⟩

/-- A read of a file of less than 2^63 bytes from a position below that, however its calls are
answered. It is over after finitely many calls. If no call that it made has failed, it gives exactly
what the file has from the offset on, as far as it was asked for; a call that fails ends it with
that failure and nothing else. As long as it goes on it has the first bytes of what it will give,
and the position of the next call, which is right behind them, fits a word. -/
theorem bytes_of_schedule (schedule : Schedule c offset length answers)
    (small : c.size < Content.limit) (below : offset.toNat < Content.limit) :
    (∃ n r, (∀ m, n ≤ m → after length answers m = .ended r) ∧
      ((∀ m got e, after length answers m = .going got → answers m ≠ .failed e) →
        r = .ok ((c.bytes.drop offset.toNat).take length)) ∧
      ∀ m got e, after length answers m = .going got → answers m = .failed e → r = .error e) ∧
    ∀ n got, after length answers n = .going got →
      got = (c.bytes.drop offset.toNat).take got.length ∧
      ∃ call, next? offset length (.going got) = some call ∧
        call.position.toNat = offset.toNat + got.length ∧ call.room = length - got.length := by
  constructor
  · obtain ⟨n, r, ended⟩ := schedule.exists_ended small below
    refine ⟨n, r, fun m later => after_ended ended later, fun allWell => ?_, ?_⟩
    · have reached := schedule.reached small below n
      rw [ended] at reached
      rw [← c.slice_eq]
      cases reached with
      | whole => rfl
      | failed made fails => exact absurd fails (allWell _ _ _ made)
    · intro m got e made fails
      have finished : after length answers (m + 1) = .ended (.error e) := by
        rw [after_succ, made, fails, take]
      rcases Nat.le_total n (m + 1) with later | later
      · exact (Reading.ended.inj ((after_ended ended later).symm.trans finished))
      · exact (Reading.ended.inj (ended.symm.trans (after_ended finished later)))
  · intro n got here
    have reached := schedule.reached small below n
    rw [here] at reached
    cases reached with
    | going underway spent =>
      rw [← c.slice_eq]
      exact ⟨underway.aligned, underway.next? small below⟩

/-- Five bytes in pieces, with interruptions, from the second one on. -/
theorem bytes_of_pieces :
    let c := Content.ofBytes [1, 2, 3, 4, 5]
    let answers := fun n => [Answer.interrupted, .bytes [2, 3], .interrupted, .bytes [4],
      .bytes [5]].getD n (.bytes [])
    Schedule c 1 10 answers ∧ c.size < Content.limit ∧
      ∃ n, ∀ m, n ≤ m → after 10 answers m = .ended (.ok [2, 3, 4, 5]) := by
  intro c answers
  have finished : after 10 answers 6 = .ended (.ok [2, 3, 4, 5]) := rfl
  have served : ∀ n call, next? 1 10 (after 10 answers n) = some call →
      Served c call (answers n)
    | 0, _, _ => .interrupted
    | 1, _, rfl => @Served.bytes c ⟨1, 10⟩ 2 (by decide) (by decide) (by decide)
    | 2, _, _ => .interrupted
    | 3, _, rfl => @Served.bytes c ⟨3, 8⟩ 1 (by decide) (by decide) (by decide)
    | 4, _, rfl => @Served.bytes c ⟨4, 7⟩ 1 (by decide) (by decide) (by decide)
    | 5, _, rfl => .atEnd (by decide)
    | n + 6, call, made => by
      rw [after_ended finished (Nat.le_add_left 6 n)] at made
      cases made
  have last : ∀ n, 5 ≤ n → answers n = .bytes [] := fun n late => by
    rw [show answers n = _ from List.getD_eq_getElem?_getD, List.getElem?_eq_none late]
    rfl
  have finite : ∃ bound, ∀ n, bound ≤ n → answers n ≠ .interrupted :=
    ⟨5, fun n late interrupted => nomatch (last n late).symm.trans interrupted⟩
  have allWell : ∀ n e, answers n ≠ .failed e
    | 0, _ | 1, _ | 2, _ | 3, _ | 4, _ => nofun
    | n + 5, _ => fun fails => nomatch (last _ (Nat.le_add_left 5 n)).symm.trans fails
  have schedule : Schedule c 1 10 answers := ⟨served, finite⟩
  have small : c.size < Content.limit := by decide
  obtain ⟨⟨n, r, ended, whole, -⟩, -⟩ := bytes_of_schedule schedule small (by decide)
  refine ⟨schedule, small, n, fun m later => ?_⟩
  rw [ended m later, whole fun m _ e _ => allWell m e]
  rfl

end Reading

end PatternFs
