import PatternFs.Writing

/-! What the calls of a write have made of a file. At any time a front part of the data is in it, as
if one call had taken that part; the write has worked exactly when the part is all of the data. -/
namespace PatternFs

/-- A block behind a block is one block. -/
theorem Content.splice_splice (c : Content) (offset : Nat) (front back : List UInt8) :
    (c.splice offset front).splice (offset + front.length) back =
      c.splice offset (front ++ back) := by
  by_cases noFront : front = []
  · rw [noFront, splice_nil, List.length_nil, Nat.add_zero, List.nil_append]
  by_cases noBack : back = []
  · rw [noBack, splice_nil, List.append_nil]
  refine Content.ext ?_ fun i => ?_
  · rw [size_splice _ _ noBack, size_splice _ _ noFront,
      size_splice _ _ (List.append_ne_nil_of_left_ne_nil noFront back), List.length_append]
    omega
  · rw [byteAt_splice, byteAt_splice, byteAt_splice, List.length_append]
    by_cases inFront : offset ≤ i ∧ i < offset + front.length
    · have notBack : ¬ offset + front.length ≤ i := by omega
      have inBoth : offset ≤ i ∧ i < offset + (front.length + back.length) := by omega
      have early : i - offset < front.length := by omega
      rw [if_neg (fun both => notBack both.1), if_pos inFront, if_pos inBoth,
        List.getElem?_append_left early]
    · by_cases inBack : offset + front.length ≤ i ∧ i < offset + front.length + back.length
      · have inBoth : offset ≤ i ∧ i < offset + (front.length + back.length) := by omega
        have late : front.length ≤ i - offset := by omega
        have same : i - offset - front.length = i - (offset + front.length) := by omega
        rw [if_pos inBack, if_pos inBoth, List.getElem?_append_right late, same]
      · have notBoth : ¬ (offset ≤ i ∧ i < offset + (front.length + back.length)) := by omega
        rw [if_neg inBack, if_neg inFront, if_neg notBoth]

namespace Writing

variable {c : Content} {offset : Nat} {data : List UInt8} {w : Writing}

/-- The file holds the front part of the data that was taken, and a write that is over has taken all
of it exactly if it worked. -/
structure Lays (c : Content) (offset : Nat) (data : List UInt8) (w : Writing) : Prop where
  content : w.content = c.splice offset (data.take w.taken)
  short : ∀ c' n, w = .going c' n → n < data.length
  whole : ∀ c' n, w = .ended c' n (.ok ()) → n = data.length
  broken : ∀ c' n e, w = .ended c' n (.error e) → n < data.length

theorem lays_start (c : Content) (offset : Nat) (data : List UInt8) :
    (start c data).Lays c offset data := by
  unfold start
  split
  · next nothing =>
    refine ⟨by rw [nothing]; exact (Content.splice_nil c offset).symm, nofun, ?_, nofun⟩
    rintro _ _ ⟨⟩
    rw [nothing]
    rfl
  · next something =>
    refine ⟨(Content.splice_nil c offset).symm, ?_, nofun, nofun⟩
    rintro _ _ ⟨⟩
    exact List.length_pos_iff.2 something

/-- One call puts what it takes behind what is there. -/
theorem Lays.take (lays : w.Lays c offset data) (a : Taking) :
    (take offset data w a).Lays c offset data := by
  cases w with
  | ended c' n r => exact lays
  | going c' n =>
    have more := lays.short c' n rfl
    have here : c' = c.splice offset (data.take n) := lays.content
    cases a with
    | interrupted => exact lays
    | failed e =>
      refine ⟨here, nofun, fun _ _ past => ?_, ?_⟩
      · cases past
      · rintro _ _ _ ⟨⟩
        exact more
    | took count =>
      match count with
      | 0 =>
        refine ⟨here, nofun, fun _ _ past => ?_, ?_⟩
        · cases past
        · rintro _ _ _ ⟨⟩
          exact more
      | count + 1 =>
        have next : c'.splice (offset + n) ((data.drop n).take (count + 1)) =
            c.splice offset (data.take (n + (count + 1))) := by
          have reached : (data.take n).length = n := List.length_take_of_le (Nat.le_of_lt more)
          have joined :=
            Content.splice_splice c offset (data.take n) ((data.drop n).take (count + 1))
          rw [reached, ← List.take_add] at joined
          rw [here, joined]
        simp only [Writing.take, next]
        split
        · next left =>
          refine ⟨rfl, ?_, nofun, nofun⟩
          rintro _ _ ⟨⟩
          exact left
        · next done =>
          refine ⟨?_, nofun, ?_, fun _ _ _ past => ?_⟩
          · exact congrArg (c.splice offset) ((List.take_of_length_le (Nat.not_lt.1 done)).trans
              List.take_length.symm)
          · rintro _ _ ⟨⟩
            rfl
          · cases past

theorem Lays.foldl (lays : w.Lays c offset data) (answers : List Taking) :
    (answers.foldl (Writing.take offset data) w).Lays c offset data := by
  induction answers generalizing w with
  | nil => exact lays
  | cons a rest ih => exact ih (lays.take a)

theorem lays_run (c : Content) (offset : Nat) (data : List UInt8) (answers : List Taking) :
    (run c offset data answers).Lays c offset data :=
  (lays_start c offset data).foldl _

theorem run_ended (c : Content) (offset : Nat) (data : List UInt8) (answers : List Taking) :
    ∃ c' n r, run c offset data answers = .ended c' n r := by
  have lays := (lays_start c offset data).foldl answers
  rw [run, List.foldl_append, List.foldl_cons, List.foldl_nil]
  cases before : answers.foldl (take offset data) (start c data) with
  | ended c' n r => exact ⟨c', n, r, rfl⟩
  | going c' n =>
    have more := lays.short c' n before
    obtain ⟨rest, all⟩ := Nat.exists_eq_succ_of_ne_zero (Nat.ne_of_gt (Nat.zero_lt_of_lt more))
    rw [all]
    have enough : ¬ n + (rest + 1) < data.length := by omega
    exact ⟨_, _, _, if_neg enough⟩

theorem run_ok {answers : List Taking} (worked : (run c offset data answers).result = .ok ()) :
    (run c offset data answers).taken = data.length ∧
      (run c offset data answers).content = c.splice offset data := by
  have lays := lays_run c offset data answers
  obtain ⟨c', n, r, ended⟩ := run_ended c offset data answers
  have taken : (run c offset data answers).taken = data.length := by
    rw [ended] at worked ⊢
    obtain rfl : r = .ok () := worked
    exact lays.whole c' n ended
  refine ⟨taken, ?_⟩
  rw [lays.content, taken, List.take_length]

theorem run_error {answers : List Taking} {e : HostError}
    (failed : (run c offset data answers).result = .error e) :
    (run c offset data answers).taken < data.length := by
  obtain ⟨c', n, r, ended⟩ := run_ended c offset data answers
  rw [ended] at failed ⊢
  obtain rfl : r = .error e := failed
  exact (lays_run c offset data answers).broken c' n e ended

end Writing

end PatternFs
