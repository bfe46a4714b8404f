import PatternFs.Mock.Drawing

/-! Fresh patterns from any stream of draws, however often it repeats itself. The loop keeps one
thing: what it has put aside so far are the draws that were not taken before, each where it came
first. So drawing goes on until enough such draws have come and not a draw longer, and it never ends
if they do not come. -/
namespace PatternFs.Drawing

variable {draws more taken : List Pattern} {p : Pattern} {stream : Nat → Pattern} {count n : Nat}

/-- The draws that are not taken, each where it comes first. -/
def fresh (taken draws : List Pattern) : List Pattern :=
  (draws.filter fun p => p ∉ taken).eraseDups

theorem fresh_cons (taken : List Pattern) (p : Pattern) (draws : List Pattern) :
    fresh taken (p :: draws) =
      if p ∈ taken then fresh taken draws else p :: fresh (p :: taken) draws := by
  unfold fresh
  split
  · next known => rw [List.filter_cons_of_neg (by simpa using known)]
  · next new =>
    rw [List.filter_cons_of_pos (by simpa using new), List.eraseDups_cons, List.filter_filter]
    congr 3
    funext q
    by_cases same : q = p <;> simp [same]

theorem mem_fresh : p ∈ fresh taken draws ↔ p ∈ draws ∧ p ∉ taken := by
  simp [fresh]

/-- No pattern is put aside twice, and they stand in the order in which they came first. -/
theorem pairwise_fresh (taken draws : List Pattern) :
    (fresh taken draws).Pairwise fun p q => draws.idxOf p < draws.idxOf q := by
  induction draws generalizing taken with
  | nil => exact .nil
  | cons p draws ih =>
    have later {q : Pattern} (different : q ≠ p) : (p :: draws).idxOf q = draws.idxOf q + 1 := by
      rw [List.idxOf_cons, beq_false_of_ne different.symm, cond_false]
    rw [fresh_cons]
    split
    · next known =>
      refine (ih taken).imp_of_mem fun {q r} member member' before => ?_
      have apart {q : Pattern} (member : q ∈ fresh taken draws) : q ≠ p := by
        rintro rfl
        exact (mem_fresh.1 member).2 known
      rw [later (apart member), later (apart member')]
      exact Nat.succ_lt_succ before
    · have apart {q : Pattern} (member : q ∈ fresh (p :: taken) draws) : q ≠ p := by
        rintro rfl
        exact (mem_fresh.1 member).2 List.mem_cons_self
      refine List.pairwise_cons.2 ⟨fun q member => ?_, ?_⟩
      · rw [List.idxOf_cons_self, later (apart member)]
        exact Nat.succ_pos _
      · refine (ih (p :: taken)).imp_of_mem fun {q r} member member' before => ?_
        rw [later (apart member), later (apart member')]
        exact Nat.succ_lt_succ before

theorem nodup_fresh (taken draws : List Pattern) : (fresh taken draws).Nodup :=
  (pairwise_fresh taken draws).imp fun before => by
    rintro rfl
    exact Nat.lt_irrefl _ before

/-- What the loop comes to, for any draws and whatever is taken. -/
theorem take_eq (draws : List Pattern) (count : Nat) (taken : List Pattern) :
    take draws count taken =
      if count ≤ (fresh taken draws).length then
        .done ((fresh taken draws).take count) (((fresh taken draws).take count).reverse ++ taken)
      else .unfinished := by
  induction draws generalizing count taken with
  | nil => cases count <;> simp [take, fresh]
  | cons p draws ih =>
    cases count with
    | zero => simp [take]
    | succ count =>
      rw [take, fresh_cons]
      split
      · exact ih (count + 1) taken
      · rw [ih count (p :: taken), List.length_cons]
        by_cases enough : count ≤ (fresh (p :: taken) draws).length
        · rw [if_pos enough, if_pos (Nat.succ_le_succ enough)]
          simp [cons]
        · rw [if_neg enough, if_neg (mt Nat.le_of_succ_le_succ enough)]
          rfl

/-- The first `n` draws of a stream. -/
def first (stream : Nat → Pattern) (n : Nat) : List Pattern := (List.range n).map stream

theorem first_add (stream : Nat → Pattern) (n k : Nat) :
    first stream (n + k) = first stream n ++ (List.range k).map fun i => stream (n + i) := by
  rw [first, List.range_add, List.map_append, List.map_map]
  rfl

theorem fresh_append (taken draws more : List Pattern) :
    fresh taken draws <+: fresh taken (draws ++ more) := by
  unfold fresh
  rw [List.filter_append, List.eraseDups_append]
  exact List.prefix_append _ _

theorem length_fresh_succ (taken : List Pattern) (stream : Nat → Pattern) (n : Nat) :
    (fresh taken (first stream (n + 1))).length ≤ (fresh taken (first stream n)).length + 1 := by
  have one : ∀ l : List Pattern, l.length ≤ 1 → l.eraseDups.length ≤ 1
    | [], _ => Nat.zero_le 1
    | [p], _ => by simp [List.eraseDups_cons]
  rw [first_add]
  unfold fresh
  rw [List.filter_append, List.eraseDups_append, List.length_append]
  refine Nat.add_le_add_left (one _ ?_) _
  exact Nat.le_trans (List.length_filter_le _ _) (List.length_filter_le _ _)

/-- After `n` draws there are `count` fresh patterns, and not before. -/
def Shortest (stream : Nat → Pattern) (taken : List Pattern) (count n : Nat) : Prop :=
  count ≤ (fresh taken (first stream n)).length ∧
    ∀ m < n, (fresh taken (first stream m)).length < count

theorem Shortest.length_eq (shortest : Shortest stream taken count n) :
    (fresh taken (first stream n)).length = count := by
  obtain ⟨enough, before⟩ := shortest
  cases n with
  | zero => exact Nat.le_antisymm (Nat.zero_le count) enough
  | succ m =>
    have := before m (Nat.lt_succ_self m)
    have := length_fresh_succ taken stream m
    omega

/-- The draws after the shortest prefix make no difference. -/
theorem Shortest.take_eq (shortest : Shortest stream taken count n) {m : Nat} (later : n ≤ m) :
    take (first stream m) count taken =
      .done (fresh taken (first stream n)) ((fresh taken (first stream n)).reverse ++ taken) := by
  obtain ⟨k, rfl⟩ := Nat.exists_eq_add_of_le later
  have longer : fresh taken (first stream n) <+: fresh taken (first stream (n + k)) := by
    rw [first_add]
    exact fresh_append _ _ _
  have cut : (fresh taken (first stream (n + k))).take count = fresh taken (first stream n) := by
    rw [← shortest.length_eq]
    exact (List.prefix_iff_eq_take.1 longer).symm
  rw [Drawing.take_eq, if_pos (Nat.le_trans shortest.1 longer.length_le), cut]

/-- What is taken when a drawing is over that started with `taken`. Only one that is done takes
more. -/
def now (taken : List Pattern) : Drawing → List Pattern
  | .done _ taken => taken
  | .refused _ | .unfinished => taken

theorem ofDraws_refused (asked : count > patternCount - taken.length) (draws : List Pattern) :
    ofDraws draws count taken = .refused (patternCount - taken.length) := if_pos asked

theorem ofDraws_allowed (asked : count ≤ patternCount - taken.length) (draws : List Pattern) :
    ofDraws draws count taken = take draws count taken := if_neg (Nat.not_lt.2 asked)

theorem take_ne_refused (draws : List Pattern) (count : Nat) (taken : List Pattern)
    (available : Nat) : take draws count taken ≠ .refused available := by
  rw [take_eq]
  split <;> nofun

/-- Drawing is refused exactly when more patterns are asked for than are left of the 2^32, before
the first draw, and with what is taken as it was. Otherwise it goes on as long as the draws have
brought too few fresh patterns; after the shortest prefix of the stream that has enough it is done,
and what comes later plays no part. It gives the fresh patterns of that prefix in the order in which
they came first, none twice and none that was taken before, and they are taken from then on. -/
theorem drawn_of_stream (once : taken.Nodup) (stream : Nat → Pattern) (count : Nat) :
    let answer n := ofDraws (first stream n) count taken
    let new n := fresh taken (first stream n)
    (∀ n, (∃ available, answer n = .refused available) ↔ count > 0x100000000 - taken.length) ∧
      (count > 0x100000000 - taken.length → ∀ n,
        answer n = .refused (0x100000000 - taken.length) ∧ (answer n).now taken = taken) ∧
      (count ≤ 0x100000000 - taken.length →
        (∀ n, (new n).length < count → answer n = .unfinished) ∧
        ∀ n, Shortest stream taken count n → (new n).length = count ∧ ∀ m, n ≤ m →
          ∃ after, answer m = .done (new n) after ∧ (answer m).now taken = after ∧ after.Nodup ∧
            ∀ p, p ∈ after ↔ p ∈ taken ∨ p ∈ new n) ∧
      ∀ n, (new n).Nodup ∧ (∀ p, p ∈ new n ↔ p ∈ first stream n ∧ p ∉ taken) ∧
        (new n).Pairwise fun p q => (first stream n).idxOf p < (first stream n).idxOf q := by
  intro answer new
  refine ⟨fun n => ⟨?_, fun asked => ⟨_, ofDraws_refused asked _⟩⟩, fun asked n => ?_,
    fun asked => ⟨fun n few => ?_, fun n shortest => ⟨shortest.length_eq, fun m later => ?_⟩⟩,
    fun n => ⟨nodup_fresh _ _, fun p => mem_fresh, pairwise_fresh _ _⟩⟩
  · rintro ⟨available, refused⟩
    refine Nat.lt_of_not_le fun asked => take_ne_refused (first stream n) count taken available ?_
    rwa [← ofDraws_allowed asked]
  · have refused : answer n = .refused (0x100000000 - taken.length) := ofDraws_refused asked _
    exact ⟨refused, by rw [refused]; rfl⟩
  · exact (ofDraws_allowed asked _).trans ((take_eq _ _ _).trans (if_neg (Nat.not_le.2 few)))
  · have done : answer m = .done (new n) ((new n).reverse ++ taken) :=
      (ofDraws_allowed asked _).trans (shortest.take_eq later)
    refine ⟨_, done, by rw [done]; rfl, ?_, fun p => ?_⟩
    · refine List.nodup_append.2 ⟨?_, once, ?_⟩
      · exact (List.reverse_perm _).nodup_iff.2 (nodup_fresh _ _)
      · rintro p member q known rfl
        exact (mem_fresh.1 (List.mem_reverse.1 member)).2 known
    · rw [List.mem_append, List.mem_reverse, or_comm]

/-- A stream that repeats itself and brings what is taken: two fresh patterns come with the fourth
draw. -/
theorem drawn_of_repeating_stream :
    let p := Pattern.ofSequence 1
    let q := Pattern.ofSequence 2
    let r := Pattern.ofSequence 3
    let stream := fun n => [p, q, p, r].getD n q
    [q].Nodup ∧ Shortest stream [q] 2 4 ∧
      ofDraws (first stream 3) 2 [q] = .unfinished ∧
      ∀ m, 4 ≤ m → ∃ after, ofDraws (first stream m) 2 [q] = .done [p, r] after ∧
        ∀ s, s ∈ after ↔ s ∈ [q] ∨ s ∈ [p, r] := by
  intro p q r stream
  have once : [q].Nodup := by simp
  have shortest : Shortest stream [q] 2 4 := ⟨by decide, by decide⟩
  have new : fresh [q] (first stream 4) = [p, r] := by decide
  obtain ⟨few, enough⟩ := (drawn_of_stream once stream 2).2.2.1 (by decide)
  refine ⟨once, shortest, few 3 (by decide), fun m later => ?_⟩
  obtain ⟨after, done, -, -, known⟩ := (enough 4 shortest).2 m later
  simp only [new] at done known
  exact ⟨after, done, known⟩

end PatternFs.Drawing
