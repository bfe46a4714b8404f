import PatternFs.Proofs.Filesystem.Births
import PatternFs.Proofs.Filesystem.Payloads

/-! How far writes extend a synthetic file. What it takes is where the writes end: neither their
order counts nor what happens between them, as long as nobody shortens the file or takes it away. -/
namespace PatternFs

namespace Synthetic

/-- The size after writes, each told by where it starts and how long it is. Those that end out of
range extend nothing. -/
def furthest (size : Nat) (writes : List (Nat × Nat)) : Nat :=
  ((writes.map fun (offset, length) => offset + length).filter (· < Size.limit)).foldr max size

theorem furthest_append (size : Nat) (writes earlier : List (Nat × Nat)) :
    furthest size (writes ++ earlier) = furthest (furthest size earlier) writes := by
  simp only [furthest, List.map_append, List.filter_append, List.foldr_append]

theorem furthest_perm {writes writes' : List (Nat × Nat)} (same : writes.Perm writes')
    (size : Nat) : furthest size writes = furthest size writes' :=
  ((same.map _).filter _).foldr_eq' (fun a _ b _ c => Nat.max_left_comm b a c) size

theorem furthest_inside {size offset length : Nat} (inside : offset + length < Size.limit) :
    furthest size [(offset, length)] = max size (offset + length) := by
  simp [furthest, inside, Nat.max_comm]

theorem furthest_outside {size offset length : Nat} (outside : ¬ offset + length < Size.limit) :
    furthest size [(offset, length)] = size := by
  simp [furthest, outside]

end Synthetic

namespace Operation

/-- Operations that leave a synthetic file at `path` there and take nothing off it. -/
def spares (path : Path) : Operation → Bool
  | .destroy | .teardown => false
  | .create other _ flags => other ≠ path || flags.isExclusiveCreate
  | .openFile other flags => other ≠ path || ! flags.truncate
  | .truncate other _ | .unlink other | .rename other _ => other ≠ path
  | _ => true

/-- Where a write to `path` starts, and how long it is. -/
def written? (path : Path) : Operation → Option (Nat × Nat)
  | .write other offset data => if other = path then some (offset, data.length) else none
  | _ => none

end Operation

/-- The writes to `path`, the last one first. -/
def History.writes (path : Path) (past : History) : List (Nat × Nat) :=
  past.filterMap fun row => row.1.written? path

namespace Filesystem

variable {first fs after : Filesystem} {path : Path} {e : Entry} {op : Operation}
  {r : Except Failure Reply} {later : History}

/-- What a write to a synthetic file is answered. -/
def writeAnswer (path : Path) (offset length : Nat) : Except Failure Reply :=
  if offset + length < Size.limit then .ok (.count length)
  else .error (.invalidArgument path.text (.pastRange offset))

theorem Sound.perform_write (sound : fs.Sound) (found : fs.catalog.find? path = some e)
    (kind : e.kind = .synthetic) (offset : Nat) (data : List UInt8) :
    (fs.perform (.write path offset data)).1 = writeAnswer path offset data.length ∧
      (fs.perform (.write path offset data)).2.catalog.find? path =
        some (e.resize (Synthetic.furthest e.size [(offset, data.length)])) ∧
      (¬ offset + data.length < Size.limit → (fs.perform (.write path offset data)).2 = fs) := by
  simp only [perform, replied, write_synthetic found kind, Synthetic.grown?, writeAnswer,
    sound.formed.own path e found]
  by_cases inside : offset + data.length < Size.limit
  · rw [if_pos inside, if_pos inside, Synthetic.furthest_inside inside]
    exact ⟨rfl, Catalog.find?_modify_same found _, fun outside => absurd inside outside⟩
  · rw [if_neg inside, if_neg inside, Synthetic.furthest_outside inside]
    exact ⟨rfl, found, fun _ => rfl⟩

theorem Transition.find?_spared (step : fs.Transition op r after) (sound : fs.Sound)
    (found : fs.catalog.find? path = some e) (kind : e.kind = .synthetic)
    (spared : op.spares path = true) (silent : op.written? path = none) :
    after.catalog.find? path = some e := by
  by_cases away : path ∉ op.paths
  · have lasts : op.ends = false := by
      cases op <;> first | rfl | cases spared
    rw [step.find?_other lasts away, found]
  have about : path ∈ op.paths := Decidable.not_not.1 away
  cases step with
  | failed same => rw [same.find?, found]
  | looked => exact found
  | read _ _ idle => rw [idle.untouched.find?, found]
  | madeSynthetic _ free | madeDelegated _ free =>
    cases List.mem_singleton.1 about
    cases found.symm.trans free
  | resetSynthetic _ _ shared | resetOpen _ _ shared | resetClosed _ _ shared =>
    cases List.mem_singleton.1 about
    simp [Operation.spares, shared] at spared
  | @openedSynthetic _ flags =>
    cases List.mem_singleton.1 about
    have whole : flags.truncate = false := by simpa [Operation.spares] using spared
    rw [if_neg (by simp [whole]), found]
  | openedDelegated here other | emptiedDelegated here other | wroteNothing here other
  | wroteDelegated here other | brokeOff here other =>
    cases List.mem_singleton.1 about
    cases found.symm.trans here
    cases kind.symm.trans other
  | wroteSynthetic =>
    cases List.mem_singleton.1 about
    simp [Operation.written?] at silent
  | cutSynthetic | cutDelegated | unlinkedSynthetic | unlinkedDelegated | unlinkedMissing =>
    cases List.mem_singleton.1 about
    simp [Operation.spares] at spared
  | renamedSynthetic _ _ free | renamedDelegated _ _ free | renamedTwin _ _ free =>
    rcases List.mem_cons.1 about with rfl | about
    · simp [Operation.spares] at spared
    · cases List.mem_singleton.1 about
      cases found.symm.trans free
  | released =>
    cases List.mem_singleton.1 about
    have alone := Entry.release_closed ((sound.formed.formed path e found).closed kind)
    rw [dropReference, found]
    exact (Catalog.find?_modify_same found _).trans (congrArg some alone)
  | destroyed | tornDown => cases spared

theorem History.writes_cons (path : Path) (op : Operation) (r : Except Failure Reply)
    (past : History) :
    History.writes path ((op, r) :: past) = (op.written? path).toList ++ past.writes path := by
  rw [History.writes, List.filterMap_cons]
  cases Operation.written? path op <;> rfl

theorem Sound.find?_perform (sound : fs.Sound) (found : fs.catalog.find? path = some e)
    (kind : e.kind = .synthetic) (spared : op.spares path = true) :
    (fs.perform op).2.catalog.find? path =
      some (e.resize (Synthetic.furthest e.size (op.written? path).toList)) := by
  have step := transition_perform sound.formed sound.numbered op
  cases silent : op.written? path with
  | none => exact step.find?_spared sound found kind spared silent
  | some place =>
    unfold Operation.written? at silent
    split at silent
    · next offset data =>
      split at silent
      · next here =>
        cases silent
        subst here
        exact (sound.perform_write found kind offset data).2.1
      · cases silent
    · cases silent

theorem Reachable.run (reachable : first.Reachable) (run : first.Run later fs) :
    fs.Reachable := by
  induction run with
  | start => exact reachable
  | perform op _ before => exact .perform op before
  | outside _ change before => exact .outside before change

/-- A run that spares the file extends it to where the writes end. -/
theorem Reachable.find?_run (reachable : first.Reachable)
    (found : first.catalog.find? path = some e) (kind : e.kind = .synthetic)
    (run : first.Run later fs) (spared : ∀ row ∈ later, row.1.spares path = true) :
    fs.catalog.find? path = some (e.resize (Synthetic.furthest e.size (later.writes path))) := by
  induction run with
  | start => exact found
  | outside _ _ before => exact before spared
  | @perform later fs op run before =>
    have here := before fun row member => spared row (List.mem_cons_of_mem _ member)
    have sound := (reachable.run run).sound
    rw [sound.find?_perform here kind (spared _ List.mem_cons_self), History.writes_cons,
      Synthetic.furthest_append]
    rfl

theorem Reachable.answers_run (reachable : first.Reachable)
    (found : first.catalog.find? path = some e) (kind : e.kind = .synthetic)
    (run : first.Run later fs) (spared : ∀ row ∈ later, row.1.spares path = true)
    {offset : Nat} {data : List UInt8} (written : (.write path offset data, r) ∈ later) :
    r = writeAnswer path offset data.length := by
  induction run with
  | start => cases written
  | outside _ _ before => exact before spared written
  | @perform later fs op run before =>
    have spared' : ∀ row ∈ later, row.1.spares path = true :=
      fun row member => spared row (List.mem_cons_of_mem _ member)
    rcases List.mem_cons.1 written with now | earlier
    · cases now
      have here := reachable.find?_run found kind run spared'
      exact ((reachable.run run).sound.perform_write here kind offset data).1
    · exact before spared' earlier

/-- Writes to a synthetic file, in any order and with anything in between that spares the file: each
that ends in range is answered with its length, each that does not is refused and changes nothing,
and the file ends where it did before or where the furthest accepted write does. Nothing else of its
entry changes. -/
theorem size_of_writes (reachable : first.Reachable) (found : first.catalog.find? path = some e)
    (kind : e.kind = .synthetic) (run : first.Run later fs)
    (spared : ∀ row ∈ later, row.1.spares path = true) {writes : List (Nat × Nat)}
    (same : writes.Perm (later.writes path)) :
    fs.catalog.find? path = some (e.resize (Synthetic.furthest e.size writes)) ∧
      (∀ offset data r, (.write path offset data, r) ∈ later →
        r = writeAnswer path offset data.length) ∧
      ∀ offset data, (fs.perform (.write path offset data)).1 =
          writeAnswer path offset data.length ∧
        (¬ offset + data.length < Size.limit → (fs.perform (.write path offset data)).2 = fs) := by
  have now := reachable.find?_run found kind run spared
  have sound := (reachable.run run).sound
  refine ⟨?_, fun offset data r written => ?_, fun offset data => ?_⟩
  · rw [Synthetic.furthest_perm same]
    exact now
  · exact reachable.answers_run found kind run spared written
  · obtain ⟨answer, -, refused⟩ := sound.perform_write now kind offset data
    exact ⟨answer, refused⟩

/-- Of the two last writes the first would end where no position is any more. -/
theorem size_of_refused_write :
    let path : Path := ⟨["deadbeef"], by simp [IsComponent]⟩
    let other : Path := ⟨["a.mhash"], by simp [IsComponent]⟩
    let first := execute [.create path 0o644 (.ofBits 6)] (start "/d" .counter .empty)
    let last := execute [.write path 3 [1, 2], .release path, .create other 0o644 (.ofBits 6),
      .write path 0xfffffffffffffffe [1, 2], .write path 0xfffffffffffffffe [1]] first
    ∃ e, first.catalog.find? path = some e ∧ e.size = 0 ∧
      last.catalog.find? path = some (e.resize 0xffffffffffffffff) ∧
      (last.perform (.write path 0xfffffffffffffffe [1, 2])).1 =
        .error (.invalidArgument path.text (.pastRange 0xfffffffffffffffe)) := by
  intro path other first last
  have reachable : first.Reachable :=
    .perform (.create path 0o644 (.ofBits 6)) (.start "/d" .counter rfl)
  have run : first.Run _ last :=
    .perform (.write path _ _) (.perform (.write path _ _) (.perform (.create other _ _)
      (.perform (.release path) (.perform (.write path _ _) .start))))
  have found : first.catalog.find? path =
      some (.synthetic path (.ofBytes 0xde 0xad 0xbe 0xef) 1) := by
    decide +kernel
  have apart : other ≠ path := by decide
  obtain ⟨now, -, next⟩ := size_of_writes reachable found rfl run
    (by simp [Operation.spares, apart]) (List.reverse_perm _)
  exact ⟨_, found, rfl, now, (next 0xfffffffffffffffe [1, 2]).1⟩

end Filesystem

end PatternFs
