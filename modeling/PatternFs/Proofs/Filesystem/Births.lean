import PatternFs.Proofs.Filesystem.Frame
import PatternFs.Proofs.Filesystem.History
import PatternFs.Proofs.Filesystem.Identities

/-! Where the files of a mount come from. A history tells under which name a file was made, and that
name together with the id says what the file is: its class and its pattern. Neither is ever changed,
wherever the file is moved, and no later file gets the id. -/
namespace PatternFs

/-- The id with which a client is told to have a file. -/
def Operation.handle? : Operation → Except Failure Reply → Option Nat
  | .create _ _ _, .ok (.count id) => some id
  | .openFile _ _, .ok (.count id) => some id
  | _, _ => none

/-- The path at which a creation was answered with `id`. -/
def Operation.origin? (id : Nat) : Operation → Except Failure Reply → Option Path
  | .create path _ _, .ok (.count made) => if made = id then some path else none
  | _, _ => none

namespace History

variable {past : History} {op : Operation} {r : Except Failure Reply} {id : Nat} {origin : Path}

def handles (past : History) : List Nat := past.filterMap fun (op, r) => op.handle? r

/-- Where the file was made that has the id: the first creation that was answered with it. -/
def birthplace? (id : Nat) : History → Option Path
  | [] => none
  | (op, r) :: past => (birthplace? id past).or (op.origin? id r)

theorem mem_handles_cons :
    id ∈ handles ((op, r) :: past) ↔ op.handle? r = some id ∨ id ∈ past.handles := by
  simp only [handles, List.filterMap_cons]
  cases handed : op.handle? r with
  | none => simp
  | some handle => simp only [List.mem_cons, Option.some.injEq, eq_comm]

theorem birthplace?_append (later : History) (made : past.birthplace? id = some origin) :
    birthplace? id (later ++ past) = some origin := by
  induction later with
  | nil => exact made
  | cons _ later ih => rw [List.cons_append, birthplace?, ih, Option.some_or]

/-- A file that was made was handed out. -/
theorem mem_handles_of_birthplace? (made : past.birthplace? id = some origin) :
    id ∈ past.handles := by
  induction past with
  | nil => cases made
  | cons row past ih =>
    obtain ⟨op, r⟩ := row
    rw [mem_handles_cons]
    rcases Option.or_eq_some_iff.1 made with earlier | ⟨-, now⟩
    · exact .inr (ih earlier)
    · unfold Operation.origin? at now
      split at now
      · split at now
        · next same => exact .inl (congrArg some same)
        · cases now
      · cases now

end History

/-- The place of birth and the id say what a file is. -/
theorem Identity.BornAt.unique {i j : Identity} {fallback : Fallback} {origin : Path}
    (born : i.BornAt fallback origin) (born' : j.BornAt fallback origin)
    (same : i.sequence = j.sequence) : i = j := by
  obtain ⟨sequence, kind, pattern⟩ := i
  obtain ⟨sequence', kind', pattern'⟩ := j
  obtain rfl : sequence = sequence' := same
  obtain rfl : kind = kind' := Except.ok.inj (born.place.symm.trans born'.place)
  have alike : pattern = pattern' := by
    cases kind with
    | synthetic => exact Except.ok.inj ((born.synthetic rfl).symm.trans (born'.synthetic rfl))
    | delegated => exact (born.delegated rfl).trans (born'.delegated rfl).symm
  rw [alike]

namespace Filesystem

variable {fs fs' base after : Filesystem} {path : Path} {op : Operation} {reply : Reply}
  {r : Except Failure Reply} {past later : History} {handle : Nat}

theorem Transition.opened {flags : OpenFlags}
    (step : fs.Transition (.openFile path flags) (.ok reply) after) :
    ∃ e, fs.catalog.find? path = some e ∧ reply = .count e.sequence := by
  cases step with
  | looked looks => cases looks
  | openedSynthetic found _ => exact ⟨_, found, rfl⟩
  | openedDelegated found _ _ _ => exact ⟨_, found, rfl⟩
  | emptiedDelegated found _ _ _ _ => exact ⟨_, found, rfl⟩

/-- A creation tells the id of the file that is there afterwards, which is the one that was there
before or a new one. -/
theorem Transition.created {mode : Nat} {flags : OpenFlags}
    (step : fs.Transition (.create path mode flags) (.ok reply) after) :
    ∃ e, after.catalog.find? path = some e ∧ reply = .count e.sequence ∧
      (∀ before, fs.catalog.find? path = some before → before.identity = e.identity) ∧
      (fs.catalog.find? path = none → e.sequence = fs.catalog.nextSequence) := by
  obtain ⟨-, ⟨⟨before, found, rfl⟩, same⟩ | ⟨i, vacant, rfl, -, next, -, made⟩⟩ :=
    step.known_created id
  · have lives : after.known id path = some before.identity :=
      (congrFun same path).trans (known_of_find? found)
    obtain ⟨e, found', alike⟩ := known_eq_some.1 lives
    refine ⟨e, found', congrArg (Reply.count ·.sequence) alike.symm, fun other here => ?_,
      fun vacant => ?_⟩
    · cases found.symm.trans here
      exact alike.symm
    · cases vacant.symm.trans found
  · have lives : after.known id path = some i := (congrFun made path).trans (if_pos rfl)
    obtain ⟨e, found', rfl⟩ := known_eq_some.1 lives
    refine ⟨e, found', rfl, fun other here => ?_, fun _ => next⟩
    cases vacant.symm.trans here

theorem Transition.ids_of_handle? (step : fs.Transition op r after)
    (handed : op.handle? r = some handle) : ∃ path, after.ids path = some handle := by
  unfold Operation.handle? at handed
  split at handed
  · next path _ _ _ =>
    cases handed
    obtain ⟨e, found, told, -⟩ := step.created
    cases told
    exact ⟨path, ids_of_find? found⟩
  · next path _ _ =>
    cases handed
    obtain ⟨e, found, told⟩ := step.opened
    cases told
    refine ⟨path, ?_⟩
    rw [step.ids_kept rfl]
    exact ids_of_find? found
  · cases handed

/-- A file was there before, perhaps at another path, or is made by a creation at a free path. -/
theorem Transition.known_or_made (step : fs.Transition op r after) {i : Identity}
    (here : after.known id path = some i) :
    (∃ other, fs.known id other = some i) ∨
      (∃ mode flags, op = .create path mode flags) ∧ fs.catalog.find? path = none ∧
        r = .ok (.count i.sequence) ∧ i.sequence = fs.catalog.nextSequence ∧
        i.BornAt fs.fallback path := by
  rcases step.known_cases id with
    same | none' | ⟨at', mode, flags, j, rfl, rfl, vacant, bornAt, next, -, made⟩ |
      ⟨old, new, moved⟩ | ⟨lost, gone⟩
  · exact .inl ⟨path, same ▸ here⟩
  · rw [none'] at here
    cases here
  · rw [made, Told.put] at here
    split at here
    · next isNew =>
      obtain rfl : j = i := Option.some.inj here
      subst isNew
      exact .inr ⟨⟨mode, flags, rfl⟩, vacant, rfl, next, bornAt⟩
    · exact .inl ⟨path, here⟩
  · rw [moved, Told.move] at here
    split at here
    · exact .inl ⟨old, here⟩
    · split at here
      · cases here
      · exact .inl ⟨path, here⟩
  · rw [gone, Told.put] at here
    split at here
    · cases here
    · exact .inl ⟨path, here⟩

/-- The ids that were handed out are below the next one, and each file is what it was made as. -/
structure Born (past : History) (fs : Filesystem) : Prop where
  handed : ∀ id ∈ past.handles, id < fs.catalog.nextSequence
  origin : ∀ path i, fs.known id path = some i → ∃ origin,
    past.birthplace? i.sequence = some origin ∧ i.BornAt fs.fallback origin

theorem Transition.born (step : fs.Transition op r after)
    (distinct : after.ids.Distinct after.catalog.nextSequence) (born : Born past fs) :
    Born ((op, r) :: past) after where
  handed id member := by
    rcases History.mem_handles_cons.1 member with now | earlier
    · obtain ⟨path, lives⟩ := step.ids_of_handle? now
      exact distinct.below path id lives
    · exact Nat.lt_of_lt_of_le (born.handed id earlier) step.nextSequence_le
  origin path i here := by
    rw [step.fallback]
    rcases step.known_or_made here with ⟨other, there⟩ | ⟨⟨mode, flags, rfl⟩, -, rfl, next, bornAt⟩
    · obtain ⟨origin, made, bornAt⟩ := born.origin other i there
      exact ⟨origin, History.birthplace?_append [(op, r)] made, bornAt⟩
    · -- The id of a new file is not yet in the history.
      have fresh : past.birthplace? i.sequence = none := by
        refine Option.eq_none_iff_forall_ne_some.2 fun origin known => ?_
        have handed := born.handed _ (History.mem_handles_of_birthplace? known)
        exact Nat.lt_irrefl _ (next ▸ handed)
      refine ⟨path, ?_, bornAt⟩
      rw [History.birthplace?, fresh, Option.none_or, Operation.origin?, if_pos rfl]

theorem Recorded.born (recorded : Recorded past fs) : Born past fs := by
  induction recorded with
  | start => exact ⟨nofun, nofun⟩
  | perform op before born =>
    have reachable := before.reachable
    exact (reachable.transition op).born (Reachable.perform op reachable).distinct born
  | outside _ _ born => exact ⟨born.handed, born.origin⟩

/-- What operations make of a mount, and what they were answered, while others change the backing
directory as they like. -/
inductive Run (first : Filesystem) : History → Filesystem → Prop
  | start : Run first [] first
  | perform {later : History} {fs : Filesystem} (op : Operation) : Run first later fs →
      Run first ((op, (fs.perform op).1) :: later) (fs.perform op).2
  | outside {later : History} {fs : Filesystem} {store : Store} : Run first later fs →
      fs.store.OutsideChange store → Run first later { fs with store }

theorem Recorded.run (recorded : Recorded past fs) (run : fs.Run later fs') :
    Recorded (later ++ past) fs' := by
  induction run with
  | start => exact recorded
  | perform op _ before => exact .perform op before
  | outside _ change before => exact .outside before change

theorem Recorded.fallback_run (recorded : Recorded past fs) (run : fs.Run later fs') :
    fs'.fallback = fs.fallback := by
  induction run with
  | start => rfl
  | perform op run before =>
    exact ((recorded.run run).reachable.transition op).fallback.trans before
  | outside _ _ before => exact before

theorem Born.identity_eq (born : Born past fs) (born' : Born (later ++ past) fs')
    (fallback : fs'.fallback = fs.fallback) {i j : Identity} {path' : Path}
    (here : fs.known id path = some i) (there : fs'.known id path' = some j)
    (same : j.sequence = i.sequence) : j = i := by
  obtain ⟨origin, made, bornAt⟩ := born.origin path i here
  obtain ⟨origin', made', bornAt'⟩ := born'.origin path' j there
  have still := History.birthplace?_append later made
  rw [← same, made'] at still
  cases still
  exact (fallback ▸ bornAt').unique bornAt same

/-- The files have different ids, all below the next one, and each is what its class and its pattern
were under the name it was made with. A file is made by a creation at a free path only, with an id
above all that were handed out before; a creation and an opening are answered with the id of the
file at the path. Whatever happens later, to this file or to any other, a file with the id has the
same class and the same pattern. -/
theorem identity_of_recorded (recorded : Recorded past fs) :
    (∀ path e, fs.catalog.find? path = some e → e.sequence < fs.catalog.nextSequence ∧
      ∀ other e', fs.catalog.find? other = some e' → e'.sequence = e.sequence → other = path) ∧
    (∀ path e, fs.catalog.find? path = some e → ∃ origin,
      past.birthplace? e.sequence = some origin ∧ e.identity.BornAt fs.fallback origin) ∧
    (∀ op path e, (fs.perform op).2.catalog.find? path = some e →
      (∃ other before, fs.catalog.find? other = some before ∧ before.identity = e.identity) ∨
        (∃ mode flags, op = .create path mode flags) ∧ fs.catalog.find? path = none ∧
          (fs.perform op).1 = .ok (.count e.sequence)) ∧
    (∀ path mode flags reply, (fs.perform (.create path mode flags)).1 = .ok reply →
      ∃ e, (fs.perform (.create path mode flags)).2.catalog.find? path = some e ∧
        reply = .count e.sequence ∧
        (∀ before, fs.catalog.find? path = some before → before.identity = e.identity) ∧
        (fs.catalog.find? path = none → ∀ handle ∈ past.handles, handle < e.sequence)) ∧
    (∀ path flags reply, (fs.perform (.openFile path flags)).1 = .ok reply →
      ∃ e, fs.catalog.find? path = some e ∧ reply = .count e.sequence) ∧
    ∀ later fs', fs.Run later fs' → fs'.fallback = fs.fallback ∧
      ∀ path e path' e', fs.catalog.find? path = some e → fs'.catalog.find? path' = some e' →
        e'.sequence = e.sequence → e'.kind = e.kind ∧ e'.pattern = e.pattern := by
  have reachable := recorded.reachable
  have distinct := reachable.distinct
  have born := recorded.born
  refine ⟨fun path e found => ⟨distinct.below path _ (ids_of_find? found),
      fun other e' found' same => ?_⟩, fun path e found => ?_, fun op path e found => ?_,
    fun path mode flags reply told => ?_, fun path flags reply told => ?_,
    fun later fs' run => ?_⟩
  · exact distinct.apart other path _ (same ▸ ids_of_find? found') (ids_of_find? found)
  · exact born.origin path _ (known_of_find? found)
  · have here : (fs.perform op).2.known id path = some e.identity := known_of_find? found
    rcases (reachable.transition op).known_or_made here with
      ⟨other, lives⟩ | ⟨created, vacant, told, -⟩
    · exact .inl ⟨other, known_eq_some.1 lives⟩
    · exact .inr ⟨created, vacant, told⟩
  · have step := reachable.transition (.create path mode flags)
    rw [told] at step
    obtain ⟨e, found, told', still, new⟩ := step.created
    refine ⟨e, found, told', still, fun vacant handle handed => ?_⟩
    rw [new vacant]
    exact born.handed handle handed
  · have step := reachable.transition (.openFile path flags)
    rw [told] at step
    exact step.opened
  · have fallback := recorded.fallback_run run
    refine ⟨fallback, fun path e path' e' found found' same => ?_⟩
    have alike := born.identity_eq (recorded.run run).born fallback (known_of_find? found)
      (known_of_find? found') same
    exact ⟨congrArg Identity.kind alike, congrArg Identity.pattern alike⟩

/-- A file gets a name with another pattern in it and is written to, and a new file gets its old
name. It still repeats what it was made with. -/
theorem identity_of_moved_file :
    let old : Path := ⟨["deadbeef"], by simp [IsComponent]⟩
    let new : Path := ⟨["0badcafe"], by simp [IsComponent]⟩
    let made := execute [.create old 0o644 (.ofBits 6)] (start "/d" .counter .empty)
    let moved := execute [.rename old new, .write new 0 [1, 2], .create old 0o644 (.ofBits 6)] made
    ∃ e e', made.catalog.find? old = some e ∧ moved.catalog.find? new = some e' ∧
      e.pattern = .ofBytes 0xde 0xad 0xbe 0xef ∧ e'.pattern = e.pattern := by
  intro old new made moved
  have first : Recorded [] (start "/d" .counter .empty) := .start "/d" .counter ⟨rfl, rfl, rfl⟩
  have recorded : Recorded _ made := .perform (.create old _ _) first
  have run : made.Run _ moved :=
    .perform (.create old _ _) (.perform (.write new 0 _) (.perform (.rename old new) .start))
  obtain ⟨-, -, -, -, -, later⟩ := identity_of_recorded recorded
  obtain ⟨-, still⟩ := later _ moved run
  have here : made.catalog.find? old =
      some (.synthetic old (.ofBytes 0xde 0xad 0xbe 0xef) 1) := by decide +kernel
  have there : moved.catalog.find? new =
      some ⟨new, .synthetic, 2, .ofBytes 0xde 0xad 0xbe 0xef, none, 1⟩ := by decide +kernel
  exact ⟨_, _, here, there, rfl, (still old _ new _ here there rfl).2⟩

end Filesystem

end PatternFs
