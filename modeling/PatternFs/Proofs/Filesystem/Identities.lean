import PatternFs.Proofs.Filesystem.Failures
import PatternFs.Proofs.Filesystem.Texts

/-! Which file lives at which path. A file is known by its sequence id, which the next new file has
never had; it keeps the id as long as it lives, wherever it is moved. -/
namespace PatternFs

/-- Operations that leave every file where it is. -/
def Operation.keepsFiles : Operation → Bool
  | .destroy | .teardown | .create _ _ _ | .rename _ _ | .unlink _ => false
  | _ => true

/-- What a file keeps as long as it lives. -/
structure Identity where
  sequence : Nat
  kind : EntryClass
  pattern : Pattern
  deriving DecidableEq

/-- What a file is when it is made under the name of `origin`. -/
structure Identity.BornAt (i : Identity) (fallback : Fallback) (origin : Path) : Prop where
  place : Filesystem.newFileClass origin = .ok i.kind
  synthetic : i.kind = .synthetic →
    Pattern.derive fallback origin.name i.sequence = .ok i.pattern
  delegated : i.kind = .delegated → i.pattern = .zero

namespace Entry

def identity (e : Entry) : Identity := ⟨e.sequence, e.kind, e.pattern⟩

theorem identity_attach (e : Entry) (d : Nat) : (e.attach d).identity = e.identity := by
  unfold attach
  split <;> rfl

end Entry

/-- No two of the paths have one id, and the ids from `next` on are nobody's. -/
structure Told.Distinct (ids : Told (Option Nat)) (next : Nat) : Prop where
  below : ∀ path id, ids path = some id → id < next
  apart : ∀ path other id, ids path = some id → ids other = some id → path = other

namespace Told.Distinct

variable {ids : Told (Option Nat)} {next : Nat}

theorem nobody (next : Nat) : Distinct (fun _ => none) next where
  below _ _ lives := by cases lives
  apart _ _ _ lives := by cases lives

theorem grow (distinct : ids.Distinct next) {later : Nat} (le : next ≤ later) :
    ids.Distinct later where
  below path id lives := Nat.lt_of_lt_of_le (distinct.below path id lives) le
  apart := distinct.apart

theorem made (distinct : ids.Distinct next) (path : Path) :
    (ids.put path (some next)).Distinct (next + 1) := by
  constructor
  · intro other id lives
    rw [put] at lives
    split at lives
    · cases lives
      exact Nat.lt_succ_self next
    · exact Nat.lt_succ_of_lt (distinct.below other id lives)
  · intro first second id lives lives'
    rw [put] at lives lives'
    split at lives <;> split at lives'
    · next same same' => exact same.trans same'.symm
    · cases lives; exact absurd (distinct.below second _ lives') (Nat.lt_irrefl _)
    · cases lives'; exact absurd (distinct.below first _ lives) (Nat.lt_irrefl _)
    · exact distinct.apart first second id lives lives'

theorem gone (distinct : ids.Distinct next) (path : Path) :
    (ids.put path none).Distinct next := by
  have before {other : Path} {id : Nat} (lives : ids.put path none other = some id) :
      ids other = some id := by
    rw [put] at lives
    split at lives
    · cases lives
    · exact lives
  exact ⟨fun other id lives => distinct.below other id (before lives),
    fun first second id lives lives' =>
      distinct.apart first second id (before lives) (before lives')⟩

theorem move (distinct : ids.Distinct next) (old new : Path) :
    (ids.move none old new).Distinct next := by
  constructor
  · intro other id lives
    rw [Told.move] at lives
    split at lives
    · exact distinct.below old id lives
    · split at lives
      · cases lives
      · exact distinct.below other id lives
  · intro first second id lives lives'
    rw [Told.move] at lives lives'
    split at lives <;> split at lives'
    · next same same' => exact same.trans same'.symm
    · split at lives'
      · cases lives'
      · next notOld => exact absurd (distinct.apart second old id lives' lives) notOld
    · split at lives
      · cases lives
      · next notOld => exact absurd (distinct.apart first old id lives lives') notOld
    · split at lives <;> split at lives'
      · cases lives
      · cases lives
      · cases lives'
      · exact distinct.apart first second id lives lives'

end Told.Distinct

namespace Filesystem

variable {fs base after : Filesystem} {path old new : Path} {op : Operation}
  {r : Except Failure Reply} {reply : Reply} {id : Nat}

/-- The file that lives at each path. -/
def ids (fs : Filesystem) : Told (Option Nat) := fs.catalog.view fun e => some e.sequence

theorem ids_eq_some :
    fs.ids path = some id ↔ ∃ e, fs.catalog.find? path = some e ∧ e.sequence = id := by
  rw [ids, Catalog.view, Option.bind_eq_some_iff]
  simp only [Option.some.injEq]

theorem ids_eq_none : fs.ids path = none ↔ fs.catalog.find? path = none := by
  rw [ids, Catalog.view, Option.bind_eq_none_iff]
  simp [Option.eq_none_iff_forall_ne_some]

theorem ids_of_find? {e : Entry} (found : fs.catalog.find? path = some e) :
    fs.ids path = some e.sequence := ids_eq_some.2 ⟨e, found, rfl⟩

theorem ne_root_of_place {kind : EntryClass} (place : newFileClass path = .ok kind) :
    path ≠ .root := by
  rintro rfl
  cases (newFileClass_ok.1 place).2.1

theorem Sound.ne_root (sound : fs.Sound) (lives : fs.ids path = some id) : path ≠ .root := by
  obtain ⟨e, found, -⟩ := ids_eq_some.1 lives
  exact ne_root_of_place (sound.formed.place found)

section

variable {α : Type} (part : Identity → α)

/-- A part of the identity of the file at each path. -/
def known (fs : Filesystem) : Told (Option α) := fs.catalog.view fun e => some (part e.identity)

variable {part}

theorem known_of_find? {e : Entry} (found : fs.catalog.find? path = some e) :
    fs.known part path = some (part e.identity) := Catalog.view_of_find? found

theorem known_eq_some {a : α} : fs.known part path = some a ↔
    ∃ e, fs.catalog.find? path = some e ∧ part e.identity = a := by
  rw [known, Catalog.view, Option.bind_eq_some_iff]
  simp only [Option.some.injEq]

theorem known_resizeEntry (fs : Filesystem) (path : Path) (size : Nat) :
    (fs.resizeEntry path size).known part = fs.known part :=
  Catalog.view_modify_same path fun _ => rfl

theorem Untouched.known (same : fs.Untouched after) : after.known part = fs.known part :=
  same.view _

theorem Referred.known {e : Entry} {d : Nat} (referred : fs.Referred path e d base) :
    base.known part = fs.known part := by
  cases referred with
  | shared => exact Catalog.view_modify_same path fun _ => rfl
  | opened =>
    exact Catalog.view_modify_same path fun e =>
      congrArg (fun i => some (part i)) (e.identity_attach _)

theorem known_dropReference (fs : Filesystem) (path : Path) :
    (fs.dropReference path).known part = fs.known part := by
  unfold dropReference
  split
  · rfl
  · exact Catalog.view_modify_same path fun _ => rfl

theorem Transition.known_kept (part : Identity → α) (step : fs.Transition op r after)
    (keeps : op.keepsFiles = true) :
    after.known part = fs.known part := by
  cases step with
  | failed same => exact same.known
  | looked => rfl
  | openedSynthetic =>
    split
    · exact known_resizeEntry _ _ 0
    · rfl
  | openedDelegated _ _ _ referred => exact referred.known
  | emptiedDelegated _ _ _ referred _ => exact (known_resizeEntry _ _ 0).trans referred.known
  | read _ _ idle => exact idle.untouched.known
  | wroteNothing _ _ idle => exact (known_resizeEntry _ _ _).trans idle.untouched.known
  | wroteSynthetic | wroteDelegated | cutSynthetic | cutDelegated =>
    exact known_resizeEntry _ _ _
  | brokeOff => rfl
  | released => exact known_dropReference fs _
  | destroyed | tornDown | madeSynthetic | resetSynthetic | madeDelegated | resetOpen | resetClosed
  | renamedSynthetic | renamedDelegated | renamedTwin | unlinkedSynthetic | unlinkedDelegated
  | unlinkedMissing => cases keeps

/-- A creation finds a file, which stays the same one, or makes a new one, which gets the next id.
Either way the id is the answer. -/
theorem Transition.known_created (part : Identity → α) {mode : Nat} {flags : OpenFlags}
    (step : fs.Transition (.create path mode flags) (.ok reply) after) :
    (∃ kind, newFileClass path = .ok kind) ∧
      ((∃ e, fs.catalog.find? path = some e ∧ reply = .count e.sequence) ∧
          after.known part = fs.known part ∨
        ∃ i : Identity, fs.catalog.find? path = none ∧ reply = .count i.sequence ∧
          i.BornAt fs.fallback path ∧ i.sequence = fs.catalog.nextSequence ∧
          after.catalog.nextSequence = fs.catalog.nextSequence + 1 ∧
          after.known part = (fs.known part).put path (some (part i))) := by
  cases step with
  | looked looks => cases looks
  | @madeSynthetic _ _ _ pattern place vacant derived =>
    exact ⟨⟨_, place⟩, .inr ⟨⟨_, .synthetic, pattern⟩, vacant, rfl,
      ⟨place, fun _ => derived, nofun⟩, rfl, rfl, Catalog.view_put _⟩⟩
  | resetSynthetic place found _ =>
    exact ⟨⟨_, place⟩, .inl ⟨⟨_, found, rfl⟩, known_resizeEntry _ _ 0⟩⟩
  | madeDelegated place vacant _ _ _ =>
    exact ⟨⟨_, place⟩, .inr ⟨⟨_, .delegated, .zero⟩, vacant, rfl, ⟨place, nofun, fun _ => rfl⟩,
      rfl, rfl, Catalog.view_put _⟩⟩
  | resetOpen place found _ _ _ _ =>
    exact ⟨⟨_, place⟩, .inl ⟨⟨_, found, rfl⟩, Catalog.view_modify_same path fun _ => rfl⟩⟩
  | resetClosed place found _ _ _ _ =>
    exact ⟨⟨_, place⟩, .inl ⟨⟨_, found, rfl⟩, Catalog.view_modify_same path fun e =>
      congrArg (fun i => some (part i)) ((e.resize 0).identity_attach _)⟩⟩

theorem Transition.known_renamed (part : Identity → α)
    (step : fs.Transition (.rename old new) (.ok reply) after) :
    (∃ e, fs.catalog.find? old = some e) ∧ fs.catalog.find? new = none ∧
      (∃ kind, newFileClass new = .ok kind) ∧
      after.known part = (fs.known part).move none old new := by
  cases step with
  | looked looks => cases looks
  | renamedSynthetic found _ vacant place | renamedDelegated found _ vacant place
  | renamedTwin found _ vacant place =>
    exact ⟨⟨_, found⟩, vacant, ⟨_, place⟩, Catalog.view_move new (fun _ => rfl) found⟩

theorem Transition.catalog_unlinked (step : fs.Transition (.unlink path) (.ok reply) after) :
    (∃ e, fs.catalog.find? path = some e) ∧ after.catalog = fs.catalog.remove path := by
  cases step with
  | looked looks => cases looks
  | unlinkedSynthetic found | unlinkedDelegated found | unlinkedMissing found =>
    exact ⟨⟨_, found⟩, rfl⟩

theorem Transition.known_unlinked (part : Identity → α)
    (step : fs.Transition (.unlink path) (.ok reply) after) :
    after.known part = (fs.known part).put path none := by
  rw [known, step.catalog_unlinked.2]
  exact Catalog.view_remove

/-- Either the files stay where they are, or they all go, or one is made, moved or taken away. -/
theorem Transition.known_cases (part : Identity → α) (step : fs.Transition op r after) :
    after.known part = fs.known part ∨ (after.known part = fun _ => none) ∨
      (∃ path mode flags, ∃ i : Identity, op = .create path mode flags ∧
        r = .ok (.count i.sequence) ∧ fs.catalog.find? path = none ∧
        i.BornAt fs.fallback path ∧ i.sequence = fs.catalog.nextSequence ∧
        after.catalog.nextSequence = fs.catalog.nextSequence + 1 ∧
        after.known part = (fs.known part).put path (some (part i))) ∨
      (∃ old new, after.known part = (fs.known part).move none old new) ∨
      ∃ path, after.known part = (fs.known part).put path none := by
  cases keeps : op.keepsFiles with
  | true => exact .inl (step.known_kept part keeps)
  | false =>
    cases r with
    | error f =>
      cases step with
      | failed same => exact .inl same.known
      | looked | brokeOff => exact .inl rfl
    | ok reply =>
      cases op with
      | destroy | teardown =>
        cases step with
        | looked looks => cases looks
        | _ => exact .inr (.inl rfl)
      | create path mode flags =>
        obtain ⟨-, ⟨-, same⟩ | ⟨i, vacant, rfl, born, next, grown, new⟩⟩ :=
          step.known_created part
        · exact .inl same
        · exact .inr (.inr (.inl
            ⟨path, mode, flags, i, rfl, rfl, vacant, born, next, grown, new⟩))
      | rename old new =>
        exact .inr (.inr (.inr (.inl ⟨old, new, (step.known_renamed part).2.2.2⟩)))
      | unlink path => exact .inr (.inr (.inr (.inr ⟨path, step.known_unlinked part⟩)))
      | _ => cases keeps

end

theorem Untouched.ids (same : fs.Untouched after) : after.ids = fs.ids := same.view _

theorem Transition.ids_kept (step : fs.Transition op r after) (keeps : op.keepsFiles = true) :
    after.ids = fs.ids := step.known_kept Identity.sequence keeps

theorem Transition.ids_created {mode : Nat} {flags : OpenFlags}
    (step : fs.Transition (.create path mode flags) (.ok reply) after) :
    path ≠ .root ∧
      ((∃ id, fs.ids path = some id) ∧ after.ids = fs.ids ∨
        fs.ids path = none ∧ after.ids = fs.ids.put path (some fs.catalog.nextSequence) ∧
          after.catalog.nextSequence = fs.catalog.nextSequence + 1) := by
  obtain ⟨⟨kind, place⟩, ⟨⟨e, found, -⟩, same⟩ | ⟨i, vacant, -, -, next, grown, new⟩⟩ :=
    step.known_created Identity.sequence
  · exact ⟨ne_root_of_place place, .inl ⟨⟨_, ids_of_find? found⟩, same⟩⟩
  · exact ⟨ne_root_of_place place, .inr ⟨ids_eq_none.2 vacant, next ▸ new, grown⟩⟩

theorem Transition.ids_renamed (step : fs.Transition (.rename old new) (.ok reply) after) :
    (∃ id, fs.ids old = some id) ∧ fs.ids new = none ∧ new ≠ .root ∧
      after.ids = fs.ids.move none old new := by
  obtain ⟨⟨e, found⟩, vacant, ⟨kind, place⟩, moved⟩ :=
    step.known_renamed Identity.sequence
  exact ⟨⟨_, ids_of_find? found⟩, ids_eq_none.2 vacant, ne_root_of_place place, moved⟩

theorem Transition.ids_unlinked (step : fs.Transition (.unlink path) (.ok reply) after) :
    (∃ id, fs.ids path = some id) ∧ after.ids = fs.ids.put path none := by
  obtain ⟨⟨e, found⟩, -⟩ := step.catalog_unlinked
  exact ⟨⟨_, ids_of_find? found⟩, step.known_unlinked Identity.sequence⟩

theorem Untouched.nextSequence_le (same : fs.Untouched after) :
    fs.catalog.nextSequence ≤ after.catalog.nextSequence := same.kept.sequence

theorem Referred.nextSequence {e : Entry} {d : Nat} (referred : fs.Referred path e d base) :
    base.catalog.nextSequence = fs.catalog.nextSequence := by
  cases referred <;> rfl

theorem nextSequence_move (c : Catalog) (old new : Path) :
    (c.move old new).nextSequence = c.nextSequence := by
  unfold Catalog.move
  split <;> rfl

theorem Transition.nextSequence_le (step : fs.Transition op r after) :
    fs.catalog.nextSequence ≤ after.catalog.nextSequence := by
  cases step with
  | failed same => exact same.nextSequence_le
  | looked | destroyed | tornDown | resetSynthetic | wroteSynthetic | wroteDelegated | brokeOff
  | cutSynthetic | cutDelegated | unlinkedSynthetic | unlinkedDelegated | unlinkedMissing =>
    exact Nat.le_refl _
  | madeSynthetic | madeDelegated | resetOpen | resetClosed => exact Nat.le_succ _
  | openedSynthetic => split <;> exact Nat.le_refl _
  | openedDelegated _ _ _ referred => exact Nat.le_of_eq referred.nextSequence.symm
  | emptiedDelegated _ _ _ referred _ => exact Nat.le_of_eq referred.nextSequence.symm
  | read _ _ idle => exact idle.untouched.nextSequence_le
  | wroteNothing _ _ idle => exact idle.untouched.nextSequence_le
  | renamedSynthetic | renamedDelegated | renamedTwin =>
    exact Nat.le_of_eq (nextSequence_move _ _ _).symm
  | released =>
    unfold dropReference
    split <;> exact Nat.le_refl _

/-- One operation keeps the identities apart. -/
theorem Transition.distinct (step : fs.Transition op r after)
    (distinct : fs.ids.Distinct fs.catalog.nextSequence) :
    after.ids.Distinct after.catalog.nextSequence := by
  have grown := distinct.grow step.nextSequence_le
  rcases step.known_cases Identity.sequence with
    same | none' | ⟨path, _, _, i, -, -, -, -, next, grows, made⟩ | ⟨old, new, moved⟩ | ⟨path, gone⟩
  · exact (show after.ids = _ from same) ▸ grown
  · exact (show after.ids = _ from none') ▸ .nobody _
  · rw [show after.ids = fs.ids.put path (some i.sequence) from made, next, grows]
    exact distinct.made path
  · exact (show after.ids = fs.ids.move none old new from moved) ▸ grown.move old new
  · exact (show after.ids = fs.ids.put path none from gone) ▸ grown.gone path

theorem Reachable.distinct (reachable : fs.Reachable) :
    fs.ids.Distinct fs.catalog.nextSequence := by
  induction reachable with
  | start => exact .nobody _
  | perform op before distinct => exact (before.transition op).distinct distinct
  | outside _ _ distinct => exact distinct

end Filesystem

end PatternFs
