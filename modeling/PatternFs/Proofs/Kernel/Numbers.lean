import PatternFs.Proofs.Kernel.Steps

/-! What inode numbers stand for while a mount lasts. The two directions of the table, the numbers
still to come and the live files stay in step, whatever names the kernel uses and whatever others do
to the backing directory. When the mount is destroyed its files go and the numbers stay behind. -/
namespace PatternFs.Kernel

/-- Callbacks with their answers, the last one first. -/
abbrev History := List (Callback × Except Denial Reply)

namespace Session

variable {first k k' : Session} {past : History} {c : Callback} {r : Except Denial Reply}
  {path : Path} {inode : Nat} {reply : Reply}

/-- What callbacks make of a session while the mount lasts and others change the backing directory
as they like. -/
inductive Run (first : Session) : History → Session → Prop
  | start : Run first [] first
  | answer {past : History} {k : Session} (c : Callback) : c ≠ .destroy → Run first past k →
      Run first ((c, (k.answer c).1) :: past) (k.answer c).2
  | outside {past : History} {k : Session} {store : Store} : Run first past k →
      k.fs.store.OutsideChange store → Run first past { k with fs := { k.fs with store } }

/-- The history after more callbacks, with nobody else at work. -/
def recorded : List Callback → Session → History → History
  | [], _, past => past
  | c :: cs, k, past => recorded cs (k.answer c).2 ((c, (k.answer c).1) :: past)

theorem Run.execute (run : first.Run past k) {cs : List Callback} (lasts : .destroy ∉ cs) :
    first.Run (recorded cs k past) (execute cs k) := by
  induction cs generalizing past k with
  | nil => exact run
  | cons c rest ih =>
    rw [List.mem_cons, not_or] at lasts
    exact ih (.answer c (Ne.symm lasts.1) run) lasts.2

/-- The sessions of a mount that was not destroyed. -/
def Mounted (past : History) (k : Session) : Prop :=
  ∃ buffer backingDirectory fallback store, store.descriptors = .empty ∧
    (startOn buffer (.start backingDirectory fallback store)).Run past k

theorem Run.reachable (run : first.Run past k) (reachable : first.Reachable) : k.Reachable := by
  induction run with
  | start => exact reachable
  | answer c _ _ before => exact .answer c before
  | outside _ change before => exact .outside before change

theorem Mounted.reachable (mounted : Mounted past k) : k.Reachable := by
  obtain ⟨buffer, backingDirectory, fallback, store, unopened, run⟩ := mounted
  exact run.reachable (.start buffer backingDirectory fallback unopened)

/-- Every number but that of the root stands for a live file. -/
structure Live (k : Session) : Prop extends k.Sound where
  live : ∀ path number, k.inodes.number? path = some number →
    path = .root ∨ ∃ id, k.fs.ids path = some id

namespace Live

theorem number?_vacant (live : k.Live) (file : path ≠ .root) (vacant : k.fs.ids path = none) :
    k.inodes.number? path = none := by
  refine Option.eq_none_iff_forall_ne_some.2 fun number known => ?_
  rcases live.live path number known with isRoot | ⟨id, lives⟩
  · exact file isRoot
  · rw [vacant] at lives
    cases lives

theorem start (buffer : Nat → List Listed → Nat) (backingDirectory : String)
    (fallback : Fallback) {store : Store} (unopened : store.descriptors = .empty) :
    (startOn buffer (.start backingDirectory fallback store)).Live where
  toSound := (Reachable.start buffer backingDirectory fallback unopened).sound
  live path number known := by
    have only : (InodeTable.start).number? path = if path = .root then some 1 else none :=
      Table.find?_insert _ _ _ _
    rw [show (startOn _ _).inodes.number? path = _ from only] at known
    split at known
    · next isRoot => exact .inl isRoot
    · cases known

theorem outside (live : k.Live) {store : Store} (change : k.fs.store.OutsideChange store) :
    Live { k with fs := { k.fs with store } } :=
  ⟨live.toSound.outside change, live.live⟩

end Live

/-- A creation finds a file and its number, or gives the next number to a new file. -/
theorem Live.created (live : k.Live) {mode : Nat} {flags : OpenFlags} {answer : PatternFs.Reply}
    {fs : Filesystem} (done : k.fs.Transition (.create path mode flags) (.ok answer) fs) :
    (∃ number id, k.inodes.number? path = some number ∧ k.fs.ids path = some id ∧
      k.inodes.assign path = (number, k.inodes) ∧ fs.ids = k.fs.ids) ∨
      k.inodes.number? path = none ∧ (k.inodes.assign path).1 = k.inodes.next ∧
        k.fs.ids path = none ∧ fs.ids = k.fs.ids.put path (some k.fs.catalog.nextSequence) := by
  obtain ⟨file, ⟨⟨id, lives⟩, kept⟩ | ⟨vacant, new, -⟩⟩ := done.ids_created
  · obtain ⟨number, known⟩ := live.numbered path id lives
    exact .inl ⟨number, id, known, lives, InodeTable.assign_known known, kept⟩
  · have unknown := live.number?_vacant file vacant
    exact .inr ⟨unknown, by rw [InodeTable.assign_unknown unknown], vacant, new⟩

theorem Step.live (step : k.Step c r k') (live : k.Live) (lasts : c ≠ .destroy) : k'.Live := by
  refine ⟨step.sound live.toSound, ?_⟩
  have same {ids : Told (Option Nat)} (same : ids = k.fs.ids) (path : Path) (number : Nat)
      (known : k.inodes.number? path = some number) :
      path = .root ∨ ∃ id, ids path = some id := by
    rw [same]
    exact live.live path number known
  cases step with
  | refused _ kept => exact same kept.ids
  | looked | found | described | unchanged | releasedUnknown => exact live.live
  | destroyed => exact absurd rfl lasts
  | cut _ _ done _ | opened _ done | read _ done | wrote _ done | writeFailed _ done
  | released _ done => exact same (done.ids_kept rfl)
  | created _ done _ =>
    intro other number known
    obtain ⟨_, _, -, -, still, kept⟩ | ⟨unknown, -, -, new⟩ := live.created done
    · rw [still] at known
      exact same kept other number known
    · rw [InodeTable.number?_assign_unknown unknown] at known
      rw [new, Told.put]
      split at known
      · next isNew => exact .inr ⟨_, if_pos isNew⟩
      · next apart =>
        rw [if_neg apart]
        exact live.live other number known
  | @renamed _ _ _ p q fs _ _ done =>
    intro other number known
    obtain ⟨at', here, different, -, oldFile, moved⟩ := live.renamed done
    rw [InodeTable.number?_rename here different] at known
    rw [moved, Told.move]
    split at known
    · next isNew =>
      rw [if_pos isNew]
      rcases live.live p at' here with isRoot | ⟨id, lives⟩
      · exact absurd isRoot oldFile
      · exact .inr ⟨id, lives⟩
    · next notNew =>
      split at known
      · cases known
      · next notOld =>
        rw [if_neg notNew, if_neg notOld]
        exact live.live other number known
  | @unlinked _ path fs _ done =>
    intro other number known
    obtain ⟨⟨id, lives⟩, gone⟩ := done.ids_unlinked
    rw [InodeTable.forget_ne_root (live.fs.ne_root lives), InodeTable.number?_drop] at known
    split at known
    · cases known
    · next apart =>
      rw [gone, Told.put, if_neg apart]
      exact live.live other number known

theorem Live.run (live : first.Live) (run : first.Run past k) : k.Live := by
  induction run with
  | start => exact live
  | answer c lasts _ before => exact (before.step_answer c).live before lasts
  | outside _ change before => exact before.outside change

theorem Mounted.live (mounted : Mounted past k) : k.Live := by
  obtain ⟨buffer, backingDirectory, fallback, store, unopened, run⟩ := mounted
  exact (Live.start buffer backingDirectory fallback unopened).run run

/-- In every state of a mount, the two directions of the inode table are inverse to each other, the
root and the first number belong together, the next number is above all others, and only live files
have numbers. So an answer about a path brings the number that stands for the path. -/
theorem numbers_of_mounted (mounted : Mounted past k) :
    (∀ number path, k.inodes.path? number = some path ↔ k.inodes.number? path = some number) ∧
      k.inodes.path? 1 = some .root ∧ k.inodes.number? .root = some 1 ∧
      (∀ number path, k.inodes.path? number = some path → number < k.inodes.next) ∧
      (∀ number path, k.inodes.path? number = some path → path ≠ .root →
        ∃ e, k.fs.catalog.find? path = some e) ∧
      (∀ spot reply, (k.answer (.lookup spot)).1 = .ok reply →
        ∃ path inode a, pathAt spot = .ok path ∧ reply = .node inode a ∧
          (k.answer (.lookup spot)).2.inodes.path? inode = some path) ∧
      (∀ inode reply, (k.answer (.getAttributes inode)).1 = .ok reply →
        ∃ path a, k.inodes.path? inode = some path ∧ reply = .attributes inode a ∧
          (k.answer (.getAttributes inode)).2.inodes.path? inode = some path) ∧
      ∀ inode change reply, (k.answer (.setAttributes inode change)).1 = .ok reply →
        ∃ path a, k.inodes.path? inode = some path ∧ reply = .attributes inode a ∧
          (k.answer (.setAttributes inode change)).2.inodes.path? inode = some path := by
  have live := mounted.live
  have sound := live.toSound
  refine ⟨sound.coherent.inverse, sound.coherent.root, sound.coherent.number?_root,
    sound.coherent.below, fun number path known file => ?_, fun spot reply found => ?_,
    fun inode reply told => ?_, fun inode change reply told => ?_⟩
  · rcases live.live path number ((sound.coherent.inverse _ _).1 known) with isRoot | ⟨id, lives⟩
    · exact absurd isRoot file
    · obtain ⟨e, found, -⟩ := Filesystem.ids_eq_some.1 lives
      exact ⟨e, found⟩
  · have step := sound.step_ok found
    generalize (k.answer (.lookup spot)).2 = after at step ⊢
    cases step with
    | looked looks => cases looks
    | found there here _ => exact ⟨_, _, _, there, rfl, here⟩
  · have step := sound.step_ok told
    generalize (k.answer (.getAttributes inode)).2 = after at step ⊢
    cases step with
    | looked looks => cases looks
    | described here _ => exact ⟨_, _, here, rfl, here⟩
  · have step := sound.step_ok told
    generalize (k.answer (.setAttributes inode change)).2 = after at step ⊢
    cases step with
    | looked looks => cases looks
    | unchanged here _ _ => exact ⟨_, _, here, rfl, here⟩
    | cut here _ _ _ => exact ⟨_, _, here, rfl, here⟩

/-- A file is made, the root is looked up under no name and a parent under its own, and the file is
renamed to a name with separators in it. -/
theorem numbers_of_renamed_file :
    let b : Path := ⟨["b"], by simp [IsComponent]⟩
    let k := execute [.create ⟨1, [0x61]⟩ 0o644 0o022 2, .lookup ⟨1, []⟩, .lookup ⟨1, [0x2e, 0x2e]⟩,
      .rename ⟨1, [0x61]⟩ ⟨1, [0x2f, 0x62, 0x2f, 0x2e]⟩ 0] (start (.start "/d" .counter .empty))
    (∃ past, Mounted past k) ∧ k.inodes.number? b = some 2 ∧ k.inodes.path? 2 = some b ∧
      2 < k.inodes.next ∧ (∃ e, k.fs.catalog.find? b = some e) ∧
      ∃ a, (k.answer (.getAttributes 2)).1 = .ok (.attributes 2 a) := by
  intro b k
  have mounted : Mounted _ k := ⟨_, "/d", .counter, .empty, rfl, Run.start.execute (by decide)⟩
  obtain ⟨inverse, -, -, below, lives, -, described, -⟩ := numbers_of_mounted mounted
  have known : k.inodes.number? b = some 2 := by decide +kernel
  have here := (inverse 2 b).2 known
  refine ⟨⟨_, mounted⟩, known, here, below 2 b here, lives 2 b here (by decide), ?_⟩
  have answered : (k.answer (.getAttributes 2)).1.toOption.isSome := by decide +kernel
  cases told : (k.answer (.getAttributes 2)).1 with
  | error d =>
    rw [told] at answered
    cases answered
  | ok reply =>
    obtain ⟨_, a, -, rfl, -⟩ := described 2 reply told
    exact ⟨a, rfl⟩

end Session

end PatternFs.Kernel
