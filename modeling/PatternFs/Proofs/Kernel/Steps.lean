import PatternFs.Proofs.Filesystem.Identities
import PatternFs.Proofs.InodeTable.Coherent
import PatternFs.Proofs.Kernel.Reachable

/-! Everything that one callback can do to a session, one rule for each way it can go. A file gets
its inode number when it is created and keeps it, so no question about a file ever gives out a new
number. What holds along a run of callbacks is derived from these rules. -/
namespace PatternFs

namespace Filesystem

variable {fs after : Filesystem} {op : Operation} {path : Path}

theorem Transition.untouched_of_error {f : Failure} (step : fs.Transition op (.error f) after)
    (nothing : fs.front op = []) : fs.Untouched after := by
  cases step with
  | failed same => exact same
  | looked => exact .refl fs
  | brokeOff _ _ some => exact absurd nothing some

theorem lives_of_getAttributes {a : Attributes} (known : fs.getAttributes path = .ok a) :
    path = .root ∨ ∃ id, fs.ids path = some id := by
  unfold getAttributes find at known
  split at known
  · next isRoot => exact .inl (Path.pathClass_eq_root.1 isRoot)
  · cases found : fs.catalog.find? path with
    | none =>
      rw [found] at known
      cases known
    | some e => exact .inr ⟨_, ids_of_find? found⟩

end Filesystem

namespace Kernel

/-- Callbacks that only look, and not for the attributes of a file. -/
def Callback.looks : Callback → Bool
  | .setUp | .flush _ | .openDirectory _ | .readDirectory _ _ _ | .access _ => true
  | _ => false

def Callback.isRelease : Callback → Bool
  | .release _ => true
  | _ => false

namespace Session

variable {k : Session} {c : Callback} {path : Path} {a : Attributes}

/-- What holds between two callbacks, whatever others do. -/
structure Sound (k : Session) : Prop where
  fs : k.fs.Sound
  coherent : k.inodes.Coherent
  numbered : ∀ path id, k.fs.ids path = some id → ∃ number, k.inodes.number? path = some number

inductive Step (k : Session) : Callback → Except Denial Reply → Session → Prop
  /-- Only a release is never refused. -/
  | refused {c : Callback} {d : Denial} {fs : Filesystem} : c.isRelease = false →
      k.fs.Untouched fs → Step k c (.error d) { k with fs }
  | looked {c : Callback} {reply : Reply} : c.looks = true → Step k c (.ok reply) k
  | found {spot : Spot} {inode : Nat} {path : Path} {a : Attributes} :
      pathAt spot = .ok path → k.inodes.path? inode = some path →
      k.fs.getAttributes path = .ok a → Step k (.lookup spot) (.ok (.node inode a)) k
  | described {inode : Nat} {path : Path} {a : Attributes} :
      k.inodes.path? inode = some path → k.fs.getAttributes path = .ok a →
      Step k (.getAttributes inode) (.ok (.attributes inode a)) k
  | unchanged {inode : Nat} {change : Change} {path : Path} {a : Attributes} :
      k.inodes.path? inode = some path → change.size? = none → k.fs.getAttributes path = .ok a →
      Step k (.setAttributes inode change) (.ok (.attributes inode a)) k
  | destroyed : Step k .destroy (.ok .done) { k with fs := k.fs.teardown.2 }
  | cut {inode length : Nat} {change : Change} {path : Path} {a : Attributes} {fs : Filesystem} :
      k.inodes.path? inode = some path → change.size? = some length →
      k.fs.Transition (.truncate path length) (.ok .done) fs → fs.getAttributes path = .ok a →
      Step k (.setAttributes inode change) (.ok (.attributes inode a)) { k with fs }
  | opened {inode handle : Nat} {flags : Int} {path : Path} {fs : Filesystem} :
      k.inodes.path? inode = some path →
      k.fs.Transition (.openFile path (.ofHost flags)) (.ok (.count handle)) fs →
      Step k (.openFile inode flags) (.ok (.opened handle)) { k with fs }
  | read {inode position length : Nat} {offset : Int} {data : List UInt8} {path : Path}
      {fs : Filesystem} :
      k.inodes.path? inode = some path →
      k.fs.Transition (.read path position length) (.ok (.bytes data)) fs →
      Step k (.read inode offset length) (.ok (.bytes data)) { k with fs }
  | wrote {inode position count : Nat} {offset : Int} {data : List UInt8} {path : Path}
      {fs : Filesystem} :
      k.inodes.path? inode = some path →
      k.fs.Transition (.write path position data) (.ok (.count count)) fs →
      Step k (.write inode offset data) (.ok (.written count)) { k with fs }
  /-- Some of the data may be in the file. -/
  | writeFailed {inode position : Nat} {offset : Int} {data : List UInt8} {path : Path}
      {f : Failure} {fs : Filesystem} :
      k.inodes.path? inode = some path →
      k.fs.Transition (.write path position data) (.error f) fs →
      Step k (.write inode offset data) (.error (.failed f)) { k with fs }
  | released {inode : Nat} {path : Path} {fs : Filesystem} :
      k.inodes.path? inode = some path → k.fs.Transition (.release path) (.ok .done) fs →
      Step k (.release inode) (.ok .done) { k with fs }
  | releasedUnknown {inode : Nat} : k.inodes.path? inode = none →
      Step k (.release inode) (.ok .done) k
  | created {spot : Spot} {mode mask handle : Nat} {flags : Int} {path : Path} {a : Attributes}
      {fs : Filesystem} :
      pathAt spot = .ok path →
      k.fs.Transition (.create path (masked mode mask) (creationFlags flags)) (.ok (.count handle))
        fs →
      fs.getAttributes path = .ok a →
      Step k (.create spot mode mask flags)
        (.ok (.created (k.inodes.assign path).1 a handle))
        { k with fs, inodes := (k.inodes.assign path).2 }
  | renamed {old new : Spot} {flags : Nat} {p q : Path} {fs : Filesystem} :
      pathAt old = .ok p → pathAt new = .ok q → k.fs.Transition (.rename p q) (.ok .done) fs →
      Step k (.rename old new flags) (.ok .done)
        { k with fs, inodes := k.inodes.rename p q }
  | unlinked {spot : Spot} {path : Path} {fs : Filesystem} :
      pathAt spot = .ok path → k.fs.Transition (.unlink path) (.ok .done) fs →
      Step k (.unlink spot) (.ok .done) { k with fs, inodes := k.inodes.forget path }

theorem Sound.describe (sound : k.Sound) (known : k.fs.getAttributes path = .ok a) :
    ∃ inode, k.inodes.path? inode = some path ∧ k.describe path = (.ok (inode, a), k) := by
  have numbered : ∃ number, k.inodes.number? path = some number := by
    rcases Filesystem.lives_of_getAttributes known with rfl | ⟨id, lives⟩
    · exact ⟨_, sound.coherent.number?_root⟩
    · exact sound.numbered path id lives
  obtain ⟨number, here⟩ := numbered
  refine ⟨number, (sound.coherent.inverse _ _).2 here, ?_⟩
  simp only [Session.describe, known, InodeTable.assign_known here]

theorem isDirectoryName_name {kind : EntryClass} (place : Filesystem.newFileClass path = .ok kind) :
    isDirectoryName path.name = false := by
  obtain ⟨-, -, notDot, notDots, -⟩ := Filesystem.newFileClass_ok.1 place
  simp [isDirectoryName, notDot, notDots]

theorem listedPath_name {kind : EntryClass} (place : Filesystem.newFileClass path = .ok kind) :
    listedPath path.name = path := by
  rw [listedPath, isDirectoryName_name place]
  exact Path.child_name (Filesystem.newFileClass_ok.1 place).2.1

theorem Sound.known_of_list (sound : k.Sound) {names : List String}
    (listed : k.fs.list path = .ok names) :
    ∀ p ∈ names.map listedPath, k.inodes.number? p ≠ none := by
  have root : k.inodes.number? .root ≠ none := by simp [sound.coherent.number?_root]
  unfold Filesystem.list at listed
  split at listed
  · cases listed
  · cases listed
    intro p member
    obtain ⟨name, inside, rfl⟩ := List.mem_map.1 member
    rcases List.mem_cons.1 inside with rfl | inside
    · exact root
    rcases List.mem_cons.1 inside with rfl | inside
    · exact root
    obtain ⟨e, live, rfl⟩ := List.mem_map.1 inside
    obtain ⟨⟨at', _⟩, row, rfl⟩ := List.mem_map.1 live
    have found : k.fs.catalog.find? at' = some _ := Table.mem_rows_iff.1 row
    obtain ⟨number, known⟩ := sound.numbered at' _ (Filesystem.ids_of_find? found)
    rw [sound.fs.formed.own at' _ found, listedPath_name (sound.fs.formed.place found), known]
    nofun

section

variable {α : Type} (answered : c.isRelease = false)
include answered

theorem step_refused (d : Denial) : k.Step c (.error d) k := .refused answered (.refl k.fs)

theorem step_withPath {r : Except Denial Path} {f : Path → Except Denial Reply × Session}
    (step : ∀ path, r = .ok path → k.Step c (f path).1 (f path).2) :
    k.Step c (k.withPath r f).1 (k.withPath r f).2 := by
  cases r with
  | error d => exact step_refused answered d
  | ok path => exact step path rfl

theorem step_refuse (r : Except Denial Path) (f : Path → Failure) :
    k.Step c (k.refuse r f).1 (k.refuse r f).2 := by
  cases r <;> exact step_refused answered _

omit answered in
/-- An operation of the file system is the only part that can fail. -/
theorem Sound.step_after (sound : k.Sound) (op : Operation) {reply : α → PatternFs.Reply}
    {r : Except Failure α × Filesystem} {f : α → Session → Except Denial Reply × Session}
    (performed : k.fs.perform op = Filesystem.replied reply r)
    (failed : ∀ failure fs, k.fs.Transition op (.error failure) fs →
      k.Step c (.error (.failed failure)) { k with fs })
    (step : ∀ a fs, k.fs.Transition op (.ok (reply a)) fs →
      k.Step c (f a { k with fs }).1 (f a { k with fs }).2) :
    k.Step c (andThen (k.after r) f).1 (andThen (k.after r) f).2 := by
  have done := Filesystem.transition_perform sound.fs.formed sound.fs.numbered op
  obtain ⟨answer, fs⟩ := r
  rw [performed] at done
  cases answer with
  | error failure => exact failed failure fs done
  | ok a => exact step a fs done

/-- The operation is none that leaves anything when it fails. -/
theorem Sound.step_andThen (sound : k.Sound) (op : Operation) {reply : α → PatternFs.Reply}
    {r : Except Failure α × Filesystem} {f : α → Session → Except Denial Reply × Session}
    (performed : k.fs.perform op = Filesystem.replied reply r) (nothing : k.fs.front op = [])
    (step : ∀ a fs, k.fs.Transition op (.ok (reply a)) fs →
      k.Step c (f a { k with fs }).1 (f a { k with fs }).2) :
    k.Step c (andThen (k.after r) f).1 (andThen (k.after r) f).2 :=
  sound.step_after op performed
    (fun _ _ failed => .refused answered (failed.untouched_of_error nothing)) step

theorem Sound.step_describe (sound : k.Sound) (path : Path) (reply : Nat × Attributes → Reply)
    (step : ∀ inode a, k.inodes.path? inode = some path → k.fs.getAttributes path = .ok a →
      k.Step c (.ok (reply (inode, a))) k) :
    k.Step c (andThen (k.describe path) fun found => told (reply found)).1
      (andThen (k.describe path) fun found => told (reply found)).2 := by
  cases known : k.fs.getAttributes path with
  | error f =>
    simp only [Session.describe, known]
    exact step_refused answered _
  | ok a =>
    obtain ⟨inode, here, same⟩ := sound.describe known
    rw [same]
    exact step inode a here known

end

theorem resolve_ok {inode : Nat} (resolved : k.resolve inode = .ok path) :
    k.inodes.path? inode = some path := by
  unfold resolve at resolved
  split at resolved
  · next known => cases resolved; exact known
  · cases resolved

theorem Sound.number_eq (sound : k.Sound) {inode inode' : Nat}
    (here : k.inodes.path? inode = some path) (here' : k.inodes.path? inode' = some path) :
    inode' = inode := by
  rw [sound.coherent.inverse] at here here'
  exact Option.some.inj (here'.symm.trans here)

theorem Sound.step_setAttributes (sound : k.Sound) {inode : Nat} {change : Change}
    (here : k.inodes.path? inode = some path) :
    k.Step (.setAttributes inode change) (k.setAttributes path change).1
      (k.setAttributes path change).2 := by
  unfold setAttributes
  split
  · exact step_refused rfl _
  · split
    · next none' =>
      refine sound.step_describe rfl path _ fun inode' a here' known => ?_
      rw [sound.number_eq here here']
      exact .unchanged here none' known
    · next length some' =>
      refine sound.step_andThen rfl (.truncate path length) rfl rfl fun done fs cut => ?_
      obtain ⟨a, known⟩ := cut.getAttributes_truncated sound.fs
      have number := (sound.coherent.inverse _ _).1 here
      have same : Session.describe { k with fs } path = (.ok (inode, a), { k with fs }) := by
        simp only [Session.describe, known, InodeTable.assign_known number]
      simp only [getAttributes, same]
      exact .cut here some' cut known

theorem Sound.step_create (sound : k.Sound) {spot : Spot} {mode mask : Nat} {flags : Int}
    (there : pathAt spot = .ok path) :
    k.Step (.create spot mode mask flags) (k.create path mode mask flags).1
      (k.create path mode mask flags).2 := by
  refine sound.step_andThen rfl (.create path (masked mode mask) (creationFlags flags)) rfl
    rfl fun handle fs created => ?_
  obtain ⟨a, known⟩ := created.getAttributes_created sound.fs
  simp only [Session.describe, known]
  exact .created there created known

/-- The rules are all that a callback can do. -/
theorem Sound.step_answer (sound : k.Sound) (c : Callback) :
    k.Step c (k.answer c).1 (k.answer c).2 := by
  cases c with
  | setUp => exact .looked rfl
  | destroy => exact .destroyed
  | lookup spot =>
    refine step_withPath rfl fun path there => ?_
    exact sound.step_describe rfl path _ fun inode a here known => .found there here known
  | getAttributes inode =>
    refine step_withPath rfl fun path resolved => ?_
    refine sound.step_describe rfl path _ fun inode' a here' known => ?_
    have here := resolve_ok resolved
    rw [sound.number_eq here here']
    exact .described here known
  | setAttributes inode change =>
    exact step_withPath rfl fun path known => sound.step_setAttributes (resolve_ok known)
  | openFile inode flags =>
    refine step_withPath rfl fun path known => ?_
    exact sound.step_andThen rfl (.openFile path (.ofHost flags)) rfl rfl fun handle fs opened =>
      .opened (resolve_ok known) opened
  | read inode offset length =>
    simp only [answer, read]
    split
    · exact step_refused rfl _
    · next offset _ =>
      refine step_withPath rfl fun path known => ?_
      exact sound.step_andThen rfl (.read path offset length) rfl rfl fun data fs read =>
        .read (resolve_ok known) read
  | write inode offset data =>
    simp only [answer, write]
    split
    · exact step_refused rfl _
    · next offset _ =>
      refine step_withPath rfl fun path known => ?_
      exact sound.step_after (.write path offset data) rfl
        (fun f fs failed => .writeFailed (resolve_ok known) failed)
        fun count fs wrote => .wrote (resolve_ok known) wrote
  | release inode =>
    simp only [answer, release]
    split
    · next unknown =>
      refine .releasedUnknown (Option.eq_none_iff_forall_ne_some.2 fun path known => ?_)
      simp only [resolve, known] at unknown
      cases unknown
    · next path known => exact .released (resolve_ok known) .released
  | create spot mode mask flags =>
    exact step_withPath rfl fun path there => sound.step_create there
  | rename old new flags =>
    refine step_withPath rfl fun p source => step_withPath rfl fun q dest => ?_
    unfold rename
    split
    · exact step_refused rfl _
    · exact sound.step_andThen rfl (.rename p q) rfl rfl fun done fs renamed =>
        .renamed source dest renamed
  | unlink spot =>
    refine step_withPath rfl fun path there => ?_
    exact sound.step_andThen rfl (.unlink path) rfl rfl fun done fs unlinked =>
      .unlinked there unlinked
  | openDirectory inode =>
    refine step_withPath rfl fun path _ => ?_
    exact sound.step_andThen rfl (.openDirectory path) rfl rfl fun done fs looked => by
      cases looked
      exact .looked rfl
  | readDirectory inode offset room =>
    refine step_withPath rfl fun path _ => ?_
    unfold readDirectory
    split
    · exact step_refused rfl _
    · next names listed =>
      simp only [InodeTable.assignAll_known (sound.known_of_list listed)]
      exact .looked rfl
  | flush inode => exact step_withPath rfl fun _ _ => .looked rfl
  | access inode => exact step_withPath rfl fun _ _ => .looked rfl
  | getAttribute inode name =>
    refine step_withPath rfl fun path _ => ?_
    split <;> exact step_refused rfl _
  | link inode spot => exact step_withPath rfl fun _ _ => step_refuse rfl _ _
  | setAttribute | listAttributes | removeAttribute | getLock | setLock | makeDirectory
  | removeDirectory | makeNode | symlink | readlink => exact step_refuse rfl _ _

theorem Sound.step_ok (sound : k.Sound) {reply : Reply} (answered : (k.answer c).1 = .ok reply) :
    k.Step c (.ok reply) (k.answer c).2 := answered ▸ sound.step_answer c

variable {k' : Session} {r : Except Denial Reply}

theorem Sound.of_ids (sound : k.Sound) {fs : Filesystem} (fsSound : fs.Sound)
    (same : fs.ids = k.fs.ids) : Sound { k with fs } :=
  ⟨fsSound, sound.coherent, fun path id lives => sound.numbered path id (same ▸ lives)⟩

theorem Sound.kept (sound : k.Sound) {op : Operation} {answer : Except Failure PatternFs.Reply}
    {fs : Filesystem} (done : k.fs.Transition op answer fs) (keeps : op.keepsFiles = true) :
    Sound { k with fs } := sound.of_ids (done.sound sound.fs) (done.ids_kept keeps)

theorem Sound.renamed (sound : k.Sound) {p q : Path} {reply : PatternFs.Reply} {fs : Filesystem}
    (done : k.fs.Transition (.rename p q) (.ok reply) fs) :
    ∃ number, k.inodes.number? p = some number ∧ p ≠ q ∧ q ≠ .root ∧ p ≠ .root ∧
      fs.ids = k.fs.ids.move none p q := by
  obtain ⟨⟨id, lives⟩, vacant, newFile, moved⟩ := done.ids_renamed
  obtain ⟨number, known⟩ := sound.numbered p id lives
  refine ⟨number, known, ?_, newFile, sound.fs.ne_root lives, moved⟩
  rintro rfl
  cases vacant.symm.trans lives

theorem Step.sound (step : k.Step c r k') (sound : k.Sound) : k'.Sound := by
  cases step with
  | refused _ same => exact sound.of_ids (sound.fs.untouched same) same.ids
  | looked | found | described | unchanged => exact sound
  | destroyed =>
    exact ⟨sound.fs.teardown, sound.coherent, fun path id lives => by cases lives⟩
  | cut _ _ done _ | opened _ done | read _ done | wrote _ done | writeFailed _ done
  | released _ done => exact sound.kept done rfl
  | releasedUnknown => exact sound
  | @created _ _ _ _ _ path _ fs _ done _ =>
    refine ⟨done.sound sound.fs, sound.coherent.assign path, fun other id lives => ?_⟩
    have before (lives : k.fs.ids other = some id) :
        ∃ number, (k.inodes.assign path).2.number? other = some number := by
      obtain ⟨number, known⟩ := sound.numbered other id lives
      exact ⟨number, InodeTable.number?_assign_known known⟩
    obtain ⟨-, ⟨-, same⟩ | ⟨-, new, -⟩⟩ := done.ids_created
    · exact before (same ▸ lives)
    · rw [new, Told.put] at lives
      split at lives
      · next here =>
        rw [here]
        exact ⟨_, InodeTable.number?_assign k.inodes path⟩
      · exact before lives
  | @renamed _ _ _ p q fs _ _ done =>
    obtain ⟨number, known, different, newFile, oldFile, moved⟩ := sound.renamed done
    refine ⟨done.sound sound.fs, sound.coherent.rename known different oldFile newFile,
      fun other id lives => ?_⟩
    rw [moved, Told.move] at lives
    rw [InodeTable.number?_rename known different]
    split at lives
    · next isNew => exact ⟨number, if_pos isNew⟩
    · next notNew =>
      split at lives
      · cases lives
      · next notOld =>
        rw [if_neg notNew, if_neg notOld]
        exact sound.numbered other id lives
  | @unlinked _ path fs _ done =>
    obtain ⟨⟨id, lives⟩, gone⟩ := done.ids_unlinked
    have file := sound.fs.ne_root lives
    rw [InodeTable.forget_ne_root file]
    refine ⟨done.sound sound.fs, sound.coherent.drop file, fun other id' lives' => ?_⟩
    rw [gone, Told.put] at lives'
    split at lives'
    · cases lives'
    · next apart =>
      rw [InodeTable.number?_drop, if_neg apart]
      exact sound.numbered other id' lives'

theorem Sound.start {fs : Filesystem} (sound : fs.Sound) (nothing : ∀ path, fs.ids path = none)
    (buffer : Nat → List Listed → Nat) : (startOn buffer fs).Sound := by
  refine ⟨sound, .start, fun path id lives => ?_⟩
  cases (nothing path).symm.trans lives

theorem Sound.outside (sound : k.Sound) {store : Store} (change : k.fs.store.OutsideChange store) :
    Sound { k with fs := { k.fs with store } } :=
  sound.of_ids (sound.fs.changeStore (change.numbered sound.fs.numbered)) rfl

theorem Reachable.sound (reachable : k.Reachable) : k.Sound := by
  induction reachable with
  | start buffer backingDirectory fallback unopened =>
    have sound := (Filesystem.Reachable.start backingDirectory fallback unopened).sound
    exact .start sound (fun _ => rfl) buffer
  | @answer k c _ sound => exact (sound.step_answer c).sound sound
  | outside _ change sound => exact sound.outside change

end Session

end Kernel

end PatternFs
