import PatternFs.Proofs.Backing.Steps

/-! Who has a reference to a file keeps that file, whatever becomes of the name that it was opened
under. The descriptor is closed when the last reference goes, and only then. -/
namespace PatternFs.Backing.Session

variable {s t : Session} {q : Request} {d : Nat} {target : Target}

/-- What one request after the other makes of the content of a file. -/
def rewritten (id : Nat) : List (Platform × Request) → Session → Content → Content
  | [], _, c => c
  | (platform, q) :: rest, s, c =>
    let met := s.on platform
    rewritten id rest (met.answer q).2 (met.touched q (met.answer q).1 id c)

/-- What can be read of a target. -/
def contentOf (s : Session) : Target → Content
  | .file id => s.store.content id
  | .nullDevice => .empty

/-- The host fails a write to the target. -/
def Refuses (s : Session) (target : Target) (offset : Nat) (data : List UInt8)
    (e : HostError) : Prop :=
  ∃ id, target = .file id ∧ (s.store.writing id offset data).result = .error e

/-- What a write of some data to a target comes to, which is all of it unless the host fails. -/
inductive Written (s : Session) (target : Target) (offset : Nat) (data : List UInt8) :
    Except Failure Reply × Session → Prop
  | all : Written s target offset data
      (.ok (.count data.length), { s with store := s.store.written target offset data })
  | front {n : Nat} {e : HostError} : n < data.length → s.Refuses target offset data e →
      Written s target offset data (.error (.host e),
        { s with store := s.store.written target offset (data.take n) })
  | nothing {e : HostError} : s.Refuses target offset data e →
      Written s target offset data (.error (.host e), s)

/-- The descriptor serves the target to all who have a reference to it. -/
structure Serves (s : Session) (d : Nat) (target : Target) : Prop where
  read : ∀ place offset length, s.descriptor? place = some d → offset + length < Content.limit →
    s.answer (.read place offset length) =
      (.ok (.bytes ((s.contentOf target).slice offset length)), s)
  write : ∀ place offset data, s.descriptor? place = some d → data ≠ [] →
    offset + data.length < Content.limit →
    s.Written target offset data (s.answer (.write place offset data))
  /-- Nothing else that is written does anything. -/
  idle : ∀ place offset data, s.descriptor? place = some d →
    data = [] ∨ Content.limit ≤ offset + data.length →
    (s.answer (.write place offset data)).2 = s
  share : ∀ place name, s.descriptor? place = some d →
    (s.answer (.share place name)).1 = .ok (.flag true) ∧
      (s.answer (.share place name)).2.kept.find? name = some d
  isOpen : s.store.IsOpen d ↔ s.Holds d
  held : s.Holds d → d ∉ s.store.closed
  /-- Without a reference the descriptor is closed, and that was done once. -/
  gone : ¬ s.Holds d → s.store.closed.count d = 1

theorem Sound.on (sound : s.Sound) (platform : Platform) : (s.on platform).Sound :=
  ⟨sound.counted.change ⟨rfl, rfl, rfl⟩,
    sound.filed.fewer (fun _ leads => leads) (fun _ => rfl) rfl⟩

theorem Sound.step (sound : s.Sound) (q : Request) : s.Step q (s.answer q).1 (s.answer q).2 :=
  step_answer sound.numbered q

/-- What every step keeps, and what does not depend on the host, holds after any requests. -/
theorem Sound.run {P : Session → Prop}
    (moved : ∀ {s} platform, P s → P (s.on platform))
    (keeps : ∀ {s q r t}, Step s q r t → P s → P t) (sound : s.Sound) (first : P s)
    (run : List (Platform × Request)) : P (executeOn run s) := by
  induction run generalizing s with
  | nil => exact first
  | cons met rest ih =>
    obtain ⟨platform, q⟩ := met
    have step := (sound.on platform).step q
    exact ih (step.sound (sound.on platform)) (keeps step (moved platform first))

theorem Sound.executeOn (sound : s.Sound) (run : List (Platform × Request)) :
    (executeOn run s).Sound :=
  sound.run (fun platform before => before.on platform) Step.sound sound run

theorem Sound.stands (sound : s.Sound) (stands : s.store.Stands d target)
    (run : List (Platform × Request)) : (Session.executeOn run s).store.Stands d target :=
  sound.run (P := fun t => t.store.Stands d target)
    (fun _ before => before.change ⟨rfl, rfl, rfl⟩) Step.stands stands run

theorem Sound.nextFile_le (sound : s.Sound) (run : List (Platform × Request)) :
    s.store.nextFile ≤ (Session.executeOn run s).store.nextFile :=
  sound.run (P := fun t => s.store.nextFile ≤ t.store.nextFile) (fun _ before => before)
    (fun step before => Nat.le_trans before step.nextFile_le) (Nat.le_refl _) run

theorem Sound.content (sound : s.Sound) (run : List (Platform × Request)) (id : Nat) :
    (Session.executeOn run s).store.content id = rewritten id run s (s.store.content id) := by
  induction run generalizing s with
  | nil => rfl
  | cons met rest ih =>
    obtain ⟨platform, q⟩ := met
    have step := (sound.on platform).step q
    rw [Session.executeOn, ih (step.sound (sound.on platform)),
      step.content (sound.on platform).filed]
    rfl

theorem Sound.target_eq (sound : s.Sound) (stands : s.store.Stands d target) {place : Place}
    (here : s.descriptor? place = some d) : s.store.target d = .ok target := by
  obtain ⟨other, found⟩ := sound.counted.held d (holds_iff.1 (holds_of_descriptor? here))
  have held := Store.target_ok.2 ⟨_, found⟩
  rw [held, stands.only other held]

theorem read_target {offset length : Nat} (held : s.store.target d = .ok target)
    (inside : offset + length < Content.limit) :
    s.store.read d offset length = .ok ((s.contentOf target).slice offset length) := by
  cases target with
  | file id => exact Store.read_file held inside
  | nullDevice =>
    have nothing : Content.empty.slice offset length = [] := by simp [Content.slice]
    rw [Store.read, Store.answers, held, contentOf, nothing]
    simp only [ge_iff_le, Nat.not_le.2 inside, if_false, Reading.run, Reading.start]
    split <;> rfl

theorem write_target {place : Place} {offset : Nat} {data : List UInt8}
    (here : s.descriptor? place = some d) (held : s.store.target d = .ok target)
    (something : data ≠ []) (inside : offset + data.length < Content.limit) :
    s.Written target offset data (s.answer (.write place offset data)) := by
  rw [answer, onFile, here]
  rcases result : s.store.write d offset data with ⟨e | _, store⟩
  · simp only [result]
    have refuses : s.Refuses target offset data e := by
      rw [Store.write, if_neg something, held] at result
      simp only [ge_iff_le, Nat.not_le.2 inside, if_false] at result
      cases target with
      | file id => exact ⟨id, rfl, congrArg Prod.fst result⟩
      | nullDevice => cases result
    rcases Store.write_error result with ⟨-, rfl⟩ | ⟨other, -, short, held', -, rfl⟩
    · exact .nothing refuses
    · cases held.symm.trans held'
      exact .front short refuses
  · simp only [result]
    rcases Store.write_ok result with ⟨nothing, -⟩ | ⟨other, -, held', -, rfl⟩
    · exact absurd nothing something
    · cases held.symm.trans held'
      exact .all

theorem write_nothing {offset : Nat} {data : List UInt8} (held : s.store.target d = .ok target)
    (idle : data = [] ∨ Content.limit ≤ offset + data.length) :
    (s.store.write d offset data).2 = s.store := by
  rw [Store.write, held]
  split
  · rfl
  · next some' => simp only [ge_iff_le, idle.resolve_left some', if_true]

theorem Sound.serves (sound : s.Sound) (stands : s.store.Stands d target) : s.Serves d target where
  read place offset length here inside := by
    rw [answer, onFile, here]
    simp only [read_target (sound.target_eq stands here) inside]
    rfl
  write _ _ _ here := write_target here (sound.target_eq stands here)
  idle place offset data here nothing := by
    rw [answer, onFile, here]
    simp only [write_nothing (sound.target_eq stands here) nothing]
  share place name here := by
    rw [answer, Session.share, here]
    exact ⟨rfl, Table.find?_insert_same _ _ _⟩
  isOpen := (sound.counted.isOpen_iff d).trans holds_iff.symm
  held holds := by
    have count := sound.counted.count_closed stands.given
    rw [if_pos (holds_iff.1 holds)] at count
    exact List.count_eq_zero.1 count
  gone free := by
    rw [sound.counted.count_closed stands.given, if_neg (free ∘ holds_iff.2)]

/-- What the request `q` opened in `s` is what had the name then. It went to the slot, it still
serves in `t`, and what is made after `t` is another file. -/
structure Lasts (s : Session) (q : Request) (path : Path) (slot : String) (target : Target)
    (t : Session) : Prop where
  named : (s.answer q).2.store.names.find? path.name = some target.node
  inSlot : (s.answer q).2.slots.find? slot = some s.store.nextDescriptor
  serves : t.Serves s.store.nextDescriptor target
  old : target ≠ .file t.store.nextFile

theorem Sound.lasts (sound : s.Sound) {path : Path} {slot : String}
    (opens : q.opens? = some (path, slot)) (worked : (s.answer q).1 = .ok .done)
    (run : List (Platform × Request)) (platform : Platform) :
    ∃ target,
      s.Lasts q path slot target ((Session.executeOn run (s.answer q).2).on platform) := by
  have step := sound.step q
  have later := step.sound sound
  rw [worked] at step
  obtain ⟨target, base, after, change, found⟩ := step.occupied opens
  have named : (s.answer q).2.store.names.find? path.name = some target.node := by
    rw [after, (s.noneOpened_occupied _ _ _).find?]
    exact (Store.node_iff.1 found).2
  have stands : (s.answer q).2.store.Stands s.store.nextDescriptor target := by
    have new := Store.Stands.new base target
    rw [change.nextDescriptor] at new
    rw [after]
    exact new.noneOpened (s.noneOpened_occupied _ _ _)
  refine ⟨target, named, ?_, ?_, ?_⟩
  · rw [after]
    exact Table.find?_insert_same _ _ _
  · have last : (Session.executeOn run (s.answer q).2).store.OutsideChange
        ((Session.executeOn run (s.answer q).2).on platform).store := ⟨rfl, rfl, rfl⟩
    exact ((later.executeOn run).on platform).serves ((later.stands stands run).change last)
  · rintro rfl
    exact Nat.lt_irrefl _ (Nat.lt_of_lt_of_le (later.filed.lt (.inl ⟨_, named⟩))
      (later.nextFile_le run))

/-- Closing leaves the slot empty, and tells whether it was full. Only the one who has the last
reference closes the descriptor, and only then there can be an error to report. -/
structure Closes (s : Session) (slot : String) : Prop where
  told : ∀ reply, (s.answer (.close slot)).1 = .ok reply →
    reply = .flag (s.slots.contains slot)
  failed : ∀ e, (s.answer (.close slot)).1 = .error e ↔
    ∃ d reported, s.slots.find? slot = some d ∧ s.refs.count d = 1 ∧
      s.store.platform.closing d = some reported ∧ e = .host reported
  emptied : (s.answer (.close slot)).2.slots.find? slot = none

theorem Sound.closeError? (sound : s.Sound) (holds : s.Holds d) :
    s.store.closeError? d = if s.refs.count d = 1 then s.store.platform.closing d else none := by
  have member := holds_iff.1 holds
  obtain ⟨target, found⟩ := sound.counted.held d member
  rw [Store.closeError?, found]
  match count : s.refs.count d with
  | 0 => exact absurd member (List.count_eq_zero.1 count)
  | 1 => rfl
  | n + 2 => exact (if_neg (by omega)).symm

theorem closes_empty {slot : String} (empty : s.slots.find? slot = none) : s.Closes slot := by
  have closed : s.answer (.close slot) = (.ok (.flag false), s) := by
    rw [answer, close, empty]
  refine ⟨fun reply same => ?_, fun e => ?_, ?_⟩
  · rw [closed] at same
    rw [Table.contains, empty]
    cases same
    rfl
  · rw [closed, empty]
    constructor
    · rintro ⟨⟩
    · rintro ⟨_, _, ⟨⟩, -⟩
  · rw [closed]
    exact empty

theorem Sound.closes_full {slot : String} (sound : s.Sound)
    (full : s.slots.find? slot = some d) : s.Closes slot := by
  have closed : (s.answer (.close slot)).1 = closeReply (s.store.closeError? d) := by
    rw [answer, close, full]
  refine ⟨fun reply same => ?_, fun e => ?_, ?_⟩
  · rw [closed] at same
    rw [Table.contains, full]
    cases reported : s.store.closeError? d with
    | none => rw [reported] at same; cases same; rfl
    | some e => rw [reported] at same; cases same
  · rw [closed, sound.closeError? (.inl ⟨slot, full⟩), full]
    constructor
    · intro same
      split at same
      · next last =>
        cases reported : s.store.platform.closing d with
        | none => rw [reported] at same; cases same
        | some e' => rw [reported] at same; cases same; exact ⟨d, e', rfl, last, reported, rfl⟩
      · cases same
    · rintro ⟨_, e', ⟨⟩, last, reported, rfl⟩
      rw [if_pos last, reported]
      rfl
  · rw [answer, close, full]
    exact Table.find?_erase_same _ _

theorem Sound.closes (sound : s.Sound) (slot : String) : s.Closes slot := by
  cases held : s.slots.find? slot with
  | none => exact closes_empty held
  | some d => exact sound.closes_full held

theorem Lasts.fileAt? {path : Path} {slot : String} (lasts : s.Lasts q path slot target t) :
    (s.answer q).2.store.fileAt? path.name = target.file? := by
  rw [Store.fileAt?, lasts.named]
  cases target <;> rfl

end PatternFs.Backing.Session
