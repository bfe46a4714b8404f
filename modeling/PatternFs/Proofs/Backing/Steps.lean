import PatternFs.Backing.Session
import PatternFs.Proofs.Store.References

/-! What a request on the backing directory can do, and what no request can: lose count of the
references, turn a descriptor to another file, or change a file that it does not name. -/
namespace PatternFs

/-- The file that is open, if it is one and not the device. -/
def Target.file? : Target → Option Nat
  | .file id => some id
  | .nullDevice => none

namespace Backing

/-- The change that a request makes to a file when it works. -/
def Request.change : Request → Content → Content
  | .create .. => (·.resize 0)
  | .write _ offset data => (·.splice offset data)
  | .truncate _ length => (·.resize length)
  | _ => id

/-- The name that a request opens, and the slot that it opens it for. -/
def Request.opens? : Request → Option (Path × String)
  | .create path slot _ _ | .openFile path slot => some (path, slot)
  | _ => none

/-- The slot that a request fills or empties. -/
def Request.slot? : Request → Option String
  | .create _ slot _ _ | .openFile _ slot | .close slot => some slot
  | _ => none

/-- The further reference that a request takes or drops. -/
def Request.reference? : Request → Option String
  | .share _ name | .drop name => some name
  | _ => none

namespace Session

variable {s t : Session} {q : Request} {r : Except Failure Reply} {path : Path} {slot : String}
  {target : Target} {d : Nat}

def target? (s : Session) (place : Place) : Option Target :=
  (s.descriptor? place).bind fun d => (s.store.target d).toOption

/-- The file that a request changes: what has the name by then, or what is open at the place. -/
def subject? (s : Session) : Request → Option Nat
  | .create path .. | .truncate path _ => s.store.fileAt? path.name
  | .write place .. => (s.target? place).bind Target.file?
  | _ => none

/-- How much of the data a write at a place puts into a file. -/
def taken (s : Session) (place : Place) (offset : Nat) (data : List UInt8) : Nat :=
  match s.descriptor? place with
  | none => 0
  | some d => s.store.taken d offset data

/-- What a request makes of the file it changes when it fails: a write leaves the front part of its
data that the host had taken. -/
def left (s : Session) : Request → Content → Content
  | .write place offset data, c => c.splice offset (data.take (s.taken place offset data))
  | _, c => c

/-- What a request that is answered `r` makes of the content `c` of a file. -/
def touched (s : Session) (q : Request) (r : Except Failure Reply) (id : Nat) (c : Content) :
    Content :=
  if s.subject? q = some id then if r.toBool then q.change c else s.left q c else c

/-- All references to descriptors, one for each slot and one for each further reference. -/
def refs (s : Session) : List Nat := s.slots.values ++ s.kept.values

/-- Somebody has a reference to the descriptor. -/
def Holds (s : Session) (d : Nat) : Prop :=
  (∃ slot, s.slots.find? slot = some d) ∨ ∃ name, s.kept.find? name = some d

theorem holds_iff : s.Holds d ↔ d ∈ s.refs := by
  rw [Holds, refs, List.mem_append, Table.mem_values_iff, Table.mem_values_iff]

theorem holds_of_descriptor? {place : Place} (here : s.descriptor? place = some d) :
    s.Holds d := by
  unfold descriptor? at here
  split at here
  · rcases Option.or_eq_some_iff.1 here with kept | ⟨-, inSlot⟩
    · exact .inr ⟨_, kept⟩
    · exact .inl ⟨_, inSlot⟩
  · exact .inl ⟨_, here⟩

/-- A slot gets a new descriptor and lets go of the one that it had. -/
def occupied (s : Session) (slot : String) (target : Target) (base : Store) : Session :=
  { s with
    slots := s.slots.insert slot s.store.nextDescriptor
    store := (base.register target).2.releaseAll (s.slots.find? slot).toList }

/-- All ways in which a request can go. -/
inductive Step (s : Session) : Request → Except Failure Reply → Session → Prop
  | failed {q : Request} {e : Failure} : (∀ c, s.left q c = c) → Step s q (.error e) s
  /-- The file was opened, but not changed. -/
  | spent {path : Path} {length : Nat} {e : Failure} :
      Step s (.truncate path length) (.error e) { s with store := s.store.passed }
  | still {q : Request} {reply : Reply} : q.opens? = none →
      (∀ id c, s.subject? q = some id → q.change c = c) → Step s q (.ok reply) s
  | created {path : Path} {slot : String} {mode : Nat} {exclusive : Bool} {target : Target}
      {base : Store} : s.store.Made path.name mode target base →
      Step s (.create path slot mode exclusive) (.ok .done) (s.occupied slot target base)
  | opened {path : Path} {slot : String} {target : Target} :
      s.store.node path.name = .ok target.node →
      Step s (.openFile path slot) (.ok .done) (s.occupied slot target s.store)
  | wrote {place : Place} {d offset : Nat} {data : List UInt8} {target : Target} :
      s.descriptor? place = some d → s.store.target d = .ok target →
      Step s (.write place offset data) (.ok (.count data.length))
        { s with store := s.store.written target offset data }
  /-- The host took a front part of the data before a call failed. -/
  | brokeOff {place : Place} {d offset : Nat} {data : List UInt8} {target : Target} {e : Failure} :
      s.descriptor? place = some d → s.store.target d = .ok target →
      Step s (.write place offset data) (.error e)
        { s with
          store := s.store.written target offset (data.take (s.taken place offset data)) }
  | cut {path : Path} {length id : Nat} : s.store.fileAt? path.name = some id →
      Step s (.truncate path length) (.ok .done)
        { s with store := (s.store.changeContent id (·.resize length)).passed }
  | renamed {old new : Path} {node : Node} : s.store.names.find? old.name = some node →
      Step s (.rename old new) (.ok .done)
        { s with store := s.store.renamed old.name new.name node }
  | removed {path : Path} :
      Step s (.remove path) (.ok .done) { s with store := s.store.unnamed path.name }
  | closed {slot : String} {d : Nat} {r : Except Failure Reply} : s.slots.find? slot = some d →
      closeReply (s.store.closeError? d) = r →
      Step s (.close slot) r
        { s with slots := s.slots.erase slot, store := s.store.release d }
  | shared {place : Place} {name : String} {d : Nat} : s.descriptor? place = some d →
      Step s (.share place name) (.ok (.flag true))
        { s with
          kept := s.kept.insert name d
          store := (s.store.retain d).releaseAll (s.kept.find? name).toList }
  | dropped {name : String} {d : Nat} : s.kept.find? name = some d →
      Step s (.drop name) (.ok (.flag true))
        { s with kept := s.kept.erase name, store := s.store.release d }

/-- A path that leads nowhere changes nothing, whatever was going to be done there. -/
theorem step_onReal {α : Type} {f : String → Store → Except HostError α × Store}
    (silent : ∀ c, s.left q c = c)
    (finish : Except Failure α × Session → Except Failure Reply × Session)
    (refused : ∀ e, finish (.error e, s) = (.error e, s))
    (worked : ∀ result store, f path.name s.store = (result, store) →
      s.Step q (finish (result.mapError .host, { s with store })).1
        (finish (result.mapError .host, { s with store })).2) :
    s.Step q (finish (s.onReal path f)).1 (finish (s.onReal path f)).2 := by
  rw [onReal]
  cases realPath s.directory path with
  | error e =>
    rw [refused]
    exact .failed silent
  | ok real => exact worked _ _ rfl

theorem step_create (slot : String) (mode : Nat) (exclusive : Bool) :
    s.Step (.create path slot mode exclusive) (s.answer (.create path slot mode exclusive)).1
      (s.answer (.create path slot mode exclusive)).2 := by
  refine step_onReal (fun _ => rfl) (occupy slot) (fun _ => rfl) fun result store done => ?_
  cases result with
  | error e =>
    obtain rfl := Store.create_error done
    exact .failed fun _ => rfl
  | ok d =>
    obtain ⟨target, base, made, -, rfl, rfl⟩ := Store.create_ok done
    exact .created made

theorem step_openFile (path : Path) (slot : String) :
    s.Step (.openFile path slot) (s.answer (.openFile path slot)).1
      (s.answer (.openFile path slot)).2 := by
  refine step_onReal (fun _ => rfl) (occupy slot) (fun _ => rfl) fun result store done => ?_
  cases result with
  | error e =>
    obtain rfl := Store.openFor_error done
    exact .failed fun _ => rfl
  | ok d =>
    obtain ⟨target, found, -, rfl, rfl⟩ := Store.openFor_ok done
    exact .opened found

theorem step_read (place : Place) (offset length : Nat) :
    s.Step (.read place offset length) (s.answer (.read place offset length)).1
      (s.answer (.read place offset length)).2 := by
  rw [answer, onFile]
  cases s.descriptor? place with
  | none => exact .still rfl nofun
  | some d =>
    cases result : s.store.read d offset length with
    | error e =>
      simp only [result]
      exact .failed fun _ => rfl
    | ok data =>
      simp only [result]
      exact .still rfl nofun

theorem step_write (place : Place) (offset : Nat) (data : List UInt8) :
    s.Step (.write place offset data) (s.answer (.write place offset data)).1
      (s.answer (.write place offset data)).2 := by
  rw [answer, onFile]
  cases here : s.descriptor? place with
  | none =>
    refine .still rfl fun id c subject => ?_
    rw [subject?, target?, here] at subject
    cases subject
  | some d =>
    have taken : s.taken place offset data = s.store.taken d offset data := by
      rw [Session.taken, here]
    rcases result : s.store.write d offset data with ⟨e | _, store⟩
    · simp only [result]
      rcases Store.write_error result with ⟨nothing, rfl⟩ | ⟨target, -, -, held, -, rfl⟩
      · refine .failed fun c => ?_
        rw [left, taken, nothing]
        exact c.splice_nil offset
      · rw [← taken]
        exact .brokeOff here held
    · simp only [result]
      rcases Store.write_ok result with ⟨rfl, rfl⟩ | ⟨target, -, held, -, rfl⟩
      · exact .still rfl fun _ c _ => c.splice_nil offset
      · exact .wrote here held

theorem step_truncate (numbered : s.store.Numbered) (path : Path) (length : Nat) :
    s.Step (.truncate path length) (s.answer (.truncate path length)).1
      (s.answer (.truncate path length)).2 := by
  refine step_onReal (fun _ => rfl) (replied fun _ => .done) (fun _ => rfl)
    fun result store done => ?_
  cases result with
  | error e =>
    rcases Store.truncate_error numbered done with rfl | rfl
    · exact .failed fun _ => rfl
    · exact .spent
  | ok =>
    obtain ⟨id, -, found, rfl⟩ := Store.truncate_ok numbered done
    exact .cut (Store.node_file.1 found).2

theorem step_rename (old new : Path) :
    s.Step (.rename old new) (s.answer (.rename old new)).1 (s.answer (.rename old new)).2 := by
  rw [answer, rename]
  cases realPath s.directory old with
  | error e => exact .failed fun _ => rfl
  | ok real =>
    refine step_onReal (fun _ => rfl) (replied fun _ => .done) (fun _ => rfl)
      fun result store done => ?_
    cases result with
    | error e =>
      obtain rfl := Store.rename_error done
      exact .failed fun _ => rfl
    | ok =>
      obtain ⟨node, target?, found, -, ⟨-, rfl⟩ | ⟨-, -, rfl⟩⟩ := Store.rename_ok done
      · exact .still rfl nofun
      · exact .renamed (Store.node_iff.1 found).2

theorem step_remove (path : Path) :
    s.Step (.remove path) (s.answer (.remove path)).1 (s.answer (.remove path)).2 := by
  refine step_onReal (fun _ => rfl) (replied fun _ => .done) (fun _ => rfl)
    fun result store done => ?_
  cases result with
  | error e =>
    obtain ⟨rfl, -⟩ := Store.remove_error done
    exact .failed fun _ => rfl
  | ok =>
    obtain ⟨-, rfl⟩ := Store.remove_ok done
    exact .removed

theorem step_attributes (path : Path) :
    s.Step (.attributes path) (s.answer (.attributes path)).1 (s.answer (.attributes path)).2 := by
  refine step_onReal (fun _ => rfl) (replied .attributes) (fun _ => rfl) fun result store done => ?_
  cases done
  cases s.store.attributes path.name with
  | error e => exact .failed fun _ => rfl
  | ok a => exact .still rfl nofun

theorem step_close (slot : String) :
    s.Step (.close slot) (s.answer (.close slot)).1 (s.answer (.close slot)).2 := by
  rw [answer, close]
  cases held : s.slots.find? slot with
  | none => exact .still rfl nofun
  | some d => exact .closed held rfl

theorem step_share (place : Place) (name : String) :
    s.Step (.share place name) (s.answer (.share place name)).1
      (s.answer (.share place name)).2 := by
  rw [answer, share]
  cases here : s.descriptor? place with
  | none => exact .still rfl nofun
  | some d => exact .shared here

theorem step_drop (name : String) :
    s.Step (.drop name) (s.answer (.drop name)).1 (s.answer (.drop name)).2 := by
  rw [answer, drop]
  cases held : s.kept.find? name with
  | none => exact .still rfl nofun
  | some d => exact .dropped held

theorem step_answer (numbered : s.store.Numbered) (q : Request) :
    s.Step q (s.answer q).1 (s.answer q).2 := by
  cases q with
  | create path slot mode exclusive => exact step_create slot mode exclusive
  | openFile path slot => exact step_openFile path slot
  | read place offset length => exact step_read place offset length
  | write place offset data => exact step_write place offset data
  | truncate path length => exact step_truncate numbered path length
  | rename old new => exact step_rename old new
  | remove path => exact step_remove path
  | attributes path => exact step_attributes path
  | close slot => exact step_close slot
  | share place name => exact step_share place name
  | drop name => exact step_drop name

/-- The references are counted right, and they lead to files that are there. -/
structure Sound (s : Session) : Prop where
  counted : s.store.Counted s.refs
  filed : s.store.Filed

theorem Sound.numbered (sound : s.Sound) : s.store.Numbered := sound.counted.numbered

theorem Sound.start {store : Store} (directory : String) (unused : store.Unused)
    (filed : store.Filed) : (Session.start directory store).Sound :=
  ⟨.of_unused unused, filed⟩

theorem refs_perm_slots (s : Session) (slot : String) :
    s.refs.Perm
      ((s.slots.find? slot).toList ++ ((s.slots.erase slot).values ++ s.kept.values)) := by
  rw [refs, ← List.append_assoc]
  exact (s.slots.values_perm slot).append_right _

theorem refs_perm_kept (s : Session) (name : String) :
    s.refs.Perm
      ((s.kept.find? name).toList ++ (s.slots.values ++ (s.kept.erase name).values)) := by
  refine ((s.kept.values_perm name).append_left _).trans ?_
  rw [← List.append_assoc, ← List.append_assoc]
  exact List.perm_append_comm.append_right _

theorem counted_occupied {base : Store} (change : s.store.OutsideChange base)
    (counted : s.store.Counted s.refs) (slot : String) (target : Target) :
    (s.occupied slot target base).store.Counted (s.occupied slot target base).refs := by
  have registered := (counted.change change).register target
  rw [change.nextDescriptor] at registered
  -- the new reference stands first, and those that are let go of before all others
  have apart := ((s.refs_perm_slots slot).cons s.store.nextDescriptor).trans
    List.perm_middle.symm
  refine (Store.Counted.releaseAll (registered.perm apart)).perm ?_
  exact ((s.slots.values_insert_perm slot _).symm.append_right s.kept.values)

theorem counted_closed (counted : s.store.Counted s.refs) (held : s.slots.find? slot = some d) :
    (s.store.release d).Counted ((s.slots.erase slot).values ++ s.kept.values) := by
  have apart := s.refs_perm_slots slot
  rw [held] at apart
  exact (counted.perm apart).release

theorem counted_dropped {name : String} (counted : s.store.Counted s.refs)
    (held : s.kept.find? name = some d) :
    (s.store.release d).Counted (s.slots.values ++ (s.kept.erase name).values) := by
  have apart := s.refs_perm_kept name
  rw [held] at apart
  exact (counted.perm apart).release

theorem counted_shared (counted : s.store.Counted s.refs) (holds : s.Holds d) (name : String) :
    ((s.store.retain d).releaseAll (s.kept.find? name).toList).Counted
      (s.slots.values ++ (s.kept.insert name d).values) := by
  have apart := ((s.refs_perm_kept name).cons d).trans List.perm_middle.symm
  refine (Store.Counted.releaseAll ((counted.retain (holds_iff.1 holds)).perm apart)).perm ?_
  refine List.perm_middle.symm.trans ?_
  exact (s.kept.values_insert_perm name d).symm.append_left s.slots.values

theorem noneOpened_occupied (s : Session) (slot : String) (target : Target) (base : Store) :
    (base.register target).2.NoneOpened (s.occupied slot target base).store :=
  Store.noneOpened_releaseAll _ _

theorem noneOpened_shared (s : Session) (d : Nat) (name : String) :
    s.store.NoneOpened ((s.store.retain d).releaseAll (s.kept.find? name).toList) :=
  (Store.noneOpened_retain _ _).trans (Store.noneOpened_releaseAll _ _)

theorem filed_occupied {base : Store} {name : String} (filed : base.Filed)
    (found : base.node name = .ok target.node) :
    (s.occupied slot target base).store.Filed :=
  (filed.register (Store.node_iff.1 found).2).noneOpened (s.noneOpened_occupied _ _ _)

theorem stands_occupied {base : Store} {other : Target} (stands : base.Stands d other) :
    (s.occupied slot target base).store.Stands d other :=
  (stands.register target).noneOpened (s.noneOpened_occupied _ _ _)

theorem content_written {place : Place} {offset : Nat} {data : List UInt8}
    (filed : s.store.Filed) (here : s.descriptor? place = some d)
    (held : s.store.target d = .ok target) (part : List UInt8) (id : Nat) :
    (s.store.written target offset part).content id =
      if s.subject? (.write place offset data) = some id then
        (s.store.content id).splice offset part
      else s.store.content id := by
  have subject : s.subject? (.write place offset data) = target.file? := by
    rw [subject?, target?, here, Option.bind_some, held]
    rfl
  rw [subject]
  cases target with
  | file there => exact filed.content_changeContent (.inr ⟨d, held⟩) _ id
  | nullDevice => rfl

namespace Step

theorem counted (step : s.Step q r t) (counted : s.store.Counted s.refs) :
    t.store.Counted t.refs := by
  cases step with
  | failed | still => exact counted
  | spent => exact counted.passed
  | created made => exact counted_occupied made.change counted _ _
  | opened => exact counted_occupied (.refl _) counted _ _
  | wrote | brokeOff => exact counted.change (Store.outsideChange_written _ _ _ _)
  | cut =>
    exact (counted.change (t := s.store.changeContent _ _) ⟨rfl, rfl, rfl⟩).passed
  | renamed | removed => exact counted.change ⟨rfl, rfl, rfl⟩
  | closed held => exact counted_closed counted held
  | shared here => exact counted_shared counted (holds_of_descriptor? here) _
  | dropped held => exact counted_dropped counted held

theorem filed (step : s.Step q r t) (filed : s.store.Filed) : t.store.Filed := by
  cases step with
  | failed | still => exact filed
  | spent => exact filed.noneOpened (Store.noneOpened_passed _)
  | created made => exact filed_occupied (filed.made made) made.node
  | opened found => exact filed_occupied filed found
  | wrote | brokeOff => exact filed.written _ _ _
  | cut => exact (filed.changeContent _ _).noneOpened (Store.noneOpened_passed _)
  | renamed here => exact filed.renamed here
  | removed => exact filed.unnamed _
  | closed | dropped => exact filed.noneOpened (Store.noneOpened_release _ _)
  | shared => exact filed.noneOpened (s.noneOpened_shared _ _)

theorem sound (step : s.Step q r t) (sound : s.Sound) : t.Sound :=
  ⟨step.counted sound.counted, step.filed sound.filed⟩

theorem stands (step : s.Step q r t) (stands : s.store.Stands d target) :
    t.store.Stands d target := by
  cases step with
  | failed | still => exact stands
  | spent => exact stands.noneOpened (Store.noneOpened_passed _)
  | created made => exact stands_occupied (stands.change made.change)
  | opened => exact stands_occupied stands
  | wrote | brokeOff => exact stands.change (Store.outsideChange_written _ _ _ _)
  | @cut path length id =>
    have cut : (s.store.changeContent id (·.resize length)).Stands d target :=
      stands.change ⟨rfl, rfl, rfl⟩
    exact cut.noneOpened (Store.noneOpened_passed _)
  | renamed | removed => exact stands.change ⟨rfl, rfl, rfl⟩
  | closed | dropped => exact stands.noneOpened (Store.noneOpened_release _ _)
  | shared => exact stands.noneOpened (s.noneOpened_shared _ _)

theorem occupied (step : s.Step q (.ok .done) t) (opens : q.opens? = some (path, slot)) :
    ∃ target base, t = s.occupied slot target base ∧ s.store.OutsideChange base ∧
      base.node path.name = .ok target.node := by
  cases step with
  | still none => rw [none] at opens; cases opens
  | created made =>
    cases opens
    exact ⟨_, _, rfl, made.change, made.node⟩
  | opened found =>
    cases opens
    exact ⟨_, _, rfl, .refl _, found⟩
  | cut | renamed | removed | closed => cases opens

theorem slots (step : s.Step q r t) (apart : q.slot? ≠ some slot) :
    t.slots.find? slot = s.slots.find? slot := by
  cases step with
  | failed | spent | still | wrote | brokeOff | cut | renamed | removed | shared | dropped => rfl
  | created | opened =>
    exact Table.find?_insert_other _ _ fun same => apart (congrArg some same.symm)
  | closed => exact Table.find?_erase_other _ fun same => apart (congrArg some same.symm)

theorem kept {name : String} (step : s.Step q r t) (apart : q.reference? ≠ some name) :
    t.kept.find? name = s.kept.find? name := by
  cases step with
  | failed | spent | still | wrote | brokeOff | cut | renamed | removed | created | opened
  | closed => rfl
  | shared => exact Table.find?_insert_other _ _ fun same => apart (congrArg some same.symm)
  | dropped => exact Table.find?_erase_other _ fun same => apart (congrArg some same.symm)

theorem nextFile_le (step : s.Step q r t) : s.store.nextFile ≤ t.store.nextFile := by
  cases step with
  | failed | spent | still | cut | renamed | removed => exact Nat.le_refl _
  | created made =>
    rw [(s.noneOpened_occupied _ _ _).nextFile]
    cases made with
    | fresh => exact Nat.le_succ _
    | emptied | device => exact Nat.le_refl _
  | opened => exact Nat.le_of_eq (s.noneOpened_occupied _ _ _).nextFile.symm
  | @wrote place d offset data target => cases target <;> exact Nat.le_refl _
  | @brokeOff place d offset data target => cases target <;> exact Nat.le_refl _
  | closed | dropped => exact Nat.le_of_eq (Store.noneOpened_release _ _).nextFile.symm
  | shared => exact Nat.le_of_eq (s.noneOpened_shared _ _).nextFile.symm

/-- A file keeps its content, unless it is the one that the request changes. -/
theorem content (step : s.Step q r t) (filed : s.store.Filed) (id : Nat) :
    t.store.content id = s.touched q r id (s.store.content id) := by
  cases step with
  | failed silent =>
    unfold touched
    split
    · exact (silent _).symm
    · rfl
  | spent => exact (ite_self _).symm
  | still _ silent =>
    unfold touched
    split
    · next subject => exact (silent id _ subject).symm
    · rfl
  | created made =>
    rw [(s.noneOpened_occupied _ _ _).content]
    exact made.content filed id
  | opened =>
    rw [(s.noneOpened_occupied _ _ _).content]
    rfl
  | wrote here held => exact content_written filed here held _ id
  | brokeOff here held => exact content_written filed here held _ id
  | @cut path length there found =>
    have leads : s.store.Leads there := .inl ⟨_, Store.fileAt?_iff.1 found⟩
    simp only [touched, subject?, found, Except.toBool]
    exact filed.content_changeContent leads (·.resize length) id
  | renamed | removed => rfl
  | closed | dropped =>
    rw [(Store.noneOpened_release _ _).content]
    rfl
  | shared =>
    rw [(s.noneOpened_shared _ _).content]
    rfl

end Step

end Session

end Backing

end PatternFs
