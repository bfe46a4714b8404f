import PatternFs.Proofs.Writing.Parts
import PatternFs.Store

/-! What each operation leaves behind in the store. One that fails changes no name, no file and no
open descriptor, except that a write may fail when a part of its data is in the file. One that works
is told by the file it worked on, whatever descriptor it took for that. -/
namespace PatternFs

theorem ok_of_toOption {ε α : Type} {r : Except ε α} {a : α} (some' : r.toOption = some a) :
    r = .ok a := by
  cases r <;> cases some'
  rfl

/-- What a name stands for when the target is found under it. -/
def Target.node : Target → Node
  | .file id => .file id
  | .nullDevice => .nullDevice

theorem Node.sameFile_any {node : Node} {node? : Option Node}
    (same : node?.any node.sameFile = true) :
    ∃ id, node = .file id ∧ node? = some (.file id) := by
  cases node? with
  | none => cases same
  | some other =>
    cases node with
    | file id =>
      cases other with
      | file other =>
        obtain rfl : id = other := of_decide_eq_true same
        exact ⟨id, rfl, rfl⟩
      | directory | nullDevice => cases same
    | directory | nullDevice => cases same

namespace Store

variable {s t : Store} {name : String} {d : Nat}

/-- No descriptor is open that was not given out. -/
def Numbered (s : Store) : Prop := ∀ d, s.nextDescriptor ≤ d → s.descriptors.find? d = none

theorem Numbered.lt (numbered : s.Numbered) {file : OpenFile}
    (found : s.descriptors.find? d = some file) : d < s.nextDescriptor := by
  by_cases known : d < s.nextDescriptor
  · exact known
  · rw [numbered d (by omega)] at found
    cases found

/-- The store when one more descriptor was given out and taken back. -/
def passed (s : Store) : Store :=
  { s with nextDescriptor := s.nextDescriptor + 1, closed := s.nextDescriptor :: s.closed }

theorem numbered_passed (numbered : s.Numbered) : s.passed.Numbered :=
  fun d unknown => numbered d (Nat.le_of_succ_le unknown)

theorem find?_register (s : Store) (target : Target) (d : Nat) :
    (s.register target).2.descriptors.find? d =
      if d = s.nextDescriptor then some ⟨target, 1⟩ else s.descriptors.find? d :=
  Table.find?_insert _ _ _ _

theorem target_register (s : Store) (target : Target) :
    (s.register target).2.target s.nextDescriptor = .ok target := by
  rw [Store.target, find?_register, if_pos rfl]

theorem target_ok {target : Target} :
    s.target d = .ok target ↔ ∃ holders, s.descriptors.find? d = some ⟨target, holders⟩ := by
  unfold Store.target
  cases found : s.descriptors.find? d with
  | none => simp
  | some file =>
    obtain ⟨held, holders⟩ := file
    simp

theorem release_last {target : Target} (found : s.descriptors.find? d = some ⟨target, 1⟩) :
    s.release d = { s with descriptors := s.descriptors.erase d, closed := d :: s.closed } := by
  rw [release, found]

theorem release_register (numbered : s.Numbered) (target : Target) :
    (s.register target).2.release s.nextDescriptor = s.passed := by
  have found : (s.register target).2.descriptors.find? s.nextDescriptor = some ⟨target, 1⟩ := by
    rw [find?_register, if_pos rfl]
  rw [release_last found]
  have erased := s.descriptors.erase_insert_absent ⟨target, 1⟩ (numbered _ (Nat.le_refl _))
  simp only [register, erased, passed]

theorem numbered_register (numbered : s.Numbered) (target : Target) :
    (s.register target).2.Numbered := by
  intro d unknown
  change s.nextDescriptor + 1 ≤ d at unknown
  rw [find?_register, if_neg (by omega)]
  exact numbered d (by omega)

theorem find?_release (s : Store) {d other : Nat} (different : other ≠ d) :
    (s.release d).descriptors.find? other = s.descriptors.find? other := by
  unfold release
  split
  · rw [Table.find?_modify, if_neg different]
  · exact Table.find?_erase_other _ different

theorem numbered_release (numbered : s.Numbered) (d : Nat) : (s.release d).Numbered := by
  have same : (s.release d).nextDescriptor = s.nextDescriptor := by unfold release; split <;> rfl
  intro other unknown
  rw [same] at unknown
  have absent := numbered other unknown
  by_cases eq : other = d
  · subst other
    simp [release, absent]
  · rw [find?_release s eq, absent]

/-- The directory can be reached and the name can be looked up in it. -/
structure Accessible (s : Store) (name : String) : Prop where
  speakable : unspeakable name = false
  unblocked : s.blocked? = none
  short : name.utf8ByteSize ≤ nameLimit

theorem find_ok {node? : Option Node} :
    s.find name = .ok node? ↔ s.Accessible name ∧ s.names.find? name = node? := by
  unfold Store.find
  constructor
  · intro found
    split at found
    · cases found
    · next speakable =>
      split at found
      · cases found
      · next unblocked =>
        split at found
        · cases found
        · next short =>
          cases found
          exact ⟨⟨by simpa using speakable, unblocked, Nat.not_lt.1 short⟩, rfl⟩
  · rintro ⟨⟨speakable, unblocked, short⟩, rfl⟩
    simp only [speakable, Bool.false_eq_true, if_false, unblocked, if_neg (Nat.not_lt.2 short)]

theorem node_ok {node : Node} : s.node name = .ok node ↔ s.find name = .ok (some node) := by
  unfold Store.node
  split <;> simp_all

theorem node_iff {node : Node} :
    s.node name = .ok node ↔ s.Accessible name ∧ s.names.find? name = some node :=
  node_ok.trans find_ok

theorem attributes_ok {node : Node} (found : s.node name = .ok node) :
    ∃ a, s.attributes name = .ok a := by
  unfold Store.attributes
  rw [found]
  cases node <;> exact ⟨_, rfl⟩

/-- How an opened name became a target: the name was free, or the file was there and is empty now,
or nothing needed to be done. -/
inductive Made (s : Store) (name : String) (mode : Nat) : Target → Store → Prop
  | fresh : s.find name = .ok none → Made s name mode (.file s.nextFile) (s.addFile name mode).2
  | emptied {id : Nat} : s.find name = .ok (some (.file id)) →
      Made s name mode (.file id) (s.changeContent id (·.resize 0))
  | device : s.find name = .ok (some .nullDevice) → Made s name mode .nullDevice s

theorem Made.descriptors {mode : Nat} {target : Target} (made : s.Made name mode target t) :
    t.descriptors = s.descriptors ∧ t.nextDescriptor = s.nextDescriptor ∧ t.closed = s.closed := by
  cases made <;> exact ⟨rfl, rfl, rfl⟩

theorem Made.accessible {mode : Nat} {target : Target} (made : s.Made name mode target t) :
    s.Accessible name := by
  cases made with
  | fresh found => exact (find_ok.1 found).1
  | emptied found => exact (find_ok.1 found).1
  | device found => exact (find_ok.1 found).1

theorem Made.blocked {mode : Nat} {target : Target} (made : s.Made name mode target t) :
    t.blocked? = s.blocked? := by
  cases made <;> rfl

theorem Made.platform {mode : Nat} {target : Target} (made : s.Made name mode target t) :
    t.platform = s.platform := by
  cases made <;> rfl

theorem Made.numbered {mode : Nat} {target : Target} (made : s.Made name mode target t)
    (numbered : s.Numbered) : t.Numbered := by
  obtain ⟨same, next', -⟩ := made.descriptors
  rw [Numbered, same, next']
  exact numbered

theorem Made.node {mode : Nat} {target : Target} (made : s.Made name mode target t) :
    t.node name = .ok target.node := by
  cases made with
  | fresh free =>
    obtain ⟨accessible, -⟩ := find_ok.1 free
    exact node_iff.2 ⟨⟨accessible.speakable, accessible.unblocked, accessible.short⟩,
      Table.find?_insert_same _ _ _⟩
  | emptied found => exact node_ok.2 found
  | device found => exact node_ok.2 found

theorem create_ok {mode : Nat} {exclusive : Bool}
    (made : s.create name mode exclusive = (.ok d, t)) :
    ∃ target base, s.Made name mode target base ∧ (exclusive = true → s.find name = .ok none) ∧
      d = s.nextDescriptor ∧ t = (base.register target).2 := by
  unfold Store.create at made
  split at made
  · cases made
  · next free =>
    cases made
    exact ⟨_, _, .fresh free, fun _ => free, rfl, rfl⟩
  · next node found =>
    split at made
    · cases made
    · next shared =>
      cases node with
      | file id =>
        dsimp only at made
        split at made
        · cases made
          exact ⟨_, _, .emptied found, fun alone => absurd alone shared, rfl, rfl⟩
        · cases made
      | directory inside => cases made
      | nullDevice =>
        cases made
        exact ⟨_, _, .device found, fun alone => absurd alone shared, rfl, rfl⟩

theorem create_error {mode : Nat} {exclusive : Bool} {e : HostError}
    (failed : s.create name mode exclusive = (.error e, t)) : t = s := by
  unfold Store.create at failed
  split at failed
  · cases failed; rfl
  · cases failed
  · next node found =>
    split at failed
    · cases failed; rfl
    · cases node with
      | file id =>
        dsimp only at failed
        split at failed <;> cases failed
        rfl
      | directory inside => cases failed; rfl
      | nullDevice => cases failed

/-- The process may open the target. -/
def admits (s : Store) (access : Access) : Target → Bool
  | .file id => s.mayOpen id access
  | .nullDevice => true

theorem openFor_target {access : Access} {target : Target} (here : s.node name = .ok target.node)
    (admitted : s.admits access target = true) :
    s.openFor access name = (.ok s.nextDescriptor, (s.register target).2) := by
  unfold openFor
  rw [here]
  cases target with
  | file id => exact if_pos admitted
  | nullDevice => rfl

theorem openFor_denied {access : Access} {target : Target} (here : s.node name = .ok target.node)
    (denied : s.admits access target = false) :
    s.openFor access name = (.error .denied, s) := by
  unfold openFor
  rw [here]
  cases target with
  | file id =>
    rw [admits] at denied
    simp only [Target.node, denied, Bool.false_eq_true, if_false]
  | nullDevice => cases denied

theorem openFor_ok {access : Access} (opened : s.openFor access name = (.ok d, t)) :
    ∃ target, s.node name = .ok target.node ∧ s.admits access target = true ∧
      d = s.nextDescriptor ∧ t = (s.register target).2 := by
  unfold openFor at opened
  split at opened
  · cases opened
  · next id found =>
    split at opened
    · next may => cases opened; exact ⟨.file id, found, may, rfl, rfl⟩
    · cases opened
  · cases opened
  · next found => cases opened; exact ⟨.nullDevice, found, rfl, rfl, rfl⟩

theorem openFor_error {access : Access} {e : HostError}
    (failed : s.openFor access name = (.error e, t)) : t = s := by
  unfold openFor at failed
  split at failed
  · cases failed; rfl
  · split at failed <;> cases failed; rfl
  · cases failed; rfl
  · cases failed

theorem setLength_ok {length : Nat} (cut : s.setLength d length = (.ok (), t)) :
    ∃ id, length < Content.limit ∧ s.target d = .ok (.file id) ∧
      t = s.changeContent id (·.resize length) := by
  unfold setLength at cut
  split at cut
  · cases cut
  · next inside =>
    split at cut
    · cases cut
    · next id held =>
      split at cut
      · cases cut
      · cases cut; exact ⟨id, Nat.not_le.1 inside, held, rfl⟩
    · cases cut

theorem setLength_error {length : Nat} {e : HostError}
    (failed : s.setLength d length = (.error e, t)) : t = s := by
  unfold setLength at failed
  split at failed
  · cases failed; rfl
  · split at failed
    · cases failed; rfl
    · split at failed <;> cases failed; rfl
    · cases failed; rfl

/-- The store after `data` was put into a file at `offset`. The device swallows it. -/
def written (s : Store) (target : Target) (offset : Nat) (data : List UInt8) : Store :=
  match target with
  | .file id => s.changeContent id (·.splice offset data)
  | .nullDevice => s

theorem release_written (numbered : s.Numbered) (target : Target) (offset : Nat)
    (data : List UInt8) :
    ((s.register target).2.written target offset data).release s.nextDescriptor =
      s.passed.written target offset data := by
  cases target with
  | file id =>
    exact release_register (s := s.changeContent id (·.splice offset data)) numbered (.file id)
  | nullDevice => exact release_register numbered .nullDevice

/-- How much of the data a write through `d` puts into a file. -/
def taken (s : Store) (d offset : Nat) (data : List UInt8) : Nat :=
  match s.target d with
  | .ok (.file id) =>
    if offset + data.length ≥ Content.limit then 0 else (s.writing id offset data).taken
  | _ => 0

/-- A file that holds what the calls of a write put into it. -/
theorem changeContent_writing (s : Store) (id offset : Nat) (data : List UInt8) :
    s.changeContent id (fun _ => (s.writing id offset data).content) =
      s.written (.file id) offset (data.take (s.writing id offset data).taken) := by
  have lays := Writing.lays_run (s.content id) offset data
    (s.platform.writing (s.content id) offset data)
  simp only [written, changeContent]
  congr 1
  refine Table.modify_congr _ fun object here => ?_
  have same : object.content = s.content id := by rw [content, here]; rfl
  rw [same]
  exact congrArg (FileObject.mk · _) lays.content

theorem write_ok {offset : Nat} {data : List UInt8} (done : s.write d offset data = (.ok (), t)) :
    (data = [] ∧ t = s) ∨
      ∃ target, data ≠ [] ∧ s.target d = .ok target ∧ offset + data.length < Content.limit ∧
        t = s.written target offset data := by
  unfold write at done
  split at done
  · next none => cases done; exact .inl ⟨none, rfl⟩
  · next some =>
    right
    split at done
    · cases done
    · next target held =>
      split at done
      · cases done
      · next inside =>
        refine ⟨target, some, held, Nat.not_le.1 inside, ?_⟩
        cases target with
        | nullDevice => cases done; rfl
        | file id =>
          obtain ⟨worked, rfl⟩ := Prod.mk.inj done
          have all := (Writing.run_ok worked).1
          change (s.writing id offset data).taken = data.length at all
          have something : ¬ (s.writing id offset data).taken = 0 := by
            rw [all]
            exact fun nothing => some (List.eq_nil_of_length_eq_zero nothing)
          rw [if_neg something, changeContent_writing, all, List.take_length]

/-- A write that fails has put a part of the data into the file, or nothing. -/
theorem write_error {offset : Nat} {data : List UInt8} {e : HostError}
    (failed : s.write d offset data = (.error e, t)) :
    (s.taken d offset data = 0 ∧ t = s) ∨
      ∃ target, 0 < s.taken d offset data ∧ s.taken d offset data < data.length ∧
        s.target d = .ok target ∧ offset + data.length < Content.limit ∧
        t = s.written target offset (data.take (s.taken d offset data)) := by
  unfold write at failed
  split at failed
  · cases failed
  · split at failed
    · next held =>
      cases failed
      exact .inl ⟨by simp only [taken, held], rfl⟩
    · next target held =>
      split at failed
      · next outside =>
        cases failed
        refine .inl ⟨?_, rfl⟩
        cases target <;> simp only [taken, held, if_pos outside]
      · next inside =>
        cases target with
        | nullDevice => cases failed
        | file id =>
          obtain ⟨broke, rfl⟩ := Prod.mk.inj failed
          have count : s.taken d offset data = (s.writing id offset data).taken := by
            simp only [taken, held, if_neg inside]
          have short := Writing.run_error broke
          rw [count]
          by_cases nothing : (s.writing id offset data).taken = 0
          · exact .inl ⟨nothing, if_pos nothing⟩
          · refine .inr ⟨.file id, Nat.pos_of_ne_zero nothing, short, held, Nat.not_le.1 inside, ?_⟩
            rw [if_neg nothing, changeContent_writing]

theorem truncate_ok {length : Nat} (numbered : s.Numbered)
    (cut : s.truncate name length = (.ok (), t)) :
    ∃ id, length < Content.limit ∧ s.node name = .ok (.file id) ∧
      t = (s.changeContent id (·.resize length)).passed := by
  unfold truncate at cut
  split at cut
  · cases cut
  · next d opened' opened =>
    obtain ⟨target, found, -, rfl, rfl⟩ := openFor_ok opened
    cases result : (s.register target).2.setLength s.nextDescriptor length with
    | mk r u =>
      rw [result] at cut
      cases cut
      obtain ⟨id, inside, held, rfl⟩ := setLength_ok result
      rw [target_register] at held
      cases held
      refine ⟨id, inside, found, ?_⟩
      exact release_register (s := s.changeContent id (·.resize length)) numbered (.file id)

theorem truncate_error {length : Nat} {e : HostError} (numbered : s.Numbered)
    (failed : s.truncate name length = (.error e, t)) : t = s ∨ t = s.passed := by
  unfold truncate at failed
  split at failed
  · next opened =>
    cases failed
    exact .inl (openFor_error opened)
  · next d opened' opened =>
    obtain ⟨target, found, -, rfl, rfl⟩ := openFor_ok opened
    cases result : (s.register target).2.setLength s.nextDescriptor length with
    | mk r u =>
      rw [result] at failed
      cases failed
      obtain rfl := setLength_error result
      exact .inr (release_register numbered target)

theorem rename_ok {old new : String} (moved : s.rename old new = (.ok (), t)) :
    ∃ node target?, s.node old = .ok node ∧ s.find new = .ok target? ∧
      (((old = new ∨ target?.any node.sameFile = true) ∧ t = s) ∨
        (old ≠ new ∧ target?.bind (replaceError? node) = none ∧
          t = { s with names := (s.names.erase old).insert new node })) := by
  unfold rename at moved
  split at moved
  · cases moved
  · split at moved
    · cases moved
    · next node found =>
      split at moved
      · cases moved
      · next target? there =>
        refine ⟨node, target?, found, there, ?_⟩
        split at moved
        · next same => cases moved; exact .inl ⟨same, rfl⟩
        · next different =>
          split at moved
          · cases moved
          · next allowed =>
            cases moved
            exact .inr ⟨fun same => different (.inl same), allowed, rfl⟩

theorem rename_error {old new : String} {e : HostError}
    (failed : s.rename old new = (.error e, t)) : t = s := by
  unfold rename at failed
  split at failed
  · cases failed; rfl
  · split at failed
    · cases failed; rfl
    · split at failed
      · cases failed; rfl
      · split at failed
        · cases failed
        · split at failed <;> cases failed
          rfl

theorem remove_ok (removed : s.remove name = (.ok (), t)) :
    (∃ target : Target, s.node name = .ok target.node) ∧
      t = { s with names := s.names.erase name } := by
  unfold remove at removed
  split at removed
  · cases removed
  · cases removed
  · next node noDirectory found =>
    cases removed
    refine ⟨?_, rfl⟩
    cases node with
    | file id => exact ⟨.file id, found⟩
    | directory inside => exact absurd rfl (noDirectory inside)
    | nullDevice => exact ⟨.nullDevice, found⟩

theorem remove_error {e : HostError} (failed : s.remove name = (.error e, t)) :
    t = s ∧ (s.node name = .error e ∨ e = .isDirectory) := by
  unfold remove at failed
  split at failed
  · next missing => cases failed; exact ⟨rfl, .inl missing⟩
  · cases failed; exact ⟨rfl, .inr rfl⟩
  · cases failed

end Store

end PatternFs
