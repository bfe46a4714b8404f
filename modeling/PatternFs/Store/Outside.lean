import PatternFs.Store

/-! What others do to the backing directory while it is mounted. They know it by names only, also by
names that lead into its directories; the mount's descriptors stay on the files they were opened
on. -/
namespace PatternFs

inductive Deed
  | write (data : List UInt8)
  | remove
  | makeDirectory
  | removeDirectory
  | linkNull
  deriving DecidableEq

/-- Permission bits that others ask for when they make a file. -/
def strangersMode : Nat := 0o666

/-- The device file that everything can be written to. -/
def nullPath : String := "/dev/null"

namespace Host

/-- Takes the entry at `path` away if `check` has no objection to it. -/
def removeWhen (h : Host) (path : String) (check : Tree → Option HostError) :
    Except HostError Host :=
  match h.lookup path with
  | .error e => .error e
  | .ok (names, t) =>
    match check t with
    | some e => .error e
    | none => .ok { h with root := h.root.without names }

def perform (h : Host) (path : String) : Deed → Except HostError Host
  | .write data =>
    (h.openForWriting path true).map fun r => r.2.modifyFile r.1 fun _ => .ofBytes data
  | .remove => h.removeWhen path fun t => if t.isDirectory then some .isDirectory else none
  | .makeDirectory => h.make path (.directory [])
  | .removeDirectory =>
    h.removeWhen path fun t =>
      if ¬ t.isDirectory then some .notDirectory
      else if t.entries.isEmpty then none
      else some .notEmpty
  | .linkNull => h.make path (.link nullPath)

end Host

namespace Store

/-- The entry of the backing directory that a name starts with, and the way on from there. -/
def firstStep (name : String) : String × String :=
  match (name.toList.splitOn '/').filter fun s => ! HostPath.isFiller s with
  | [] => (name, "")
  | top :: below => (String.ofList top, String.ofList (['/'].intercalate below))

/-- The directory `top`, as a host of its own. -/
def directoryAt (s : Store) (top : String) : Except HostError Host :=
  match s.node top with
  | .error e => .error e
  | .ok (.directory inside) => .ok ⟨inside, []⟩
  | .ok _ => .error .notDirectory

def atFree (s : Store) (name : String) (node : Node) : Except HostError Unit × Store :=
  match s.find name with
  | .error e => (.error e, s)
  | .ok (some _) => (.error .fileExists, s)
  | .ok none => (.ok (), { s with names := s.names.insert name node })

/-- A deed on an entry of the backing directory itself. -/
def outsideTop (s : Store) (name : String) : Deed → Except HostError Unit × Store
  | .write data =>
    match s.find name with
    | .error e => (.error e, s)
    | .ok none =>
      let (id, s) := s.addFile name strangersMode
      (.ok (), s.changeContent id fun _ => .ofBytes data)
    | .ok (some (.file id)) => (.ok (), s.changeContent id fun _ => .ofBytes data)
    | .ok (some (.directory _)) => (.error .isDirectory, s)
    | .ok (some .nullDevice) => (.ok (), s)
  | .remove => s.remove name
  | .makeDirectory => s.atFree name (.directory (.directory []))
  | .removeDirectory =>
    match s.node name with
    | .error e => (.error e, s)
    | .ok (.directory inside) =>
      if inside.entries.isEmpty then (.ok (), { s with names := s.names.erase name })
      else (.error .notEmpty, s)
    | .ok _ => (.error .notDirectory, s)
  | .linkNull => s.atFree name .nullDevice

def outside (s : Store) (name : String) (deed : Deed) : Except HostError Unit × Store :=
  match firstStep name with
  | (top, "") => s.outsideTop top deed
  | (top, below) =>
    match (s.directoryAt top).bind (·.perform below deed) with
    | .error e => (.error e, s)
    | .ok h => (.ok (), { s with names := s.names.insert top (.directory h.root) })

def outsideRead (s : Store) (name : String) : Except HostError (List UInt8) :=
  match firstStep name with
  | (top, "") =>
    match s.node top with
    | .error e => .error e
    | .ok (.file id) => .ok (s.content id).bytes
    | .ok (.directory _) => .error .isDirectory
    | .ok .nullDevice => .ok []
  | (top, below) => (s.directoryAt top).bind (·.readBytes below)

theorem firstStep_component {name : String} (component : IsComponent name) :
    firstStep name = (name, "") := by
  obtain ⟨named, notDot, whole⟩ := component
  have kept : HostPath.isFiller name.toList = false := by
    have named' : name.toList ≠ [] := by
      intro empty
      exact named (String.toList_inj.1 empty)
    have notDot' : name.toList ≠ ['.'] := by
      intro dot
      exact notDot (String.toList_inj.1 dot)
    simp [HostPath.isFiller, named', notDot']
  rw [firstStep, List.splitOn_eq_singleton whole, List.filter_cons_of_pos (by simp [kept])]
  simp

theorem outsideRead_file {s : Store} {name : String} {id : Nat} (component : IsComponent name)
    (found : s.node name = .ok (.file id)) : s.outsideRead name = .ok (s.content id).bytes := by
  rw [outsideRead, firstStep_component component]
  simp only [found]

theorem descriptors_outsideTop (s : Store) (name : String) (deed : Deed) :
    (s.outsideTop name deed).2.descriptors = s.descriptors ∧
      (s.outsideTop name deed).2.closed = s.closed := by
  cases deed <;> simp only [outsideTop, remove, atFree] <;> repeat' split
  all_goals simp [addFile, changeContent]

theorem descriptors_outside (s : Store) (name : String) (deed : Deed) :
    (s.outside name deed).2.descriptors = s.descriptors ∧
      (s.outside name deed).2.closed = s.closed := by
  unfold outside
  split
  · exact descriptors_outsideTop s _ deed
  · split <;> simp

end Store

end PatternFs
