import PatternFs.Text.Split

/-! Absolute paths of the mount, as the sequence of their components. Separators may be repeated
and `.` may occur in the text a path is read from; neither survives, so paths are equal exactly
when their components are. `..` is an ordinary component. -/
namespace PatternFs

/-- Longest name of an entry, in bytes. -/
def nameLimit : Nat := 255

def IsComponent (c : String) : Prop := c ≠ "" ∧ c ≠ "." ∧ '/' ∉ c.toList

structure Path where
  components : List String
  valid : ∀ c ∈ components, IsComponent c
  deriving DecidableEq

namespace Path

def componentsOf (s : String) : List String :=
  ((s.toList.splitOn '/').filter fun c => c ≠ [] && c ≠ ['.']).map String.ofList

theorem isComponent_of_mem {s c : String} (h : c ∈ componentsOf s) : IsComponent c := by
  simp only [componentsOf, List.mem_map, List.mem_filter, Bool.and_eq_true,
    decide_eq_true_eq] at h
  obtain ⟨piece, ⟨member, nonempty, notDot⟩, rfl⟩ := h
  refine ⟨fun e => nonempty ?_, fun e => notDot ?_, ?_⟩
  · simpa using congrArg String.toList e
  · simpa using congrArg String.toList e
  · simpa using Text.not_mem_of_mem_splitOn member

def ofText (s : String) : Path := ⟨componentsOf s, fun _ => isComponent_of_mem⟩

def root : Path := ⟨[], by simp⟩

/-- The path that `name` has below the root. A name with separators may lead deeper, and the names
`.` and the empty one lead to the root itself. -/
def child (name : String) : Path := ofText ("/" ++ name)

def text (p : Path) : String :=
  if p.components = [] then "/"
  else String.ofList (p.components.flatMap fun c => '/' :: c.toList)

/-- The last component, and the empty text for the root. -/
def name (p : Path) : String := p.components.getLast?.getD ""

def isRoot (p : Path) : Bool := p.components.isEmpty

def isTopLevel (p : Path) : Bool := p.components.length == 1

/-- Paths are ordered by the bytes of their texts. -/
def order (p q : Path) : Ordering := compare p.text q.text

@[ext] theorem ext {p q : Path} (h : p.components = q.components) : p = q := by
  cases p; cases q; simpa using h

@[simp] theorem components_root : root.components = [] := rfl

@[simp] theorem components_ofText (s : String) : (ofText s).components = componentsOf s := rfl

theorem componentsOf_child {c : String} (component : IsComponent c) :
    componentsOf ("/" ++ c) = [c] := by
  obtain ⟨named, notDot, whole⟩ := component
  have pieces : ("/" ++ c).toList.splitOn '/' = [[], c.toList] := by
    have chars : ("/" ++ c).toList = '/' :: c.toList := by simp
    rw [chars, List.splitOn_cons_eq_if_modifyHead, List.splitOn_eq_singleton whole]
    rfl
  have named' : c.toList ≠ [] := fun empty => named (String.toList_inj.1 empty)
  have notDot' : c.toList ≠ ['.'] := fun dot => notDot (String.toList_inj.1 dot)
  rw [componentsOf, pieces]
  simp [named', notDot']

end Path

end PatternFs
