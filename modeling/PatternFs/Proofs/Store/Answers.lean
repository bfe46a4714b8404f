import PatternFs.Proofs.Store.Frame

/-! What the store answers about one file. Nothing but the target of a descriptor and the file that
it is has a part in the answer: neither the number of the descriptor nor any other file. -/
namespace PatternFs

def FileObject.change (object : FileObject) (f : Content → Content) : FileObject :=
  ⟨f object.content, Store.changedMode object.mode⟩

namespace Store

variable {s t : Store} {name : String} {d d' id : Nat} {target : Target}

/-- The content and the mode of the file that a name stands for. -/
def objectAt? (s : Store) (name : String) : Option FileObject :=
  (s.fileAt? name).bind s.files.find?

theorem objectAt?_file (here : s.names.find? name = some (.file id)) :
    s.objectAt? name = s.files.find? id := by
  rw [objectAt?, fileAt?_iff.2 here]
  rfl

theorem Keeps.objectAt? (keeps : Keeps name s t) : t.objectAt? name = s.objectAt? name := by
  rw [Store.objectAt?, Store.objectAt?, keeps.fileAt?]
  cases here : s.fileAt? name with
  | none => rfl
  | some id => exact keeps.object id here

theorem objectAt?_changeTarget (here : s.names.find? name = some target.node)
    (f : Content → Content) :
    (s.changeTarget target f).objectAt? name = (s.objectAt? name).map (·.change f) := by
  cases target with
  | file id =>
    have still : (s.changeContent id f).names.find? name = some (.file id) := here
    rw [changeTarget, objectAt?_file still, objectAt?_file here]
    exact (Table.find?_modify _ _ _ _).trans (if_pos rfl)
  | nullDevice =>
    have none' : s.objectAt? name = none := by
      rw [objectAt?, fileAt?, here]
      rfl
    rw [changeTarget, none']
    rfl

/-- Two descriptors, each in its own store on one host, for one target with the same file. -/
structure Twins (s : Store) (d : Nat) (t : Store) (d' : Nat) (target : Target) : Prop where
  platform : t.platform = s.platform
  left : s.target d = .ok target
  right : t.target d' = .ok target
  object : ∀ id, target = .file id → t.files.find? id = s.files.find? id

namespace Twins

theorem read (twins : Twins s d t d' target) (offset length : Nat) :
    t.read d' offset length = s.read d offset length := by
  have same : t.answers d' offset length = s.answers d offset length := by
    rw [answers, answers, twins.left, twins.right]
    cases target with
    | file id => simp only [content, twins.object id rfl]
    | nullDevice => rfl
  rw [Store.read, Store.read, same]

theorem writing (twins : Twins s d t d' (.file id)) (offset : Nat) (data : List UInt8) :
    t.writing id offset data = s.writing id offset data := by
  rw [Store.writing, Store.writing, twins.platform, content, content, twins.object id rfl]

theorem write (twins : Twins s d t d' target) (offset : Nat) (data : List UInt8) :
    (t.write d' offset data).1 = (s.write d offset data).1 := by
  unfold Store.write
  rw [twins.left, twins.right]
  split
  · rfl
  · simp only []
    split
    · rfl
    · cases target with
      | file id => exact congrArg Writing.result (twins.writing offset data)
      | nullDevice => rfl

theorem taken (twins : Twins s d t d' target) (offset : Nat) (data : List UInt8) :
    t.taken d' offset data = s.taken d offset data := by
  unfold Store.taken
  rw [twins.left, twins.right]
  cases target with
  | file id => simp only [twins.writing offset data]
  | nullDevice => rfl

theorem setLength (twins : Twins s d t d' target) (length : Nat) :
    (t.setLength d' length).1 = (s.setLength d length).1 := by
  unfold Store.setLength
  rw [twins.left, twins.right]
  split
  · rfl
  · cases target with
    | file id =>
      simp only [twins.platform]
      split <;> rfl
    | nullDevice => rfl

end Twins

theorem admits_congr (platform : t.platform = s.platform)
    (object : ∀ id, target = .file id → t.files.find? id = s.files.find? id) (access : Access) :
    t.admits access target = s.admits access target := by
  cases target with
  | file id => simp only [admits, mayOpen, mode, platform, object id rfl]
  | nullDevice => rfl

theorem create_target (here : s.node name = .ok target.node) (mode : Nat) :
    (s.create name mode false).1 =
      if s.admits .readWrite target then .ok s.nextDescriptor else .error .denied := by
  unfold Store.create
  rw [node_ok.1 here]
  cases target with
  | file id =>
    have same : s.admits .readWrite (.file id) = s.mayOpen id .readWrite := rfl
    rw [same]
    simp only [Target.node, Bool.false_eq_true, if_false]
    cases s.mayOpen id .readWrite <;> rfl
  | nullDevice => rfl

theorem remove_target (here : s.node name = .ok target.node) : (s.remove name).1 = .ok () := by
  unfold remove
  rw [here]
  cases target <;> rfl

theorem truncate_target (here : s.node name = .ok target.node) (length : Nat) :
    (s.truncate name length).1 =
      if s.admits .writeOnly target then
        ((s.register target).2.setLength s.nextDescriptor length).1
      else .error .denied := by
  unfold truncate
  cases admitted : s.admits .writeOnly target with
  | true => rw [openFor_target here admitted, if_pos rfl]
  | false => rw [openFor_denied here admitted, if_neg Bool.false_ne_true]

theorem attributes_target (here : s.node name = .ok target.node)
    (there : t.node name = .ok target.node)
    (object : ∀ id, target = .file id → t.files.find? id = s.files.find? id) :
    t.attributes name = s.attributes name := by
  rw [attributes, attributes, here, there]
  cases target with
  | file id => simp only [Target.node, content, mode, object id rfl]
  | nullDevice => rfl

end Store

end PatternFs
