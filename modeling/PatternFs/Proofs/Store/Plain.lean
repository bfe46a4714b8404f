import PatternFs.Proofs.Content.Text
import PatternFs.Proofs.Store.Outcomes

/-! A backing directory in which no two names stand for one file, and what each change makes of the
texts under the names. A mount meets no other kind when nobody else touches the directory. -/
namespace PatternFs

def Node.file? : Node → Option Nat
  | .file id => some id
  | _ => none

namespace Store

variable {s t : Store} {name other : String} {id : Nat}

/-- The file that a name stands for. -/
def fileAt? (s : Store) (name : String) : Option Nat := (s.names.find? name).bind Node.file?

/-- The bytes that can be read under a name. -/
def text? (s : Store) (name : String) : Option (List UInt8) :=
  (s.fileAt? name).map fun id => (s.content id).bytes

/-- Different names stand for different files. -/
structure Separate (s : Store) : Prop where
  known : ∀ name id, s.fileAt? name = some id → ∃ object, s.files.find? id = some object
  own : ∀ name other id, s.fileAt? name = some id → s.fileAt? other = some id → name = other
  fresh : ∀ id, s.nextFile ≤ id → s.files.find? id = none

/-- No name leads to the device either. -/
structure Plain (s : Store) : Prop extends s.Separate where
  noDevice : ∀ name, s.names.find? name ≠ some .nullDevice

theorem fileAt?_iff : s.fileAt? name = some id ↔ s.names.find? name = some (.file id) := by
  constructor
  · intro here
    obtain ⟨node, found, file⟩ := Option.bind_eq_some_iff.1 here
    cases node <;> cases file
    exact found
  · intro found
    rw [fileAt?, found]
    rfl

theorem node_file :
    s.node name = .ok (.file id) ↔ s.Accessible name ∧ s.fileAt? name = some id := by
  rw [node_iff, fileAt?_iff]

theorem text?_of_fileAt? (here : s.fileAt? name = some id) :
    s.text? name = some (s.content id).bytes := by
  rw [text?, here]
  rfl

structure SameFiles (s t : Store) : Prop where
  names : t.names = s.names
  files : t.files = s.files
  nextFile : t.nextFile = s.nextFile
  blocked : t.blocked? = s.blocked?
  platform : t.platform = s.platform

namespace SameFiles

theorem refl (s : Store) : s.SameFiles s := ⟨rfl, rfl, rfl, rfl, rfl⟩

theorem trans {u : Store} (first : s.SameFiles t) (second : t.SameFiles u) : s.SameFiles u :=
  ⟨second.names.trans first.names, second.files.trans first.files,
    second.nextFile.trans first.nextFile, second.blocked.trans first.blocked,
    second.platform.trans first.platform⟩

theorem find? (same : s.SameFiles t) : t.names.find? name = s.names.find? name := by
  rw [same.names]

theorem fileAt? (same : s.SameFiles t) : t.fileAt? name = s.fileAt? name := by
  rw [Store.fileAt?, Store.fileAt?, same.names]

theorem content (same : s.SameFiles t) : t.content id = s.content id := by
  rw [Store.content, Store.content, same.files]

theorem text? (same : s.SameFiles t) : t.text? name = s.text? name := by
  simp only [Store.text?, same.fileAt?, same.content]

theorem accessible (same : s.SameFiles t) (accessible : s.Accessible name) : t.Accessible name :=
  ⟨accessible.speakable, same.blocked.trans accessible.unblocked, accessible.short⟩

theorem separate (same : s.SameFiles t) (separate : s.Separate) : t.Separate where
  known name id here := by
    rw [same.fileAt?] at here
    rw [same.files]
    exact separate.known name id here
  own name other id here there := by
    rw [same.fileAt?] at here there
    exact separate.own name other id here there
  fresh id unknown := by
    rw [same.nextFile] at unknown
    rw [same.files]
    exact separate.fresh id unknown

end SameFiles

theorem sameFiles_register (s : Store) (target : Target) : s.SameFiles (s.register target).2 :=
  ⟨rfl, rfl, rfl, rfl, rfl⟩

theorem sameFiles_passed (s : Store) : s.SameFiles s.passed := ⟨rfl, rfl, rfl, rfl, rfl⟩

theorem sameFiles_release (s : Store) (d : Nat) : s.SameFiles (s.release d) := by
  unfold release
  split <;> exact ⟨rfl, rfl, rfl, rfl, rfl⟩

theorem sameFiles_releaseAll (s : Store) (ds : List Nat) : s.SameFiles (s.releaseAll ds) := by
  induction ds generalizing s with
  | nil => exact .refl s
  | cons d rest ih => exact (sameFiles_release s d).trans (ih (s.release d))

theorem separate_changeContent (separate : s.Separate) (id : Nat) (f : Content → Content) :
    (s.changeContent id f).Separate where
  known name other here := by
    obtain ⟨object, found⟩ := separate.known name other here
    simp only [changeContent, Table.find?_modify]
    split
    · next eq => exact ⟨_, by rw [← eq, found]; rfl⟩
    · exact ⟨object, found⟩
  own := separate.own
  fresh other unknown := by
    have absent := separate.fresh other unknown
    simp only [changeContent, Table.find?_modify]
    split
    · next eq => rw [← eq, absent]; rfl
    · exact absent

theorem separate_written (separate : s.Separate) (target : Target) (offset : Nat)
    (data : List UInt8) : (s.written target offset data).Separate := by
  cases target with
  | file id => exact separate_changeContent separate id (·.splice offset data)
  | nullDevice => exact separate

theorem text?_changeContent (separate : s.Separate) (here : s.fileAt? name = some id)
    {f : Content → Content} {g : List UInt8 → List UInt8} (agree : ∀ c, (f c).bytes = g c.bytes)
    (other : String) :
    (s.changeContent id f).text? other =
      if other = name then (s.text? name).map g else s.text? other := by
  obtain ⟨object, known⟩ := separate.known name id here
  have contents (other : Nat) := content_changeContent s id other f (by rw [known]; rfl)
  have files : (s.changeContent id f).fileAt? other = s.fileAt? other := rfl
  split
  · next eq =>
    subst eq
    rw [text?, files, text?, here, Option.map_some, contents, if_pos rfl, agree]
    rfl
  · next different =>
    rw [text?, files, text?]
    cases there : s.fileAt? other with
    | none => rfl
    | some otherId =>
      have apart : otherId ≠ id := by
        rintro rfl
        exact different (separate.own other name otherId there here)
      rw [Option.map_some, contents, if_neg apart]
      rfl

/-- The store with a file more, under `name`. -/
def withFile (s : Store) (name : String) (object : FileObject) : Store :=
  { s with
    names := s.names.insert name (.file s.nextFile)
    files := s.files.insert s.nextFile object
    nextFile := s.nextFile + 1 }

theorem addFile_eq (s : Store) (name : String) (mode : Nat) :
    (s.addFile name mode).2 = s.withFile name ⟨.empty, createdMode mode⟩ := rfl

variable {object : FileObject}

theorem fileAt?_withFile (other : String) :
    (s.withFile name object).fileAt? other =
      if other = name then some s.nextFile else s.fileAt? other := by
  rw [fileAt?, withFile, Table.find?_insert]
  split <;> rfl

theorem files_withFile (id : Nat) :
    (s.withFile name object).files.find? id =
      if id = s.nextFile then some object else s.files.find? id :=
  Table.find?_insert _ _ _ _

theorem content_withFile (id : Nat) :
    (s.withFile name object).content id =
      if id = s.nextFile then object.content else s.content id := by
  rw [content, files_withFile]
  split <;> rfl

theorem Separate.old (separate : s.Separate) (here : s.fileAt? other = some id) :
    id ≠ s.nextFile := by
  rintro rfl
  obtain ⟨object, known⟩ := separate.known other _ here
  rw [separate.fresh _ (Nat.le_refl _)] at known
  cases known

theorem separate_withFile (separate : s.Separate) (name : String) (object : FileObject) :
    (s.withFile name object).Separate where
  known other id here := by
    rw [fileAt?_withFile] at here
    split at here
    · cases here; exact ⟨object, (files_withFile _).trans (if_pos rfl)⟩
    · rw [files_withFile, if_neg (separate.old here)]
      exact separate.known other id here
  own first second id here there := by
    rw [fileAt?_withFile] at here there
    split at here <;> split at there
    · next eq eq' => exact eq.trans eq'.symm
    · cases here; exact absurd rfl (separate.old there)
    · cases there; exact absurd rfl (separate.old here)
    · exact separate.own first second id here there
  fresh id unknown := by
    have beyond : s.nextFile + 1 ≤ id := unknown
    rw [files_withFile, if_neg (by omega)]
    exact separate.fresh id (by omega)

theorem plain_withFile (plain : s.Plain) (name : String) (object : FileObject) :
    (s.withFile name object).Plain where
  toSeparate := separate_withFile plain.toSeparate name object
  noDevice other device := by
    rw [withFile, Table.find?_insert] at device
    split at device
    · cases device
    · exact plain.noDevice other device

theorem text?_withFile (separate : s.Separate) (name : String) (object : FileObject)
    (other : String) :
    (s.withFile name object).text? other =
      if other = name then some object.content.bytes else s.text? other := by
  rw [text?, fileAt?_withFile]
  split
  · rw [Option.map_some, content_withFile, if_pos rfl]
  · cases here : s.fileAt? other with
    | none => rw [text?, here]; rfl
    | some id =>
      rw [Option.map_some, content_withFile, if_neg (separate.old here), text?_of_fileAt? here]

/-- A directory with nothing but files, of any contents. -/
def ofFiles (files : List (String × FileObject)) : Store :=
  files.foldl (fun s file => s.withFile file.1 file.2) empty

theorem separate_empty : empty.Separate where
  known _ _ here := by cases here
  own _ _ _ here := by cases here
  fresh _ _ := rfl

theorem plain_ofFiles (files : List (String × FileObject)) : (ofFiles files).Plain := by
  have empty : Store.empty.Plain := ⟨separate_empty, nofun⟩
  unfold ofFiles
  generalize Store.empty = s at empty
  induction files generalizing s with
  | nil => exact empty
  | cons file rest ih => exact ih _ (plain_withFile empty file.1 file.2)

theorem descriptors_ofFiles (files : List (String × FileObject)) :
    (ofFiles files).descriptors = .empty := by
  have empty : Store.empty.descriptors = .empty := rfl
  unfold ofFiles
  generalize Store.empty = s at empty
  induction files generalizing s with
  | nil => exact empty
  | cons file rest ih => exact ih _ empty

/-- A change of a file; the device has nothing that could change. -/
def changeTarget (s : Store) (target : Target) (f : Content → Content) : Store :=
  match target with
  | .file id => s.changeContent id f
  | .nullDevice => s

theorem names_changeTarget (s : Store) (target : Target) (f : Content → Content) :
    (s.changeTarget target f).names = s.names := by
  cases target <;> rfl

theorem platform_changeTarget (s : Store) (target : Target) (f : Content → Content) :
    (s.changeTarget target f).platform = s.platform := by
  cases target <;> rfl

theorem Made.names {mode : Nat} {target : Target} (made : s.Made name mode target t)
    (different : other ≠ name) : t.names.find? other = s.names.find? other := by
  cases made with
  | fresh => exact Table.find?_insert_other _ _ different
  | emptied | device => rfl

theorem Made.separate {mode : Nat} {target : Target} (made : s.Made name mode target t)
    (separate : s.Separate) : t.Separate := by
  cases made with
  | fresh => exact separate_withFile separate name _
  | emptied => exact separate_changeContent separate _ _
  | device => exact separate

theorem Made.noDevice {mode : Nat} {target : Target} (made : s.Made name mode target t)
    (noDevice : ∀ name, s.names.find? name ≠ some .nullDevice) (other : String) :
    t.names.find? other ≠ some .nullDevice := by
  cases made with
  | fresh =>
    rw [addFile_eq, withFile, Table.find?_insert]
    split
    · simp
    · exact noDevice other
  | emptied | device => exact noDevice other

theorem Made.text? {mode : Nat} {target : Target} (made : s.Made name mode target t)
    (plain : s.Plain) (other : String) :
    t.text? other = if other = name then some [] else s.text? other := by
  cases made with
  | fresh free => exact text?_withFile plain.toSeparate name _ other
  | emptied found =>
    have here := fileAt?_iff.2 (find_ok.1 found).2
    have emptied : ∀ c : Content, (c.resize 0).bytes = (fun _ => []) c.bytes := fun _ => rfl
    rw [text?_changeContent (g := fun _ => []) plain.toSeparate here emptied,
      text?_of_fileAt? here]
    rfl
  | device found => exact absurd (find_ok.1 found).2 (plain.noDevice name)

/-- The store in which the name `old` has become `new`, and stands for what it stood for. -/
def renamed (s : Store) (old new : String) (node : Node) : Store :=
  { s with names := (s.names.erase old).insert new node }

theorem fileAt?_renamed {old new : String} {node : Node} (here : s.names.find? old = some node)
    (other : String) :
    (s.renamed old new node).fileAt? other =
      if other = new then s.fileAt? old
      else if other = old then none
      else s.fileAt? other := by
  rw [fileAt?, fileAt?, here, renamed, Table.find?_insert, Table.find?_erase]
  split
  · rfl
  · split <;> rfl

/-- What stands for a file under the new name stood for it under the old one. -/
theorem separate_renamed {old new : String} {node : Node} (separate : s.Separate)
    (here : s.names.find? old = some node) : (s.renamed old new node).Separate where
  known name other found := by
    rw [fileAt?_renamed here] at found
    split at found
    · exact separate.known old other found
    · split at found
      · cases found
      · exact separate.known name other found
  own first second other found found' := by
    rw [fileAt?_renamed here] at found found'
    split at found <;> split at found'
    · next eq eq' => exact eq.trans eq'.symm
    · split at found'
      · cases found'
      · next notOld => exact absurd (separate.own second old other found' found) notOld
    · split at found
      · cases found
      · next notOld => exact absurd (separate.own first old other found found') notOld
    · split at found
      · cases found
      · split at found'
        · cases found'
        · exact separate.own first second other found found'
  fresh := separate.fresh

theorem text?_renamed {old : String} (new : String) {node : Node}
    (here : s.names.find? old = some node) (other : String) :
    (s.renamed old new node).text? other =
      if other = new then s.text? old
      else if other = old then none
      else s.text? other := by
  rw [text?, fileAt?_renamed here]
  split
  · rfl
  · split <;> rfl

def unnamed (s : Store) (name : String) : Store := { s with names := s.names.erase name }

theorem fileAt?_unnamed (s : Store) (name other : String) :
    (s.unnamed name).fileAt? other = if other = name then none else s.fileAt? other := by
  rw [fileAt?, unnamed, Table.find?_erase]
  split <;> rfl

theorem separate_unnamed (separate : s.Separate) (name : String) :
    (s.unnamed name).Separate where
  known other id found := by
    rw [fileAt?_unnamed] at found
    split at found
    · cases found
    · exact separate.known other id found
  own first second id found found' := by
    rw [fileAt?_unnamed] at found found'
    split at found
    · cases found
    · split at found'
      · cases found'
      · exact separate.own first second id found found'
  fresh := separate.fresh

theorem text?_unnamed (s : Store) (name other : String) :
    (s.unnamed name).text? other = if other = name then none else s.text? other := by
  rw [text?, fileAt?_unnamed]
  split <;> rfl

end Store

end PatternFs
