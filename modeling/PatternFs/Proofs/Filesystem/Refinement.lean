import PatternFs.Proofs.Filesystem.Failures
import PatternFs.Proofs.Filesystem.Texts

/-! A mount that has its backing directory to itself shows its clients byte strings: what they read,
the size they are told and the real file are all read off the text that the operations tell. -/
namespace PatternFs.Filesystem

variable {fs : Filesystem} {path : Path} {e : Entry} {text : List UInt8}

theorem Linked.told (linked : fs.Linked) (found : fs.catalog.find? path = some e)
    (kind : e.kind = .delegated) :
    ∃ id, fs.AnchoredAt path e.descriptor? (.file id) ∧
      fs.texts path = some (fs.store.content id).bytes := by
  obtain ⟨id, at'⟩ := linked.file found kind
  exact ⟨id, at', (texts_delegated found kind).trans (Store.text?_of_fileAt? at'.fileAt?)⟩

/-- The descriptor and the name lead to the same file, so it does not matter which one is read. Only
a file that nobody has open may be refused. -/
theorem AnchoredAt.read {id offset length : Nat}
    (at' : fs.AnchoredAt path e.descriptor? (.file id)) (own : e.path = path)
    (found : fs.catalog.find? path = some e) (kind : e.kind = .delegated)
    (inside : offset + length < Content.limit) :
    (fs.read path offset length).1 =
      if e.isOpen || fs.store.mayOpen id .readWrite then
        .ok ((fs.store.content id).slice offset length)
      else .error (.host .denied) := by
  cases holding : e.holding? with
  | some h =>
    have open' := at'.held h.descriptor (by rw [Entry.descriptor?, holding]; rfl)
    simp only [Entry.isOpen, holding, Option.isSome_some, Bool.true_or, if_true]
    exact (Reached.held holding open').read found kind inside
  | none =>
    obtain ⟨real, there⟩ := at'.real
    have node := at'.node
    rw [← own] at there node
    simp only [Entry.isOpen, holding, Option.isSome_none, Bool.false_or]
    split
    · next may =>
      have reached : fs.Reached e (.file id) fs.store.passed := .transient holding there node may
      exact reached.read found kind inside
    · next refused =>
      have denied : fs.store.admits .readWrite (.file id) = false := by
        simpa [Store.admits] using refused
      simp only [Filesystem.read, find, found, kind, withDescriptor, holding, openReal, there,
        onStore, Store.openExisting, Store.openFor_denied node denied]
      rfl

theorem Linked.read (linked : fs.Linked) (found : fs.catalog.find? path = some e)
    (kind : e.kind = .delegated) (told : fs.texts path = some text) {id : Nat}
    (node : fs.store.node path.name = .ok (.file id)) {offset length : Nat}
    (inside : offset + length < Content.limit) :
    (fs.read path offset length).1 =
      if e.isOpen || fs.store.mayOpen id .readWrite then .ok ((text.drop offset).take length)
      else .error (.host .denied) := by
  obtain ⟨other, at', same⟩ := linked.told found kind
  cases Except.ok.inj (at'.node.symm.trans node)
  rw [told] at same
  cases same
  rw [at'.read (linked.sound.formed.own path e found) found kind inside, Content.slice_eq]

theorem Linked.getAttributes (linked : fs.Linked) (found : fs.catalog.find? path = some e)
    (kind : e.kind = .delegated) (told : fs.texts path = some text) :
    ∃ a, fs.getAttributes path = .ok a ∧ a.extent?.map Extent.size = some text.length := by
  obtain ⟨id, at', same⟩ := linked.told found kind
  rw [told] at same
  cases same
  obtain ⟨real, there⟩ := at'.real
  have named := at'.node
  have file : path.pathClass ≠ .root := linked.sound.pathClass_ne found
  simp only [Filesystem.getAttributes, if_neg file, find, found, kind, there, Store.attributes,
    named]
  exact ⟨_, rfl, by rw [Content.length_bytes]; rfl⟩

theorem Linked.outsideRead (linked : fs.Linked) (found : fs.catalog.find? path = some e)
    (kind : e.kind = .delegated) (told : fs.texts path = some text) :
    fs.store.outsideRead path.name = .ok text := by
  obtain ⟨id, at', same⟩ := linked.told found kind
  rw [told] at same
  cases same
  exact Store.outsideRead_file (Path.isComponent_name (linked.isTopLevel found)) at'.node

/-- What is told after a run, where each operation tells by the state that it meets. -/
def retold {α : Type} (tell : Filesystem → Told α → Operation → Told α) :
    List (Platform × Operation) → Filesystem → Told α → Told α
  | [], _, facts => facts
  | (platform, op) :: rest, fs, facts =>
    retold tell rest ((fs.on platform).perform op).2 (tell (fs.on platform) facts op)

/-- Only an operation that works tells anything. -/
def worked {α : Type} (tell : Told α → Operation → Told α) (fs : Filesystem) (facts : Told α)
    (op : Operation) : Told α :=
  Told.after tell facts op (fs.perform op).1

/-- An operation that works tells what it asked for, and one that fails what is left of it. -/
def tellTexts (fs : Filesystem) (texts : Texts) (op : Operation) : Texts :=
  texts.after op (fs.front op) (fs.perform op).1

theorem Linked.perform (linked : fs.Linked) (op : Operation) :
    (fs.perform op).2.Linked ∧ (fs.perform op).2.texts = fs.tellTexts fs.texts op := by
  have step := transition_perform linked.sound.formed linked.sound.numbered op
  exact ⟨step.linked linked, step.texts linked⟩

theorem Linked.executeOn (linked : fs.Linked) (run : List (Platform × Operation)) :
    (executeOn run fs).Linked ∧ (executeOn run fs).texts = retold tellTexts run fs fs.texts := by
  induction run generalizing fs with
  | nil => exact ⟨linked, rfl⟩
  | cons met rest ih =>
    obtain ⟨platform, op⟩ := met
    obtain ⟨next', same⟩ := (linked.on platform).perform op
    obtain ⟨last, told⟩ := ih next'
    rw [same] at told
    exact ⟨last, told⟩

theorem linked_start (backingDirectory : String) (fallback : Fallback) {store : Store}
    (unopened : store.descriptors = .empty) (plain : store.Plain) :
    (start backingDirectory fallback store).Linked :=
  ⟨.start unopened plain.toSeparate, plain.noDevice⟩

/-- After any run on a directory of separate files that nobody else touches, whatever the host makes
of each operation, each live delegated file has one text: clients are told its length, the real file
holds it, and clients read slices of it, unless the file is closed and the process may not open
it. -/
theorem texts_of_run (backingDirectory : String) (fallback : Fallback) {store : Store}
    (unopened : store.descriptors = .empty) (plain : store.Plain)
    (run : List (Platform × Operation)) :
    let first := start backingDirectory fallback store
    let fs := executeOn run first
    let texts := retold tellTexts run first fun _ => none
    (∀ path e, fs.catalog.find? path = some e → e.kind = .delegated →
      ∃ id text, fs.store.node path.name = .ok (.file id) ∧ texts path = some text ∧
        (∀ platform offset length, offset + length < Content.limit →
          ((fs.on platform).read path offset length).1 =
            if e.isOpen || (fs.on platform).store.mayOpen id .readWrite then
              .ok ((text.drop offset).take length)
            else .error (.host .denied)) ∧
        (∃ a, fs.getAttributes path = .ok a ∧ a.extent?.map Extent.size = some text.length) ∧
        fs.store.outsideRead path.name = .ok text) ∧
      ∀ path text, texts path = some text →
        ∃ e, fs.catalog.find? path = some e ∧ e.kind = .delegated := by
  intro first fs texts
  obtain ⟨linked, told⟩ := (linked_start backingDirectory fallback unopened plain).executeOn run
  have same : fs.texts = texts := told
  rw [← same]
  constructor
  · intro path e found kind
    obtain ⟨id, at', text⟩ := linked.told found kind
    have reads (platform : Platform) (offset length : Nat) :=
      @Linked.read _ _ _ _ (linked.on platform) found kind text id at'.node offset length
    exact ⟨id, _, at'.node, text, reads, linked.getAttributes found kind text,
      linked.outsideRead found kind text⟩
  · intro path text told
    obtain ⟨_, live, -⟩ := Option.bind_eq_some_iff.1 told
    obtain ⟨e, found, kind⟩ := Option.bind_eq_some_iff.1 live
    refine ⟨e, found, ?_⟩
    by_cases delegated : e.kind = .delegated
    · exact delegated
    · rw [Entry.delegated?, if_neg delegated] at kind
      cases kind

/-- A file that was there is emptied, written to beyond its end, written to until the host has had
enough, moved and closed. -/
theorem texts_of_moved_file :
    let old : Path := ⟨["a.mhash"], by simp [IsComponent]⟩
    let new : Path := ⟨["b.mhash"], by simp [IsComponent]⟩
    let fs := executeOn [(.common, .create old 0o644 (.ofBits 7)), (.common, .write old 2 [7]),
      (.limited 4, .write old 3 [8, 9]), (.common, .rename old new), (.common, .release new)]
      (start "/d" .counter (.ofFiles [("a.mhash", ⟨.ofBytes [1, 2, 3], 0o600⟩)]))
    ((fs.on .common).read new 1 9).1 = .ok [0, 7, 8] ∧
      fs.store.outsideRead "b.mhash" = .ok [0, 0, 7, 8] := by
  intro old new fs
  obtain ⟨texts, -⟩ := texts_of_run "/d" .counter
    (Store.descriptors_ofFiles [("a.mhash", ⟨.ofBytes [1, 2, 3], 0o600⟩)]) (Store.plain_ofFiles _)
    [(.common, .create old 0o644 (.ofBits 7)), (.common, .write old 2 [7]),
      (.limited 4, .write old 3 [8, 9]), (.common, .rename old new), (.common, .release new)]
  have found : fs.catalog.find? new = some ⟨new, .delegated, 3, .zero, none, 1⟩ := by
    decide +kernel
  obtain ⟨id, text, -, told, reads, -, real⟩ := texts new _ found rfl
  have same : some text = some [0, 0, 7, 8] := told.symm.trans (by decide +kernel)
  cases same
  have read := reads .common 1 9 (by decide)
  exact ⟨read.trans (if_pos rfl), real⟩

/-- Three ways to a text that the operations that worked do not tell: a write that failed after the
host had taken a part of it, a file that is closed and that its owner may not write to, and two
names of one file. -/
theorem untold_by_operations :
    let path : Path := ⟨["a.mhash"], by simp [IsComponent]⟩
    let twin : Path := ⟨["b.mhash"], by simp [IsComponent]⟩
    let create (path : Path) (mode : Nat) := Operation.create path mode (.ofBits 6)
    let bound : Platform := { Platform.common with overrides := false }
    let first := start "/d" .counter .empty
    let full := [(Platform.limited 2, create path 0o644), (.limited 2, .write path 0 [1, 2, 3, 4])]
    let closed :=
      [(bound, create path 0o444), (bound, .write path 0 [1, 2]), (bound, .release path)]
    let names := ((Table.empty.insert "a.mhash" (Node.file 0)).insert "b.mhash" (Node.file 0))
    let linked := start "/d" .counter { Store.ofFiles [("a.mhash", ⟨.empty, 0o644⟩)] with names }
    let shared := [(Platform.common, create path 0o644), (.common, create twin 0o644),
      (.common, .write path 0 [1, 2])]
    let told := retold (worked Texts.told)
    (told full first (fun _ => none) path = some [] ∧
        (executeOn full first).store.outsideRead "a.mhash" = .ok [1, 2]) ∧
      (told closed first (fun _ => none) path = some [1, 2] ∧
        ((executeOn closed first).read path 0 2).1.toOption = none) ∧
      told shared linked (fun _ => none) twin = some [] ∧
        ((executeOn shared linked).read twin 0 2).1.toOption = some [1, 2] := by
  intro path twin create bound first full closed names linked shared told
  refine ⟨⟨?_, ok_of_toOption ?_⟩, ⟨?_, ?_⟩, ?_, ?_⟩ <;> decide +kernel

end PatternFs.Filesystem
