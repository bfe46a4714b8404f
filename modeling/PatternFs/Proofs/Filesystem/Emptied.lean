import PatternFs.Proofs.Filesystem.Descriptors

/-! What clients read of a file that was just emptied. An open that empties works on the descriptor
that the entry holds, and so does a read; a truncation and a creation empty what has the name. It
is the same file as long as nobody else takes the name away. A held file that lost its name keeps
its bytes when the name is emptied, and clients go on reading them. -/
namespace PatternFs

open Filesystem (newFileClass newFileClass_ok)

/-- The path whose file is empty when the operation has worked. -/
def Operation.empties? : Operation → Option Path
  | .create path _ flags => if flags.isExclusiveCreate then none else some path
  | .openFile path flags => if flags.truncate then some path else none
  | .truncate path length => if length = 0 then some path else none
  | _ => none

namespace Operation

variable {op : Operation} {path : Path}

theorem looks_of_empties? (empties : op.empties? = some path) : op.looks = false := by
  cases op <;> first | rfl | cases empties

end Operation

theorem Reading.eq_nil_of_silent {length : Nat} {a : Answer} {data : List UInt8}
    (silent : ∀ chunk, a = .bytes chunk → chunk = [])
    (got : (run length [a]).result = .ok data) : data = [] := by
  unfold run start at got
  split at got
  · cases got
    rfl
  · cases a with
    | bytes chunk =>
      obtain rfl := silent chunk rfl
      cases got
      rfl
    | interrupted =>
      cases got
      rfl
    | failed e => cases got

namespace Store

variable {s t : Store} {name : String} {d id : Nat}

theorem content_changeContent_other (s : Store) {id other : Nat} (different : other ≠ id)
    (f : Content → Content) : (s.changeContent id f).content other = s.content other := by
  rw [content, content, changeContent, Table.find?_modify, if_neg different]

theorem size_emptied (s : Store) (id : Nat) :
    ((s.changeContent id (·.resize 0)).content id).size = 0 := by
  rw [content, changeContent, Table.find?_modify, if_pos rfl]
  cases s.files.find? id <;> rfl

theorem known_of_size (some' : (s.content id).size ≠ 0) : s.files.find? id ≠ none := by
  intro absent
  rw [content, absent] at some'
  exact some' rfl

theorem answers_cases (s : Store) (d offset length : Nat) :
    (∃ a, s.answers d offset length = [a] ∧ ∀ chunk, a = .bytes chunk → chunk = []) ∨
      ∃ id, s.target d = .ok (.file id) ∧ offset + length < Content.limit := by
  unfold answers
  split
  · exact .inl ⟨_, rfl, fun chunk impossible => by cases impossible⟩
  · next target open' =>
    split
    · exact .inl ⟨_, rfl, fun chunk impossible => by cases impossible⟩
    · next inside =>
      cases target with
      | file id => exact .inr ⟨id, open', Nat.not_le.1 inside⟩
      | nullDevice => exact .inl ⟨_, rfl, fun chunk same => by cases same; rfl⟩

/-- What a read brings, where it brings anything. -/
theorem read_ok {offset length : Nat} {data : List UInt8}
    (got : s.read d offset length = .ok data) :
    data = [] ∨ ∃ id, s.target d = .ok (.file id) ∧ data = (s.content id).slice offset length := by
  rcases s.answers_cases d offset length with ⟨a, only, silent⟩ | ⟨id, open', inside⟩
  · rw [read, only] at got
    exact .inl (Reading.eq_nil_of_silent silent got)
  · rw [read_file open' inside] at got
    cases got
    exact .inr ⟨id, open', rfl⟩

/-- What had the name has no bytes any more, and what still has some is what it was. -/
structure Cleared (s t : Store) (name : String) : Prop where
  blank : ∀ id, t.fileAt? name = some id → (t.content id).size = 0
  named : ∀ id, s.fileAt? name = some id → t.fileAt? name = some id
  kept : ∀ id, (t.content id).size ≠ 0 → t.content id = s.content id
  /-- The number of a new file is one that no file has. -/
  apart : s.files.find? s.nextFile = none → ∀ id, s.fileAt? name ≠ some id →
    (s.content id).size ≠ 0 → t.fileAt? name ≠ some id ∧ t.content id = s.content id

theorem cleared_emptied (here : s.fileAt? name = some id) :
    s.Cleared (s.changeContent id (·.resize 0)) name where
  blank other there := by
    cases here.symm.trans there
    exact size_emptied s id
  named _ there := there
  kept other some' := by
    by_cases same : other = id
    · rw [same] at some'
      exact absurd (size_emptied s id) some'
    · exact content_changeContent_other s same _
  apart _ other away _ := by
    refine ⟨away, content_changeContent_other s ?_ _⟩
    rintro rfl
    exact away here

theorem Cleared.sameFiles {u : Store} (cleared : s.Cleared t name) (same : t.SameFiles u) :
    s.Cleared u name := by
  have content (id : Nat) : u.content id = t.content id := same.content
  constructor
  all_goals
    simp only [same.fileAt?, content]
  · exact cleared.blank
  · exact cleared.named
  · exact cleared.kept
  · exact cleared.apart

theorem Made.cleared {mode : Nat} {target : Target} (made : s.Made name mode target t) :
    s.Cleared t name := by
  cases made with
  | fresh free =>
    have before : s.fileAt? name = none := by rw [fileAt?, (find_ok.1 free).2]; rfl
    rw [addFile_eq]
    refine ⟨fun id there => ?_, fun id there => ?_, fun id some' => ?_, fun unused id _ some' => ?_⟩
    · rw [fileAt?_withFile, if_pos rfl] at there
      cases there
      rw [content_withFile, if_pos rfl]
      rfl
    · cases before.symm.trans there
    · rw [content_withFile] at some' ⊢
      split at some'
      · exact absurd rfl some'
      · next old => exact if_neg old
    · have old : id ≠ s.nextFile := by
        rintro rfl
        exact known_of_size some' unused
      rw [fileAt?_withFile, if_pos rfl, content_withFile, if_neg old]
      exact ⟨fun same => old (Option.some.inj same).symm, rfl⟩
  | emptied found => exact cleared_emptied (fileAt?_iff.2 (find_ok.1 found).2)
  | device found =>
    have nothing : s.fileAt? name = none := by rw [fileAt?, (find_ok.1 found).2]; rfl
    refine ⟨fun id there => ?_, fun _ there => there, fun _ _ => rfl, fun _ _ away _ => ⟨away, rfl⟩⟩
    cases nothing.symm.trans there

end Store

namespace Filesystem

variable {fs base after : Filesystem} {path : Path} {e : Entry} {op : Operation} {id : Nat}
  {store : Store} {reply : Reply}

theorem worked_of_isSome {r : Except Failure Reply} (some' : r.toOption.isSome) :
    ∃ reply, r = .ok reply := by
  cases r with
  | error f => cases some'
  | ok reply => exact ⟨reply, rfl⟩

theorem class_of_place {kind other : EntryClass} (class' : path.entryClass? = some kind)
    (place : newFileClass path = .ok other) : other = kind := by
  have known := (newFileClass_ok.1 place).1
  rw [class'] at known
  exact (Option.some.inj known).symm

theorem Sound.kind_of_class (sound : fs.Sound) {kind : EntryClass}
    (class' : path.entryClass? = some kind) (found : fs.catalog.find? path = some e) :
    e.kind = kind := class_of_place class' (sound.formed.place found)

theorem read_ok {offset length : Nat} {data : List UInt8}
    (found : fs.catalog.find? path = some e) (kind : e.kind = .delegated)
    (got : (fs.read path offset length).1 = .ok data) :
    data = [] ∨ ∃ id store, fs.Reached e (.file id) store ∧
      data = (fs.store.content id).slice offset length := by
  simp only [Filesystem.read, find, found, kind] at got
  cases result : fs.withDescriptor e fun d store => (store.read d offset length, store) with
  | mk r base =>
    rw [result] at got
    rcases withDescriptor_cases result with ⟨⟨f, failed⟩, -⟩ |
      ⟨h, r, store, held, same, mapped, -⟩ |
      ⟨target, real, r, store, closed, there, here, admitted, same, mapped, -⟩
    · cases failed.symm.trans got
    · have done := mapError_ok (got.symm.trans mapped)
      cases same
      rcases Store.read_ok done with nothing | ⟨id, open', brought⟩
      · exact .inl nothing
      · exact .inr ⟨id, _, .held held open', brought⟩
    · have done := mapError_ok (got.symm.trans mapped)
      cases same
      rcases Store.read_ok done with nothing | ⟨id, open', brought⟩
      · exact .inl nothing
      · rw [Store.target_register] at open'
        cases open'
        exact .inr ⟨id, _, .transient closed there here admitted, brought⟩

/-- Every successful read from the start brings nothing. -/
def ReadsNothing (fs : Filesystem) (path : Path) : Prop :=
  ∀ length data, (fs.read path 0 length).1 = .ok data → data = []

theorem Sound.readsNothing_iff (sound : fs.Sound) (class' : path.entryClass? = some .delegated) :
    fs.ReadsNothing path ↔ ∀ e id store, fs.catalog.find? path = some e →
      fs.Reached e (.file id) store → (fs.store.content id).size = 0 := by
  constructor
  · intro nothing e id store found reached
    have kind := sound.kind_of_class class' found
    have first : (fs.read path 0 1).1 = .ok ((fs.store.content id).slice 0 1) :=
      reached.read found kind (by decide)
    have short := congrArg List.length (nothing 1 _ first)
    rw [Content.length_slice, List.length_nil] at short
    omega
  · intro blank length data got
    cases found : fs.catalog.find? path with
    | none =>
      simp only [Filesystem.read, find, found] at got
      cases got
    | some e =>
      rcases read_ok found (sound.kind_of_class class' found) got with nothing |
        ⟨id, store, reached, rfl⟩
      · exact nothing
      · apply List.eq_nil_of_length_eq_zero
        rw [Content.length_slice, blank e id store found reached]
        exact Nat.min_zero length

/-- The entry holds a file that has bytes, and its own name stands for another file or for none. -/
def Astray (fs : Filesystem) (path : Path) : Prop :=
  ∃ d id, fs.Holds path d ∧ fs.store.target d = .ok (.file id) ∧
    fs.store.fileAt? path.name ≠ some id ∧ (fs.store.content id).size ≠ 0

/-- Once the name is emptied, only a file that lost it can still be read. -/
theorem Sound.readsNothing_of_blank (sound : fs.Sound)
    (class' : path.entryClass? = some .delegated)
    (blank : ∀ id, fs.store.fileAt? path.name = some id → (fs.store.content id).size = 0) :
    fs.ReadsNothing path ↔ ¬ fs.Astray path := by
  rw [sound.readsNothing_iff class']
  constructor
  · rintro nothing ⟨d, id, ⟨e, h, found, held, rfl⟩, open', -, some'⟩
    exact some' (nothing e id _ found (.held held open'))
  · intro settled e id store found reached
    cases reached with
    | held held open' =>
      by_cases named : fs.store.fileAt? path.name = some id
      · exact blank id named
      · by_cases nothing : (fs.store.content id).size = 0
        · exact nothing
        · exact absurd ⟨_, id, ⟨e, _, found, held, rfl⟩, open', named, nothing⟩ settled
    | transient closed there here =>
      rw [sound.formed.own path e found] at here
      exact blank id (Store.fileAt?_iff.2 (Store.node_iff.1 here).2)

/-- How an operation empties the file of `path`: the file that is held, or what has the name. The
entry then holds what it held, or, if that was nothing, what has the name. -/
inductive Emptied (fs : Filesystem) (path : Path) : Operation → Filesystem → Prop
  | held {flags : OpenFlags} {d id : Nat} {after : Filesystem} : after.Holds path d →
      after.store.target d = .ok (.file id) → (after.store.content id).size = 0 →
      Emptied fs path (.openFile path flags) after
  | named {op : Operation} {after : Filesystem} : (∀ flags, op ≠ .openFile path flags) →
      fs.store.Cleared after.store path.name → (∀ d, after.Holds path d ↔ fs.Holds path d) →
      after.store.descriptors = fs.store.descriptors → Emptied fs path op after
  | taken {op : Operation} {d : Nat} {target : Target} {after : Filesystem} :
      (∀ flags, op ≠ .openFile path flags) → fs.store.Cleared after.store path.name →
      (∀ d, ¬ fs.Holds path d) → after.Holds path d → after.store.target d = .ok target →
      (∀ id, target = .file id → after.store.fileAt? path.name = some id) →
      Emptied fs path op after

theorem Emptied.of_made {mode : Nat} {flags : OpenFlags} {target : Target} {made' : Store}
    (made : fs.store.Made path.name mode target made') (nobody : ∀ d, ¬ fs.Holds path d)
    (holds : after.Holds path fs.store.nextDescriptor)
    (store : after.store = (made'.register target).2) :
    fs.Emptied path (.create path mode flags) after := by
  obtain ⟨-, next', -⟩ := made.descriptors
  have opened : after.store.target fs.store.nextDescriptor = .ok target := by
    rw [store, ← next']
    exact Store.target_register made' target
  refine .taken (fun _ other => by cases other) ?_ nobody holds opened ?_
  · rw [store]
    exact made.cleared.sameFiles (Store.sameFiles_register _ _)
  · rintro id rfl
    rw [store]
    exact Store.fileAt?_iff.2 (Store.node_iff.1 made.node).2

theorem Transition.emptied (step : fs.Transition op (.ok reply) after) (sound : fs.Sound)
    (empties : op.empties? = some path) (class' : path.entryClass? = some .delegated) :
    fs.Emptied path op after := by
  cases step with
  | looked looks =>
    rw [Operation.looks_of_empties? empties] at looks
    cases looks
  | madeSynthetic place | resetSynthetic place =>
    obtain ⟨-, same⟩ := Option.ite_none_left_eq_some.1 empties
    cases same
    cases class_of_place class' place
  | madeDelegated _ vacant _ made _ =>
    obtain ⟨-, same⟩ := Option.ite_none_left_eq_some.1 empties
    cases same
    refine .of_made made ?_ ⟨_, _, Catalog.find?_put_same _ _, rfl, rfl⟩ rfl
    rintro d ⟨e, h, found, -⟩
    rw [vacant] at found
    cases found
  | resetOpen _ _ _ _ made _ =>
    obtain ⟨-, same⟩ := Option.ite_none_left_eq_some.1 empties
    cases same
    refine .named (fun _ other => by cases other)
      (made.cleared.sameFiles (Store.sameFiles_passed _)) (holds_congr ?_) made.descriptors.1
    exact Catalog.view_modify_same _ fun _ => by simp
  | resetClosed _ found _ _ made closed =>
    obtain ⟨-, same⟩ := Option.ite_none_left_eq_some.1 empties
    cases same
    refine .of_made made ?_ ?_ rfl
    · intro d holds
      rw [holds_of_find? found, Entry.descriptor?, closed] at holds
      cases holds
    · have now := Catalog.find?_modify_same ((Catalog.find?_takeSequence _ _).trans found)
        fun e => (e.resize 0).attach fs.store.nextDescriptor
      refine holds_iff.2 ((Catalog.view_of_find? now).trans ?_)
      exact Entry.descriptor?_attach (e := Entry.resize _ 0) closed _
  | openedSynthetic found kind =>
    obtain ⟨-, same⟩ := Option.ite_none_right_eq_some.1 empties
    cases same
    cases kind.symm.trans (sound.kind_of_class class' found)
  | openedDelegated _ _ kept =>
    obtain ⟨truncate, -⟩ := Option.ite_none_right_eq_some.1 empties
    rw [kept] at truncate
    cases truncate
  | @emptiedDelegated _ flags e d id base found kind _ referred open' =>
    obtain ⟨-, same⟩ := Option.ite_none_right_eq_some.1 empties
    cases same
    obtain ⟨now, here, -, descriptor⟩ := referred.find? found
    have after := Catalog.find?_modify_same here (·.resize 0)
    refine .held (holds_iff.2 ((Catalog.view_of_find? after).trans ?_)) open'
      (Store.size_emptied _ id)
    exact descriptor
  | cutSynthetic found kind =>
    obtain ⟨-, same⟩ := Option.ite_none_right_eq_some.1 empties
    cases same
    cases kind.symm.trans (sound.kind_of_class class' found)
  | cutDelegated found kind _ _ node =>
    obtain ⟨rfl, same⟩ := Option.ite_none_right_eq_some.1 empties
    cases same
    have cleared := Store.cleared_emptied (Store.fileAt?_iff.2 (Store.node_iff.1 node).2)
    refine .named (fun _ other => by cases other) (cleared.sameFiles (Store.sameFiles_passed _))
      (holds_congr ?_) rfl
    exact Catalog.view_modify_same _ fun _ => rfl
  | destroyed | tornDown | read | wroteSynthetic | wroteNothing | wroteDelegated
  | renamedSynthetic | renamedDelegated | renamedTwin | unlinkedSynthetic | unlinkedDelegated
  | unlinkedMissing | released => cases empties

namespace Emptied

/-- A file that the entry holds under another name, or under none, was not emptied by name. -/
theorem astray_before (emptied : fs.Emptied path op after) (astray : after.Astray path) :
    fs.Astray path ∧ ∀ flags, op ≠ .openFile path flags := by
  obtain ⟨d, id, holds, open', away, some'⟩ := astray
  cases emptied with
  | held holds' open'' empty =>
    cases holds.unique holds'
    cases open'.symm.trans open''
    exact absurd empty some'
  | named byName cleared same descriptors =>
    refine ⟨⟨d, id, (same d).1 holds, ?_, fun here => away (cleared.named id here), ?_⟩, byName⟩
    · rwa [Store.target, descriptors] at open'
    · rwa [cleared.kept id some'] at some'
  | taken _ _ _ holds' open'' here =>
    cases holds.unique holds'
    cases open'.symm.trans open''
    exact absurd (here id rfl) away

theorem astray_after (emptied : fs.Emptied path op after)
    (unused : fs.store.files.find? fs.store.nextFile = none) (astray : fs.Astray path)
    (byName : ∀ flags, op ≠ .openFile path flags) : after.Astray path := by
  obtain ⟨d, id, holds, open', away, some'⟩ := astray
  cases emptied with
  | held => exact absurd rfl (byName _)
  | named _ cleared same descriptors =>
    obtain ⟨away', content⟩ := cleared.apart unused id away some'
    refine ⟨d, id, (same d).2 holds, ?_, away', by rwa [content]⟩
    rwa [Store.target, descriptors]
  | taken _ _ nobody => exact absurd holds (nobody d)

theorem readsNothing_iff (emptied : fs.Emptied path op after) (sound : after.Sound)
    (class' : path.entryClass? = some .delegated) :
    after.ReadsNothing path ↔ ¬ after.Astray path := by
  cases emptied with
  | named _ cleared => exact sound.readsNothing_of_blank class' cleared.blank
  | taken _ cleared => exact sound.readsNothing_of_blank class' cleared.blank
  | @held flags d id _ holds open' empty =>
    have emptied : fs.Emptied path (.openFile path flags) after := .held holds open' empty
    refine iff_of_true ?_ fun astray => (emptied.astray_before astray).2 flags rfl
    rw [sound.readsNothing_iff class']
    intro e other store found reached
    obtain ⟨e', h, found', held, rfl⟩ := holds
    cases found.symm.trans found'
    -- The entry holds the file that was emptied, so a read has no other way.
    cases reached with
    | held held' open'' =>
      cases held.symm.trans held'
      cases open'.symm.trans open''
      exact empty
    | transient closed =>
      rw [held] at closed
      cases closed

end Emptied

/-- After a file was emptied clients read nothing of it, unless its entry holds another file than
the one that has the name, and this other file has bytes. Then it did so before, and the file was
emptied by name; and an entry that did so before goes on, as long as a new file is a new one. -/
theorem reads_of_emptied (reachable : fs.Reachable) (empties : op.empties? = some path)
    (class' : path.entryClass? = some .delegated) (worked : (fs.perform op).1 = .ok reply) :
    let after := (fs.perform op).2
    (after.ReadsNothing path ↔ ¬ after.Astray path) ∧
      (after.Astray path → fs.Astray path ∧ ∀ flags, op ≠ .openFile path flags) ∧
      (fs.store.files.find? fs.store.nextFile = none → fs.Astray path →
        (∀ flags, op ≠ .openFile path flags) → after.Astray path) := by
  have step := reachable.transition op
  rw [worked] at step
  have emptied := step.emptied reachable.sound empties class'
  exact ⟨emptied.readsNothing_iff (Reachable.perform op reachable).sound class',
    emptied.astray_before, emptied.astray_after⟩

/-- Others put a new file in the place of one that is open and has bytes. An open that is to empty
the file empties the one that is held. -/
theorem reads_of_reopened :
    let path : Path := ⟨["a.mhash"], by simp [IsComponent]⟩
    let written := execute [.create path 0o644 (.ofBits 6), .write path 0 [0x6f, 0x6c, 0x64]]
      (start "/d" .counter .empty)
    let store := ((written.store.outside "a.mhash" .remove).2.outside "a.mhash"
      (.write [0x6e, 0x65, 0x77])).2
    let fs : Filesystem := { written with store }
    fs.Astray path ∧ (fs.perform (.openFile path (.ofBits 8))).2.ReadsNothing path := by
  intro path written store fs
  have change : written.store.OutsideChange store :=
    (Store.outsideChange_outside _ "a.mhash" .remove).trans
      (Store.outsideChange_outside _ "a.mhash" (.write [0x6e, 0x65, 0x77]))
  have reachable : fs.Reachable :=
    .outside (.perform (.write path _ _) (.perform (.create path _ _) (.start "/d" .counter rfl)))
      change
  have found : fs.catalog.find? path = some ⟨path, .delegated, 3, .zero, some ⟨0, 1⟩, 1⟩ := by
    decide +kernel
  have holds : fs.Holds path 0 := ⟨_, _, found, rfl, rfl⟩
  have open' : fs.store.target 0 = .ok (.file 0) := Store.target_ok.2 ⟨1, by decide +kernel⟩
  refine ⟨⟨0, 0, holds, open', by decide +kernel, by decide +kernel⟩, ?_⟩
  obtain ⟨reply, opened⟩ := worked_of_isSome
    (r := (fs.perform (.openFile path (.ofBits 8))).1) (by decide +kernel)
  have class' : path.entryClass? = some .delegated := by decide +kernel
  obtain ⟨nothing, before, -⟩ := reads_of_emptied reachable rfl class' opened
  exact nothing.2 fun astray => (before astray).2 _ rfl

/-- There, a truncation and a creation empty the new file, and clients go on reading the old one. -/
theorem reads_of_truncated :
    let path : Path := ⟨["a.mhash"], by simp [IsComponent]⟩
    let written := execute [.create path 0o644 (.ofBits 6), .write path 0 [0x6f, 0x6c, 0x64]]
      (start "/d" .counter .empty)
    let store := ((written.store.outside "a.mhash" .remove).2.outside "a.mhash"
      (.write [0x6e, 0x65, 0x77])).2
    let fs : Filesystem := { written with store }
    fs.Reachable ∧ path.entryClass? = some .delegated ∧
      ∀ op ∈ [Operation.truncate path 0, .create path 0o644 (.ofBits 6)],
        op.empties? = some path ∧ (fs.perform op).1.toOption.isSome ∧
          ((fs.perform op).2.read path 0 9).1.toOption = some [0x6f, 0x6c, 0x64] ∧
          ¬ (fs.perform op).2.ReadsNothing path := by
  intro path written store fs
  have change : written.store.OutsideChange store :=
    (Store.outsideChange_outside _ "a.mhash" .remove).trans
      (Store.outsideChange_outside _ "a.mhash" (.write [0x6e, 0x65, 0x77]))
  refine ⟨.outside (.perform (.write path _ _) (.perform (.create path _ _)
    (.start "/d" .counter rfl))) change, by decide +kernel, fun op member => ?_⟩
  have old : op.empties? = some path ∧ (fs.perform op).1.toOption.isSome ∧
      ((fs.perform op).2.read path 0 9).1.toOption = some [0x6f, 0x6c, 0x64] := by
    rcases List.mem_cons.1 member with rfl | member
    · decide +kernel
    · obtain rfl := List.mem_singleton.1 member
      decide +kernel
  refine ⟨old.1, old.2.1, old.2.2, fun nothing => ?_⟩
  cases result : ((fs.perform op).2.read path 0 9).1 with
  | error f =>
    rw [result] at old
    cases old.2.2
  | ok data =>
    rw [result] at old
    cases old.2.2
    cases nothing 9 _ result

end Filesystem

end PatternFs
