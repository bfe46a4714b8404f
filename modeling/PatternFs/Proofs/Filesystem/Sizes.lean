import PatternFs.Proofs.Filesystem.Refinement

/-! The size that an entry records beside the length of its real file. Both follow every change of
the content, except that a write of no bytes lengthens no file and still moves the recorded size,
and that a write that fails may lengthen the file and never moves the recorded size. -/
namespace PatternFs

open Content (spliced resized length_spliced length_le_spliced length_spliced_le length_resized)

/-- How far writes of no bytes went in each file since its length was last set. -/
abbrev Marks := Told Nat

/-- The marks after an operation that worked. -/
def Marks.told (marks : Marks) : Operation → Marks
  | .destroy | .teardown => fun _ => 0
  | .create path _ _ => marks.put path 0
  | .openFile path flags => if flags.truncate then marks.put path 0 else marks
  | .write path offset data =>
    if data = [] then marks.put path (max (marks path) (Filesystem.writeEnd offset 0)) else marks
  | .truncate path _ => marks.put path 0
  | .rename old new => marks.move 0 old new
  | .unlink path => marks.put path 0
  | .setUp | .getAttributes _ | .read _ _ _ | .release _ | .flush _ | .openDirectory _ | .list _
  | .access _ | .lock _ | .getAttribute _ _ | .refused _ => marks

theorem Marks.told_looks {marks : Marks} {op : Operation} (looks : op.looks = true) :
    marks.told op = marks := by
  cases op <;> first | rfl | cases looks

/-- Only a write of no bytes leaves a mark. -/
theorem Marks.told_blank {op : Operation} (full : ∀ path offset, op ≠ .write path offset []) :
    Marks.told (fun _ => 0) op = fun _ => 0 := by
  cases op with
  | create | truncate | unlink => exact Told.put_same rfl
  | openFile path flags => exact ite_eq_right_iff.2 fun _ => Told.put_same rfl
  | write path offset data =>
    refine if_neg fun nothing => full path offset ?_
    rw [nothing]
  | rename old new => exact Told.move_blank rfl rfl
  | _ => rfl

/-- Each path has a text in both or in neither, and the first one is no longer. -/
def Texts.Within (texts longer : Texts) : Prop :=
  ∀ path, Option.Rel (fun text other => text.length ≤ other.length) (texts path) (longer path)

namespace Texts.Within

variable {texts longer : Texts} {path : Path}

theorem refl (texts : Texts) : texts.Within texts := by
  intro path
  cases texts path with
  | none => exact .none
  | some text => exact .some (Nat.le_refl _)

theorem absent (within : texts.Within longer) (nothing : longer path = none) :
    texts path = none := by
  have both := within path
  rw [nothing] at both
  cases here : texts path with
  | none => rfl
  | some text =>
    rw [here] at both
    cases both

theorem put (within : texts.Within longer) {text? other? : Option (List UInt8)}
    (both : Option.Rel (fun text other => text.length ≤ other.length) text? other?) :
    Texts.Within (Told.put texts path text?) (Told.put longer path other?) := by
  intro other
  simp only [Told.put]
  split
  · exact both
  · exact within other

theorem change (within : texts.Within longer) {f g : List UInt8 → List UInt8}
    (grows : ∀ text other : List UInt8, text.length ≤ other.length →
      (f text).length ≤ (g other).length) :
    (texts.change path f).Within (longer.change path g) := by
  refine within.put ?_
  have both := within path
  generalize texts path = text?, longer path = other? at both ⊢
  cases both with
  | none => exact .none
  | some shorter => exact .some (grows _ _ shorter)

theorem move (within : texts.Within longer) (old new : Path) :
    Texts.Within (Told.move texts none old new) (Told.move longer none old new) := by
  intro other
  simp only [Told.move]
  split
  · exact within old
  · split
    · exact .none
    · exact within other

theorem told (within : texts.Within longer) (op : Operation) :
    (texts.told op).Within (longer.told op) := by
  cases op with
  | destroy | teardown => exact fun _ => .none
  | create path mode flags =>
    simp only [Texts.told]
    split
    · exact within.put (.some (Nat.le_refl _))
    · exact within
  | openFile path flags =>
    simp only [Texts.told]
    split
    · exact within.change fun _ _ _ => Nat.le_refl _
    · exact within
  | write path offset data => exact within.change fun _ _ => length_spliced_le
  | truncate path length =>
    refine within.change fun text other _ => Nat.le_of_eq ?_
    rw [length_resized, length_resized]
  | rename old new => exact within.move old new
  | unlink path => exact within.put .none
  | _ => exact within

theorem left (within : texts.Within longer) (op : Operation) (front : List UInt8) :
    texts.Within (longer.left op front) := by
  cases op with
  | write path offset data =>
    have grown : (texts.change path fun text => text).Within
        (longer.change path (spliced · offset front)) :=
      within.change fun _ other shorter =>
        Nat.le_trans shorter (length_le_spliced other offset front)
    rwa [Texts.change_id fun _ => rfl] at grown
  | _ => exact within

theorem after (within : texts.Within longer) (op : Operation) (front : List UInt8)
    (r : Except Failure Reply) :
    Texts.Within (Told.after Texts.told texts op r) (longer.after op front r) := by
  cases r with
  | ok reply => exact within.told op
  | error f => exact within.left op front

end Texts.Within

/-- The size that a delegated entry records. -/
def Entry.recorded? (e : Entry) : Option Nat := if e.kind = .delegated then some e.size else none

theorem Entry.recorded?_attach (e : Entry) (d : Nat) : (e.attach d).recorded? = e.recorded? := by
  unfold Entry.attach
  split <;> rfl

/-- Each recorded size is the length of the text, or the mark where that lies further out. -/
def Agree (sizes : Told (Option Nat)) (texts : Texts) (marks : Marks) : Prop :=
  ∀ path size, sizes path = some size →
    ∃ text, texts path = some text ∧ size = max text.length (marks path)

namespace Agree

variable {sizes : Told (Option Nat)} {texts : Texts} {marks : Marks} {path : Path}

theorem put (agree : Agree sizes texts marks) {size? : Option Nat} {text? : Option (List UInt8)}
    {mark : Nat} (here : ∀ size, size? = some size →
      ∃ text, text? = some text ∧ size = max text.length mark) :
    Agree (sizes.put path size?) (texts.put path text?) (marks.put path mark) := by
  intro other size recorded
  simp only [Told.put] at recorded ⊢
  by_cases about : other = path
  · simp only [if_pos about] at recorded ⊢
    exact here size recorded
  · simp only [if_neg about] at recorded ⊢
    exact agree other size recorded

theorem silent (agree : Agree sizes texts marks) (silent : sizes path = none) (mark : Nat) :
    Agree sizes texts (marks.put path mark) := by
  have put : Agree (sizes.put path none) (texts.put path (texts path)) (marks.put path mark) :=
    agree.put fun size recorded => by cases recorded
  rwa [Told.put_same silent, Told.put_same rfl] at put

theorem emptied (agree : Agree sizes texts marks) (path : Path) :
    Agree (sizes.put path (some 0)) (texts.put path (some [])) (marks.put path 0) :=
  agree.put fun _ now => ⟨[], rfl, (Option.some.inj now).symm⟩

theorem change (agree : Agree sizes texts marks) {size size' mark : Nat}
    {f : List UInt8 → List UInt8} (recorded : sizes path = some size)
    (follows : ∀ text, size = max text.length (marks path) → size' = max (f text).length mark) :
    Agree (sizes.put path (some size')) (texts.change path f) (marks.put path mark) := by
  obtain ⟨text, told, same⟩ := agree path size recorded
  refine agree.put fun _ now => ?_
  cases now
  exact ⟨f text, by rw [told]; rfl, follows text same⟩

theorem move (agree : Agree sizes texts marks) (old new : Path) :
    Agree (sizes.move none old new) (texts.move none old new) (marks.move 0 old new) := by
  intro other size recorded
  simp only [Told.move] at recorded ⊢
  by_cases isNew : other = new
  · simp only [if_pos isNew] at recorded ⊢
    exact agree old size recorded
  · simp only [if_neg isNew] at recorded ⊢
    by_cases isOld : other = old
    · rw [if_pos isOld] at recorded
      cases recorded
    · simp only [if_neg isOld] at recorded ⊢
      exact agree other size recorded

end Agree

namespace Filesystem

variable {fs base after : Filesystem} {path : Path} {e : Entry} {op : Operation}
  {r : Except Failure Reply} {texts : Texts} {marks : Marks}

/-- The sizes that the live delegated entries record. -/
def sizes (fs : Filesystem) : Told (Option Nat) := fs.catalog.view Entry.recorded?

theorem sizes_delegated (found : fs.catalog.find? path = some e) (kind : e.kind = .delegated) :
    fs.sizes path = some e.size :=
  (Catalog.view_of_find? found).trans (if_pos kind)

theorem sizes_synthetic (found : fs.catalog.find? path = some e) (kind : e.kind = .synthetic) :
    fs.sizes path = none := by
  rw [sizes, Catalog.view_of_find? found, Entry.recorded?, kind]
  rfl

theorem sizes_modify {c : Catalog} {g : Entry → Entry} {size? : Option Nat}
    (found : c.find? path = some e) (recorded : (g e).recorded? = size?) :
    (c.modify path g).view Entry.recorded? =
      Told.put (c.view Entry.recorded?) path size? := by
  rw [← recorded]
  exact Catalog.view_modify found g

theorem sizes_resizeEntry (found : fs.catalog.find? path = some e) (kind : e.kind = .delegated)
    (size : Nat) : (fs.resizeEntry path size).sizes = fs.sizes.put path (some size) :=
  sizes_modify found (if_pos kind)

theorem sizes_resizeSynthetic (found : fs.catalog.find? path = some e)
    (kind : e.kind = .synthetic) (size : Nat) : (fs.resizeEntry path size).sizes = fs.sizes := by
  have silent : (e.resize size).recorded? = none := by
    rw [Entry.recorded?, Entry.resize, kind]
    rfl
  exact (sizes_modify found silent).trans (Told.put_same (sizes_synthetic found kind))

theorem Untouched.sizes (same : fs.Untouched after) : after.sizes = fs.sizes := same.view _

theorem Referred.sizes {d : Nat} (referred : fs.Referred path e d base) :
    base.sizes = fs.sizes := by
  cases referred with
  | shared => exact Catalog.view_modify_same path fun _ => rfl
  | opened => exact Catalog.view_modify_same path fun e => e.recorded?_attach _

theorem sizes_move {old : Path} (new : Path) (found : fs.catalog.find? old = some e) :
    (fs.catalog.move old new).view Entry.recorded? = fs.sizes.move none old new :=
  Catalog.view_move new (fun _ => rfl) found

theorem Linked.sizes_reset {g : Entry → Entry} (linked : fs.Linked)
    (place : newFileClass path = .ok .delegated) (found : fs.catalog.find? path = some e)
    (reset : after.catalog = fs.catalog.takeSequence.2.modify path g)
    (emptied : (g e).recorded? = (e.resize 0).recorded?) :
    after.sizes = fs.sizes.put path (some 0) := by
  have recorded : (e.resize 0).recorded? = some 0 := if_pos (linked.live place found).1
  rw [sizes, reset]
  exact sizes_modify ((Catalog.find?_takeSequence _ _).trans found) (emptied.trans recorded)

theorem sizes_dropReference (fs : Filesystem) (path : Path) :
    (fs.dropReference path).sizes = fs.sizes := by
  unfold dropReference
  split
  · rfl
  · exact Catalog.view_modify_same path fun _ => rfl

/-- One operation moves the recorded sizes with the texts that the operations tell that work, and
with the marks. -/
theorem Transition.agree (step : fs.Transition op r after) (linked : fs.Linked)
    (within : texts.Within fs.texts) (agree : Agree fs.sizes texts marks) :
    Agree after.sizes (Told.after Texts.told texts op r) (Told.after Marks.told marks op r) := by
  cases step with
  | failed same =>
    rw [same.sizes]
    exact agree
  | looked looks =>
    rw [Told.after_same (Marks.told_looks looks), Told.after_same (Texts.told_looks looks)]
    exact agree
  | destroyed =>
    intro path size recorded
    cases recorded
  | tornDown =>
    intro path size recorded
    cases recorded
  | @madeSynthetic path _ _ pattern place vacant _ =>
    have same : Catalog.view Entry.recorded? (fs.catalog.takeSequence.2.put
        (.synthetic path pattern fs.catalog.nextSequence)) = fs.sizes :=
      Catalog.view_put_same vacant rfl
    simp only [Told.after, Texts.told_synthetic place, Marks.told, sizes, same]
    exact agree.silent (Catalog.view_of_vacant vacant) 0
  | resetSynthetic place found =>
    have kind := Except.ok.inj ((linked.sound.formed.place found).symm.trans place)
    simp only [Told.after, Texts.told_synthetic place, Marks.told]
    rw [sizes_resizeSynthetic found kind]
    exact agree.silent (sizes_synthetic found kind) 0
  | @madeDelegated path _ _ _ _ _ place =>
    simp only [Told.after, Texts.told_delegated place, Marks.told]
    have made : Catalog.view Entry.recorded? (fs.catalog.takeSequence.2.put
        (.delegated path fs.store.nextDescriptor fs.catalog.nextSequence)) =
        fs.sizes.put path (some 0) := Catalog.view_put _
    rw [sizes, made]
    exact agree.emptied path
  | @resetOpen path _ _ _ _ _ e _ place found =>
    simp only [Told.after, Texts.told_delegated place, Marks.told]
    rw [linked.sizes_reset place found rfl rfl]
    exact agree.emptied path
  | @resetClosed path _ _ _ _ _ e place found =>
    simp only [Told.after, Texts.told_delegated place, Marks.told]
    rw [linked.sizes_reset place found rfl ((e.resize 0).recorded?_attach _)]
    exact agree.emptied path
  | openedSynthetic found kind =>
    have absent := within.absent (texts_synthetic found kind)
    rw [Told.after, Texts.told, Texts.change_absent absent, ite_self]
    simp only [Told.after, Marks.told]
    split
    · rw [sizes_resizeSynthetic found kind]
      exact agree.silent (sizes_synthetic found kind) 0
    · exact agree
  | openedDelegated _ _ keeps referred =>
    simp only [Told.after, Texts.told, Marks.told, keeps]
    rw [referred.sizes]
    exact agree
  | @emptiedDelegated path flags e d id base found kind empties referred held =>
    obtain ⟨now, found', kind', -⟩ := referred.find? found
    have sizes : (base.resizeEntry path 0).sizes = fs.sizes.put path (some 0) := by
      rw [sizes_resizeEntry found' (kind'.trans kind), referred.sizes]
    simp only [Told.after, Texts.told, Marks.told, empties, if_true]
    change Agree (base.resizeEntry path 0).sizes _ _
    rw [sizes]
    exact agree.change (sizes_delegated found kind) fun _ _ => rfl
  | read _ _ idle =>
    rw [idle.untouched.sizes]
    exact agree
  | @wroteSynthetic path offset data e found kind =>
    rw [Told.after, Texts.told, Texts.change_absent (within.absent (texts_synthetic found kind)),
      sizes_resizeSynthetic found kind]
    simp only [Told.after, Marks.told]
    split
    · exact agree.silent (sizes_synthetic found kind) _
    · exact agree
  | @wroteNothing path offset e base found kind idle =>
    have found' : base.catalog.find? path = some e := (idle.untouched.find? path).trans found
    rw [sizes_resizeEntry found' kind, idle.untouched.sizes]
    simp only [Told.after, Texts.told, Marks.told, if_true]
    refine agree.change (sizes_delegated found kind) fun text before => ?_
    rw [Texts.spliced_nil, before, Nat.max_assoc]
  | @wroteDelegated path offset data e _ _ found kind some _ _ =>
    have written (text : List UInt8) (before : e.size = max text.length (marks path)) :
        max e.size (offset + data.length) =
          max (spliced text offset data).length (marks path) := by
      rw [length_spliced text offset some, before]
      omega
    have step := agree.change (f := (spliced · offset data)) (sizes_delegated found kind) written
    rw [Told.put_same rfl] at step
    simp only [Told.after, Texts.told, Marks.told, if_neg some]
    rw [← sizes_resizeEntry found kind] at step
    exact step
  | brokeOff => exact agree
  | cutSynthetic found kind =>
    rw [Told.after, Texts.told, Texts.change_absent (within.absent (texts_synthetic found kind)),
      sizes_resizeSynthetic found kind]
    exact agree.silent (sizes_synthetic found kind) 0
  | @cutDelegated path length _ _ _ found kind =>
    change Agree (fs.resizeEntry path length).sizes (texts.change path (resized · length)) _
    rw [sizes_resizeEntry found kind]
    refine agree.change (sizes_delegated found kind) fun text _ => ?_
    rw [length_resized, Nat.max_zero]
  | @renamedSynthetic old new _ found kind vacant _ =>
    rw [Told.after, Texts.told, sizes, sizes_move new found]
    exact agree.move old new
  | @renamedDelegated old new _ _ _ _ found =>
    rw [sizes, sizes_move new found]
    exact agree.move old new
  | renamedTwin found _ vacant place _ named same =>
    exact absurd same (linked.sound.not_twin linked.separate found vacant place named)
  | unlinkedSynthetic found kind =>
    have silent := sizes_synthetic found kind
    rw [Told.after, Texts.told, Told.put_same (within.absent (texts_synthetic found kind)), sizes,
      Catalog.view_remove_same silent]
    exact agree.silent silent 0
  | @unlinkedDelegated path =>
    have removed : Catalog.view Entry.recorded? (fs.catalog.remove path) =
        fs.sizes.put path none := Catalog.view_remove
    rw [sizes, Filesystem.forget, removed]
    exact agree.put fun size recorded => by cases recorded
  | unlinkedMissing found kind missing => exact absurd missing (linked.not_missing found kind)
  | released =>
    rw [sizes_dropReference]
    exact agree

theorem Linked.agree (linked : fs.Linked) (within : texts.Within fs.texts)
    (agree : Agree fs.sizes texts marks) (run : List (Platform × Operation)) :
    let told : Texts := retold (worked Texts.told) run fs texts
    told.Within (Filesystem.executeOn run fs).texts ∧
      Agree (Filesystem.executeOn run fs).sizes told (retold (worked Marks.told) run fs marks) := by
  induction run generalizing fs texts marks with
  | nil => exact ⟨within, agree⟩
  | cons met rest ih =>
    obtain ⟨platform, op⟩ := met
    have met := linked.on platform
    have step := transition_perform met.sound.formed met.sound.numbered op
    refine ih (step.linked met) ?_ (step.agree met within agree)
    rw [step.texts met]
    exact within.after op _ _

/-- The host takes the data of each write that fails as a whole or not at all. -/
def Whole : List (Platform × Operation) → Filesystem → Prop
  | [], _ => True
  | (platform, op) :: rest, fs =>
    (((fs.on platform).perform op).1.toOption = none → (fs.on platform).front op = []) ∧
      Whole rest ((fs.on platform).perform op).2

theorem Whole.retold_eq {run : List (Platform × Operation)} (whole : Whole run fs) :
    retold (worked Texts.told) run fs texts = retold tellTexts run fs texts := by
  induction run generalizing fs texts with
  | nil => rfl
  | cons met rest ih =>
    obtain ⟨platform, op⟩ := met
    obtain ⟨nothing, later⟩ := whole
    have same : worked Texts.told (fs.on platform) texts op =
        (fs.on platform).tellTexts texts op := by
      unfold worked tellTexts
      cases answer : ((fs.on platform).perform op).1 with
      | ok reply => rfl
      | error f => rw [nothing (by rw [answer]; rfl), Texts.after_nil]
    simp only [retold, same]
    exact ih later

/-- The real text of an entry beside the one that the operations tell that worked. -/
theorem told_of_run (backingDirectory : String) (fallback : Fallback)
    (files : List (String × FileObject)) (run : List (Platform × Operation)) :
    let first := start backingDirectory fallback (.ofFiles files)
    let fs := executeOn run first
    fs.Linked ∧ ∀ path e, fs.catalog.find? path = some e → e.kind = .delegated →
      ∃ text told, fs.texts path = some text ∧
        retold (worked Texts.told) run first (fun _ => none) path = some told ∧
        told.length ≤ text.length ∧ (Whole run first → told = text) ∧
        e.size = max told.length (retold (worked Marks.told) run first (fun _ => 0) path) := by
  intro first fs
  have start : first.Linked :=
    linked_start backingDirectory fallback (Store.descriptors_ofFiles files)
      (Store.plain_ofFiles files)
  obtain ⟨linked, texts⟩ := start.executeOn run
  refine ⟨linked, fun path e found kind => ?_⟩
  have blank : Agree first.sizes (fun _ => none) fun _ => 0 := by
    intro path size recorded
    cases recorded
  obtain ⟨within, agree⟩ := start.agree (.refl fun _ => none) blank run
  obtain ⟨told, some', size⟩ := agree path e.size (sizes_delegated found kind)
  obtain ⟨id, -, here⟩ := linked.told found kind
  have longer := within path
  rw [some', here] at longer
  cases longer with
  | some longer =>
    refine ⟨_, told, here, some', longer, fun whole => ?_, size⟩
    have same := congrFun (whole.retold_eq.trans texts.symm) path
    exact Option.some.inj ((some'.symm.trans same).trans here)

/-- After any run on a directory of files that nobody else touches, the size that a live delegated
entry records is the length that its text has by the operations that worked, or the furthest end of
a write of no bytes since that length was last set, where this lies beyond. The real file is longer
where the host broke a write off. Where it never did, the recorded size is right exactly if no write
of no bytes went further out. -/
theorem recorded_size_of_run (backingDirectory : String) (fallback : Fallback)
    (files : List (String × FileObject)) (run : List (Platform × Operation)) :
    let first := start backingDirectory fallback (.ofFiles files)
    let fs := executeOn run first
    let marks := retold (worked Marks.told) run first fun _ => 0
    ∀ path e, fs.catalog.find? path = some e → e.kind = .delegated →
      ∃ text told, fs.store.outsideRead path.name = .ok text ∧
        (∃ a, fs.getAttributes path = .ok a ∧ a.extent?.map Extent.size = some text.length) ∧
        retold (worked Texts.told) run first (fun _ => none) path = some told ∧
        told.length ≤ text.length ∧ e.size = max told.length (marks path) ∧
        (Whole run first →
          e.size = max text.length (marks path) ∧
            (e.size = text.length ↔ marks path ≤ text.length)) := by
  intro first fs marks path e found kind
  obtain ⟨linked, all⟩ := told_of_run backingDirectory fallback files run
  obtain ⟨text, told, here, some', longer, same, size⟩ := all path e found kind
  refine ⟨text, told, linked.outsideRead found kind here, linked.getAttributes found kind here,
    some', longer, size, fun whole => ?_⟩
  rw [same whole] at size
  have size' : e.size = max text.length (marks path) := size
  exact ⟨size', by omega⟩

/-- A mark beyond the end of a file moves along with it, and the host breaks a write off. -/
theorem recorded_size_of_moved_file :
    let old : Path := ⟨["a.mhash"], by simp [IsComponent]⟩
    let new : Path := ⟨["b.mhash"], by simp [IsComponent]⟩
    let fs := executeOn [(.common, .create old 0o644 (.ofBits 6)), (.common, .write old 3 []),
      (.common, .rename old new), (.common, .write new 1 [7]), (.limited 3, .write new 2 [8, 9])]
      (start "/d" .counter (.ofFiles []))
    ∃ e, fs.catalog.find? new = some e ∧ fs.store.outsideRead "b.mhash" = .ok [0, 7, 8] ∧
      e.size = max 2 3 := by
  intro old new fs
  let run : List (Platform × Operation) :=
    [(.common, .create old 0o644 (.ofBits 6)), (.common, .write old 3 []),
      (.common, .rename old new), (.common, .write new 1 [7]), (.limited 3, .write new 2 [8, 9])]
  have found : fs.catalog.find? new = some ⟨new, .delegated, 3, .zero, some ⟨0, 1⟩, 1⟩ := by
    decide +kernel
  obtain ⟨text, told, real, -, full, -, size, -⟩ :=
    recorded_size_of_run "/d" .counter [] run new _ found rfl
  have same : some text = some [0, 7, 8] :=
    (congrArg Except.toOption real).symm.trans (by decide +kernel)
  have worked' : some told = some [0, 7] := full.symm.trans (by decide +kernel)
  have mark : retold (worked Marks.told) run (start "/d" .counter (.ofFiles [])) (fun _ => 0) new =
      3 := by
    decide +kernel
  cases same
  cases worked'
  exact ⟨_, found, real, size.trans (congrArg (max 2) mark)⟩

/-- A write of no bytes behind the end of an empty file. -/
theorem recorded_size_past_end :
    let path : Path := ⟨["a.mhash"], by simp [IsComponent]⟩
    let fs := execute [.create path 0o644 (.ofBits 6), .write path 10 []]
      (start "/d" .counter (.ofFiles []))
    ∃ e, fs.catalog.find? path = some e ∧ e.kind = .delegated ∧ e.size = 10 ∧
      (fs.store.outsideRead "a.mhash").toOption = some [] := by
  refine ⟨⟨⟨["a.mhash"], by simp [IsComponent]⟩, .delegated, 10, .zero, some ⟨0, 1⟩, 1⟩, ?_⟩
  decide +kernel

theorem retold_marks_blank {run : List (Platform × Operation)}
    (full : ∀ platform path offset, (platform, .write path offset []) ∉ run) (fs : Filesystem) :
    retold (worked Marks.told) run fs (fun _ => 0) = fun _ => 0 := by
  induction run generalizing fs with
  | nil => rfl
  | cons met rest ih =>
    obtain ⟨platform, op⟩ := met
    obtain ⟨here, later⟩ : (∀ path offset, op ≠ .write path offset []) ∧
        ∀ platform path offset, (platform, .write path offset []) ∉ rest := by
      constructor
      · exact fun path offset same => full platform path offset (same ▸ List.mem_cons_self)
      · exact fun platform path offset member =>
          full platform path offset (List.mem_cons_of_mem _ member)
    have blank : worked Marks.told (fs.on platform) (fun _ => 0) op = fun _ => 0 :=
      Told.after_same (Marks.told_blank here) ((fs.on platform).perform op).1
    simp only [retold, blank]
    exact ih later _

/-- A run whose writes all carry data, none of which the host breaks off, keeps every recorded size
right. -/
theorem recorded_size_of_full_writes (backingDirectory : String) (fallback : Fallback)
    (files : List (String × FileObject)) {run : List (Platform × Operation)}
    (full : ∀ platform path offset, (platform, .write path offset []) ∉ run)
    (whole : Whole run (start backingDirectory fallback (.ofFiles files))) :
    let fs := executeOn run (start backingDirectory fallback (.ofFiles files))
    ∀ path e, fs.catalog.find? path = some e → e.kind = .delegated →
      ∃ text, fs.store.outsideRead path.name = .ok text ∧ e.size = text.length := by
  intro fs path e found kind
  obtain ⟨linked, all⟩ := told_of_run backingDirectory fallback files run
  obtain ⟨text, told, here, -, -, same, size⟩ := all path e found kind
  rw [retold_marks_blank full, Nat.max_zero, same whole] at size
  exact ⟨text, linked.outsideRead found kind here, size⟩

end Filesystem

end PatternFs
