import PatternFs.Proofs.Filesystem.Linked

/-! The live delegated files of a mount as texts by path. Each operation that works changes the text
of the path it names, and says nothing about how the file is reached; a write that fails may have
changed it by the front part of its data. The mount does the same, as long as nobody else touches
its backing directory. -/
namespace PatternFs

open Content (spliced resized)
open Filesystem (newFileClass newFileClass_ok)

/-- What is told of each path. -/
def Told (α : Type) := Path → α

namespace Told

variable {α : Type} {facts : Told α} {path : Path}

def put (facts : Told α) (path : Path) (a : α) : Told α :=
  fun other => if other = path then a else facts other

/-- What is told of `old` is told of `new` instead. -/
def move (facts : Told α) (blank : α) (old new : Path) : Told α :=
  fun other => if other = new then facts old else if other = old then blank else facts other

/-- What is told after an operation that was answered with `r`. Only one that worked tells anything
new. -/
def after (tell : Told α → Operation → Told α) (facts : Told α) (op : Operation) :
    Except Failure Reply → Told α
  | .ok _ => tell facts op
  | .error _ => facts

theorem put_same {a : α} (same : facts path = a) : facts.put path a = facts := by
  funext other
  rw [put]
  split
  · next eq => rw [eq, same]
  · rfl

theorem move_blank {blank : α} {old new : Path} (nothing : facts old = blank)
    (vacant : facts new = blank) : facts.move blank old new = facts := by
  funext other
  rw [move]
  split
  · next eq => rw [eq, vacant, nothing]
  · split
    · next eq => rw [eq, nothing]
    · rfl

theorem after_same {tell : Told α → Operation → Told α} {op : Operation}
    (same : tell facts op = facts) (r : Except Failure Reply) : after tell facts op r = facts := by
  cases r with
  | error f => rfl
  | ok reply => exact same

end Told

/-- The text of each live delegated file. -/
abbrev Texts := Told (Option (List UInt8))

namespace Texts

def change (texts : Texts) (path : Path) (f : List UInt8 → List UInt8) : Texts :=
  texts.put path ((texts path).map f)

/-- The texts after an operation that worked. -/
def told (texts : Texts) : Operation → Texts
  | .destroy | .teardown => fun _ => none
  | .create path _ _ =>
    if path.entryClass? = some .delegated then texts.put path (some []) else texts
  | .openFile path flags => if flags.truncate then texts.change path fun _ => [] else texts
  | .write path offset data => texts.change path (spliced · offset data)
  | .truncate path length => texts.change path (resized · length)
  | .rename old new => texts.move none old new
  | .unlink path => texts.put path none
  | .setUp | .getAttributes _ | .read _ _ _ | .release _ | .flush _ | .openDirectory _ | .list _
  | .access _ | .lock _ | .getAttribute _ _ | .refused _ => texts

/-- The texts after an operation that failed when the host had taken `front` of its data. -/
def left (texts : Texts) (op : Operation) (front : List UInt8) : Texts :=
  match op with
  | .write path offset _ => texts.change path (spliced · offset front)
  | _ => texts

/-- The texts after an operation that was answered with `r`. -/
def after (texts : Texts) (op : Operation) (front : List UInt8) : Except Failure Reply → Texts
  | .ok _ => texts.told op
  | .error _ => texts.left op front

variable {texts : Texts} {path : Path}

theorem change_absent (absent : texts path = none) (f : List UInt8 → List UInt8) :
    texts.change path f = texts := by
  rw [change, absent]
  exact Told.put_same absent

theorem change_id {f : List UInt8 → List UInt8} (same : ∀ text, f text = text) :
    texts.change path f = texts := by
  apply Told.put_same
  cases texts path with
  | none => rfl
  | some text => rw [Option.map_some, same]

theorem spliced_nil (text : List UInt8) (offset : Nat) : spliced text offset [] = text := if_pos rfl

theorem left_nil (texts : Texts) (op : Operation) : texts.left op [] = texts := by
  cases op with
  | write path offset data => exact change_id fun text => spliced_nil text offset
  | _ => rfl

theorem after_nil (texts : Texts) (op : Operation) (r : Except Failure Reply) :
    texts.after op [] r = Told.after Texts.told texts op r := by
  cases r with
  | ok reply => rfl
  | error f => exact left_nil texts op

theorem told_looks {op : Operation} (looks : op.looks = true) : texts.told op = texts := by
  cases op <;> first | rfl | cases looks

theorem after_looks {op : Operation} (looks : op.looks = true) (front : List UInt8)
    (r : Except Failure Reply) : texts.after op front r = texts := by
  cases r with
  | ok reply => exact told_looks looks
  | error f => cases op <;> first | rfl | cases looks

theorem told_synthetic {mode : Nat} {flags : OpenFlags}
    (place : newFileClass path = .ok .synthetic) :
    texts.told (.create path mode flags) = texts := by
  refine if_neg fun delegated => ?_
  rw [(newFileClass_ok.1 place).1] at delegated
  cases delegated

theorem told_delegated {mode : Nat} {flags : OpenFlags}
    (place : newFileClass path = .ok .delegated) :
    texts.told (.create path mode flags) = texts.put path (some []) :=
  if_pos (newFileClass_ok.1 place).1

end Texts

/-- Tells the delegated entries from the others. -/
def Entry.delegated? (e : Entry) : Option Unit := if e.kind = .delegated then some () else none

theorem Entry.delegated?_attach (e : Entry) (d : Nat) :
    (e.attach d).delegated? = e.delegated? := by
  unfold Entry.attach
  split <;> rfl

namespace Filesystem

variable {fs base after : Filesystem} {path : Path} {e : Entry} {op : Operation}
  {r : Except Failure Reply} {d? : Option Nat} {id : Nat}

def texts (fs : Filesystem) : Texts := fun path =>
  (fs.catalog.view Entry.delegated? path).bind fun _ => fs.store.text? path.name

theorem texts_delegated (found : fs.catalog.find? path = some e) (kind : e.kind = .delegated) :
    fs.texts path = fs.store.text? path.name := by
  rw [texts, Catalog.view_of_find? found, Entry.delegated?, if_pos kind]
  rfl

theorem texts_silent (silent : fs.catalog.view Entry.delegated? path = none) :
    fs.texts path = none := by
  rw [texts, silent]
  rfl

theorem texts_synthetic (found : fs.catalog.find? path = some e) (kind : e.kind = .synthetic) :
    fs.texts path = none := by
  apply texts_silent
  rw [Catalog.view_of_find? found, Entry.delegated?, kind]
  rfl

theorem texts_still (same : after.catalog.view Entry.delegated? = fs.catalog.view Entry.delegated?)
    (texts : ∀ name, after.store.text? name = fs.store.text? name) : after.texts = fs.texts := by
  funext path
  rw [Filesystem.texts, Filesystem.texts, same, texts]

/-- What happens at one path and under its name is told by the path alone. -/
theorem texts_put (sound : fs.Sound) (top : path.isTopLevel = true)
    (others : ∀ other, other ≠ path → after.catalog.view Entry.delegated? other =
      fs.catalog.view Entry.delegated? other)
    (texts : ∀ name, name ≠ path.name → after.store.text? name = fs.store.text? name)
    {text? : Option (List UInt8)} (here : after.texts path = text?) :
    after.texts = fs.texts.put path text? := by
  funext other
  rw [Told.put]
  split
  · next eq => rw [eq, here]
  · next away =>
    rw [Filesystem.texts, Filesystem.texts, others other away]
    cases live : fs.catalog.view Entry.delegated? other with
    | none => rfl
    | some _ => exact texts other.name (sound.name_ne top live away)

theorem texts_emptied (sound : fs.Sound) (place : newFileClass path = .ok .delegated)
    (others : ∀ other, other ≠ path → after.catalog.view Entry.delegated? other =
      fs.catalog.view Entry.delegated? other)
    (live : after.catalog.view Entry.delegated? path = some ())
    (texts : ∀ name, after.store.text? name =
      if name = path.name then some [] else fs.store.text? name) :
    after.texts = fs.texts.put path (some []) := by
  refine texts_put sound (newFileClass_ok.1 place).2.1 others (fun name apart => ?_) ?_
  · rw [texts, if_neg apart]
  · rw [Filesystem.texts, live]
    exact (texts path.name).trans (if_pos rfl)

theorem Linked.texts_reset {mode : Nat} {target : Target} {store : Store} {g : Entry → Entry}
    (linked : fs.Linked) (place : newFileClass path = .ok .delegated)
    (found : fs.catalog.find? path = some e) (made : fs.store.Made path.name mode target store)
    (files : store.SameFiles after.store)
    (reset : after.catalog = fs.catalog.takeSequence.2.modify path g)
    (same : ∀ e, (g e).delegated? = e.delegated?) :
    after.texts = fs.texts.put path (some []) := by
  have texts := made.text? linked.plain
  have view : after.catalog.view Entry.delegated? = fs.catalog.view Entry.delegated? := by
    rw [reset]
    exact Catalog.view_modify_same path same
  refine texts_emptied linked.sound place (fun other _ => by rw [view]) ?_
    fun name => files.text?.trans (texts name)
  rw [view]
  exact (Catalog.view_of_find? found).trans (if_pos (linked.live place found).1)

theorem Linked.texts_change (linked : fs.Linked) (found : fs.catalog.find? path = some e)
    (kind : e.kind = .delegated) (named : fs.store.fileAt? path.name = some id)
    {f : Content → Content} {g : List UInt8 → List UInt8} (agree : ∀ c, (f c).bytes = g c.bytes)
    (view : after.catalog.view Entry.delegated? = fs.catalog.view Entry.delegated?)
    (same : (fs.store.changeContent id f).SameFiles after.store) :
    after.texts = fs.texts.change path g := by
  have texts := Store.text?_changeContent linked.separate named agree
  have live : fs.catalog.view Entry.delegated? path = some () := by
    rw [Catalog.view_of_find? found, Entry.delegated?, if_pos kind]
  refine texts_put linked.sound (linked.isTopLevel found) (fun _ _ => by rw [view])
    (fun name apart => ?_) ?_
  · rw [same.text?, texts, if_neg apart]
  · rw [texts_delegated found kind, Filesystem.texts, view, live]
    exact same.text?.trans ((texts path.name).trans (if_pos rfl))

theorem Referred.texts {d : Nat} (referred : fs.Referred path e d base) :
    base.texts = fs.texts := by
  cases referred with
  | shared => exact texts_still (Catalog.view_modify_same path fun _ => rfl) fun _ => rfl
  | opened =>
    exact texts_still (Catalog.view_modify_same path fun e => e.delegated?_attach _)
      fun _ => (Store.sameFiles_register _ _).text?

theorem texts_resizeEntry (fs : Filesystem) (path : Path) (size : Nat) :
    (fs.resizeEntry path size).texts = fs.texts :=
  texts_still (Catalog.view_modify_same path fun _ => rfl) fun _ => rfl

theorem Untouched.texts (same : fs.Untouched after) : after.texts = fs.texts :=
  texts_still (same.view _) fun name =>
    same.store_eq (f := (·.text? name)) (Store.sameFiles_passed _).text?

theorem Linked.texts_move {old new : Path} (linked : fs.Linked)
    (found : fs.catalog.find? old = some e) (kind : e.kind = .delegated)
    (vacant : fs.catalog.find? new = none) (top : new.isTopLevel = true)
    {node : Node} (named : fs.store.names.find? old.name = some node)
    (catalog : after.catalog = fs.catalog.move old new)
    (store : after.store = fs.store.renamed old.name new.name node) :
    after.texts = fs.texts.move none old new := by
  have view := Catalog.view_move (f := Entry.delegated?) new (fun _ => rfl) found
  have texts := Store.text?_renamed new.name named
  have live : fs.catalog.view Entry.delegated? old = some () :=
    (Catalog.view_of_find? found).trans (if_pos kind)
  funext other
  rw [Told.move, Filesystem.texts, catalog, view, store, texts]
  by_cases isNew : other = new
  · subst isNew
    simp only [if_true, live, texts_delegated found kind]
    rfl
  · simp only [if_neg isNew]
    by_cases isOld : other = old
    · simp only [if_pos isOld]
      rfl
    · simp only [if_neg isOld, Filesystem.texts]
      cases here : fs.catalog.view Entry.delegated? other with
      | none => rfl
      | some _ =>
        rw [if_neg (linked.sound.name_ne top here isNew),
          if_neg (linked.sound.name_ne (linked.isTopLevel found) here isOld)]

theorem Linked.reached {target : Target} {store : Store} (linked : fs.Linked)
    (found : fs.catalog.find? path = some e) (kind : e.kind = .delegated)
    (reached : fs.Reached e target store) :
    ∃ id, target = .file id ∧ fs.store.fileAt? path.name = some id ∧
      (store = fs.store ∨ store = fs.store.passed) := by
  obtain ⟨id, at'⟩ := linked.file found kind
  obtain ⟨rfl, same⟩ := at'.reached (linked.sound.formed.own path e found) reached
  exact ⟨id, rfl, at'.fileAt?, same⟩

theorem texts_teardown (fs : Filesystem) : fs.teardown.2.texts = fun _ => none := by
  funext path
  have gone : fs.teardown.2.catalog.view Entry.delegated? path = none := rfl
  exact texts_silent gone

/-- One operation changes the texts as its name says. -/
theorem Transition.texts (step : fs.Transition op r after) (linked : fs.Linked) :
    after.texts = fs.texts.after op (fs.front op) r := by
  cases step with
  | failed same nothing =>
    rw [nothing]
    exact same.texts.trans (Texts.left_nil fs.texts op).symm
  | looked looks => exact (Texts.after_looks looks _ r).symm
  | destroyed => exact texts_teardown fs
  | tornDown => exact texts_teardown fs
  | madeSynthetic place vacant _ =>
    rw [Texts.after, Texts.told_synthetic place]
    exact texts_still (Catalog.view_put_same vacant rfl) fun _ => rfl
  | resetSynthetic place =>
    rw [Texts.after, Texts.told_synthetic place]
    exact texts_resizeEntry _ _ 0
  | madeDelegated place vacant _ made _ =>
    have texts := made.text? linked.plain
    rw [Texts.after, Texts.told_delegated place]
    refine texts_emptied linked.sound place (fun other away => ?_) ?_
      fun name => (Store.sameFiles_register _ _).text?.trans (texts name)
    · rw [Catalog.view_put]
      exact if_neg away
    · rw [Catalog.view_put]
      exact if_pos rfl
  | resetOpen place found _ _ made _ =>
    rw [Texts.after, Texts.told_delegated place]
    exact linked.texts_reset place found made (Store.sameFiles_passed _) rfl fun _ => rfl
  | resetClosed place found _ _ made _ =>
    rw [Texts.after, Texts.told_delegated place]
    exact linked.texts_reset place found made (Store.sameFiles_register _ _) rfl
      fun e => (e.resize 0).delegated?_attach _
  | openedSynthetic found kind =>
    simp only [Texts.after, Texts.told]
    split
    · rw [texts_resizeEntry, Texts.change_absent (texts_synthetic found kind)]
    · rfl
  | openedDelegated _ _ keeps referred =>
    simp only [Texts.after, Texts.told, keeps]
    exact referred.texts
  | @emptiedDelegated path flags e d id base found kind empties referred held =>
    have linked' := linked.referred found kind referred
    obtain ⟨now, found', kind', holds⟩ := referred.find? found
    obtain ⟨known, at'⟩ := linked'.file found' (kind'.trans kind)
    have same := at'.held d holds
    rw [held] at same
    cases same
    simp only [Texts.after, Texts.told, empties, if_true]
    rw [← referred.texts]
    exact linked'.texts_change (f := (·.resize 0)) (g := fun _ => []) found' (kind'.trans kind)
      at'.fileAt? (fun _ => rfl) (Catalog.view_modify_same path fun _ => rfl) (.refl _)
  | read _ _ idle => exact idle.untouched.texts
  | wroteSynthetic found kind =>
    rw [Texts.after, Texts.told, Texts.change_absent (texts_synthetic found kind)]
    exact texts_resizeEntry _ _ _
  | @wroteNothing path offset _ _ _ _ idle =>
    rw [Texts.after, Texts.told, Texts.change_id (Texts.spliced_nil · offset), texts_resizeEntry]
    exact idle.untouched.texts
  | @wroteDelegated path offset data e target base found kind _ _ reached =>
    obtain ⟨id, rfl, named, store⟩ := linked.reached found kind reached
    refine linked.texts_change (g := (spliced · offset data)) found kind named
      (Content.bytes_splice · offset data) (Catalog.view_modify_same path fun _ => rfl) ?_
    rcases store with rfl | rfl <;> exact ⟨rfl, rfl, rfl, rfl, rfl⟩
  | @brokeOff path offset data _ e target base found kind _ _ reached =>
    obtain ⟨id, rfl, named, store⟩ := linked.reached found kind reached
    refine linked.texts_change (g := (spliced · offset (fs.front (.write path offset data)))) found
      kind named (Content.bytes_splice · offset (fs.front (.write path offset data))) rfl ?_
    rcases store with rfl | rfl <;> exact ⟨rfl, rfl, rfl, rfl, rfl⟩
  | cutSynthetic found kind =>
    rw [Texts.after, Texts.told, Texts.change_absent (texts_synthetic found kind)]
    exact texts_resizeEntry _ _ _
  | @cutDelegated path length id e _ found kind _ _ node =>
    exact linked.texts_change (g := (resized · length)) found kind (Store.node_file.1 node).2
      (Content.bytes_resize · length) (Catalog.view_modify_same path fun _ => rfl)
      (Store.sameFiles_passed _)
  | @renamedSynthetic old new e found kind vacant _ =>
    have silent : fs.catalog.view Entry.delegated? old = none := by
      rw [Catalog.view_of_find? found, Entry.delegated?, kind]
      rfl
    rw [Texts.after, Texts.told, Told.move_blank (texts_silent silent)
      (texts_silent (Catalog.view_of_vacant vacant))]
    exact texts_still (Catalog.view_move_same (fun _ => rfl) found silent vacant) fun _ => rfl
  | @renamedDelegated old new e _ _ _ found kind vacant place there named target _ =>
    obtain ⟨id, at'⟩ := linked.file found kind
    have file := at'.node.symm.trans named
    cases file
    exact linked.texts_move found kind vacant (newFileClass_ok.1 place).2.1 at'.named rfl rfl
  | renamedTwin found _ vacant place _ named same =>
    exact absurd same (linked.sound.not_twin linked.separate found vacant place named)
  | unlinkedSynthetic found kind =>
    have silent := texts_synthetic found kind
    rw [Texts.after, Texts.told, Told.put_same silent]
    refine texts_still (Catalog.view_remove_same ?_) fun _ => rfl
    rw [Catalog.view_of_find? found, Entry.delegated?, kind]
    rfl
  | @unlinkedDelegated path e _ found =>
    have same := Store.sameFiles_releaseAll (fs.store.unnamed path.name) e.descriptor?.toList
    refine texts_put linked.sound (linked.isTopLevel found) (fun other away => ?_)
      (fun name apart => ?_) (texts_silent ?_)
    · exact (congrFun Catalog.view_remove other).trans (if_neg away)
    · exact same.text?.trans ((Store.text?_unnamed _ _ _).trans (if_neg apart))
    · exact (congrFun Catalog.view_remove path).trans (if_pos rfl)
  | unlinkedMissing found kind missing => exact absurd missing (linked.not_missing found kind)
  | @released path =>
    unfold dropReference
    split
    · rfl
    · exact texts_still (Catalog.view_modify_same path fun _ => rfl)
        fun _ => (Store.sameFiles_releaseAll _ _).text?

end Filesystem

end PatternFs
