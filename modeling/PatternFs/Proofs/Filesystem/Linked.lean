import PatternFs.Proofs.Filesystem.Anchored

/-! Mounts in whose backing directory no name leads to the device. Then each delegated entry has a
file for its target, and so it has a text. -/
namespace PatternFs.Filesystem

variable {fs base after : Filesystem} {path : Path} {e : Entry} {op : Operation}
  {r : Except Failure Reply} {d? : Option Nat} {id : Nat}

structure Linked (fs : Filesystem) : Prop extends fs.Anchored where
  noDevice : ∀ name, fs.store.names.find? name ≠ some .nullDevice

theorem AnchoredAt.fileAt? (at' : fs.AnchoredAt path d? (.file id)) :
    fs.store.fileAt? path.name = some id := Store.fileAt?_iff.2 at'.named

namespace Linked

theorem plain (linked : fs.Linked) : fs.store.Plain := ⟨linked.separate, linked.noDevice⟩

theorem file (linked : fs.Linked) (found : fs.catalog.find? path = some e)
    (kind : e.kind = .delegated) : ∃ id, fs.AnchoredAt path e.descriptor? (.file id) := by
  obtain ⟨target, at'⟩ := linked.anchor found kind
  cases target with
  | file id => exact ⟨id, at'⟩
  | nullDevice => exact absurd at'.named (linked.noDevice path.name)

theorem referred {d : Nat} (linked : fs.Linked) (found : fs.catalog.find? path = some e)
    (kind : e.kind = .delegated) (referred : fs.Referred path e d base) : base.Linked where
  toTied := linked.toTied.referred found kind referred
  separate := referred.sameFiles.separate linked.separate
  noDevice := by
    cases referred with
    | shared | opened => exact linked.noDevice

theorem on (linked : fs.Linked) (platform : Platform) : (fs.on platform).Linked :=
  ⟨linked.toAnchored.on platform, linked.noDevice⟩

end Linked

theorem Transition.noDevice (step : fs.Transition op r after)
    (noDevice : ∀ name, fs.store.names.find? name ≠ some .nullDevice) (name : String) :
    after.store.names.find? name ≠ some .nullDevice := by
  have kept (ds : List Nat) : (fs.store.releaseAll ds).names.find? name ≠ some .nullDevice := by
    rw [(Store.sameFiles_releaseAll _ _).names]
    exact noDevice name
  cases step with
  | failed same =>
    rw [same.store_eq (f := Store.names) rfl]
    exact noDevice name
  | destroyed | tornDown => exact kept _
  | madeDelegated _ _ _ made _ =>
    have base := made.noDevice noDevice name
    exact base
  | resetOpen _ _ _ _ made _ | resetClosed _ _ _ _ made _ =>
    have base := made.noDevice noDevice name
    exact base
  | openedSynthetic => split <;> exact noDevice name
  | openedDelegated _ _ _ referred => cases referred <;> exact noDevice name
  | emptiedDelegated _ _ _ referred _ => cases referred <;> exact noDevice name
  | read _ _ idle => rcases idle with rfl | rfl <;> exact noDevice name
  | wroteNothing _ _ idle => rcases idle with rfl | rfl <;> exact noDevice name
  | @wroteDelegated _ _ _ _ target _ _ _ _ _ reached
  | @brokeOff _ _ _ _ _ target _ _ _ _ _ reached =>
    cases reached <;> cases target <;> exact noDevice name
  | @renamedDelegated old new _ _ node _ _ _ _ _ _ here _ _ =>
    rw [Table.find?_insert, Table.find?_erase]
    split
    · rw [← (Store.node_iff.1 here).2]
      exact noDevice old.name
    · split
      · simp
      · exact noDevice name
  | @unlinkedDelegated path =>
    rw [forget, (Store.sameFiles_releaseAll _ _).names, Table.find?_erase]
    split
    · simp
    · exact noDevice name
  | unlinkedMissing => exact kept _
  | released =>
    unfold dropReference
    split
    · exact noDevice name
    · exact kept _
  | looked | madeSynthetic | resetSynthetic | wroteSynthetic | cutSynthetic | cutDelegated
  | renamedSynthetic | renamedTwin | unlinkedSynthetic => exact noDevice name

theorem Transition.linked (step : fs.Transition op r after) (linked : fs.Linked) :
    after.Linked := ⟨step.anchored linked.toAnchored, step.noDevice linked.noDevice⟩

end PatternFs.Filesystem
