import PatternFs.Proofs.Filesystem.Reachable

/-! What an operation that fails leaves behind: nothing, or the front part of a write that the host
took before a call failed. And which of the later questions cannot fail any more once an operation
worked. -/
namespace PatternFs.Filesystem

variable {fs after : Filesystem} {path : Path} {op : Operation}

/-- The entries and the backing directory are as they were. A sequence id may have been spent, and
the number of a descriptor. -/
structure Kept (fs after : Filesystem) : Prop where
  entries : after.catalog.entries = fs.catalog.entries
  sequence : fs.catalog.nextSequence ≤ after.catalog.nextSequence
  platform : after.store.platform = fs.store.platform
  blocked : after.store.blocked? = fs.store.blocked?
  names : after.store.names = fs.store.names
  files : after.store.files = fs.store.files
  nextFile : after.store.nextFile = fs.store.nextFile
  descriptors : after.store.descriptors = fs.store.descriptors
  directory : after.backingDirectory = fs.backingDirectory
  fallback : after.fallback = fs.fallback

theorem Kept.refl (fs : Filesystem) : fs.Kept fs :=
  ⟨rfl, Nat.le_refl _, rfl, rfl, rfl, rfl, rfl, rfl, rfl, rfl⟩

theorem Untouched.kept (same : fs.Untouched after) : fs.Kept after := by
  obtain ⟨catalog, store, directory, fallback⟩ := same
  have entries : after.catalog.entries = fs.catalog.entries ∧
      fs.catalog.nextSequence ≤ after.catalog.nextSequence := by
    rcases catalog with eq | eq <;> rw [eq]
    · exact ⟨rfl, Nat.le_refl _⟩
    · exact ⟨rfl, Nat.le_succ _⟩
  rcases store with eq | eq
  · exact ⟨entries.1, entries.2, by rw [eq], by rw [eq], by rw [eq], by rw [eq], by rw [eq],
      by rw [eq], directory, fallback⟩
  · exact ⟨entries.1, entries.2, by rw [eq]; rfl, by rw [eq]; rfl, by rw [eq]; rfl, by rw [eq]; rfl,
      by rw [eq]; rfl, by rw [eq]; rfl, directory, fallback⟩

theorem replied_error {α : Type} {reply : α → Reply} {r : Except Failure α × Filesystem}
    {f : Failure} (failed : r.1 = .error f) : (replied reply r).1 = .error f := by
  rw [replied, failed]
  rfl

theorem replied_ok {α : Type} {reply : α → Reply} {r : Except Failure α × Filesystem} {a : α}
    (done : r.1 = .ok a) : (replied reply r).1 = .ok (reply a) := by
  rw [replied, done]
  rfl

theorem Sound.pathClass_ne (sound : fs.Sound) {e : Entry}
    (found : fs.catalog.find? path = some e) : path.pathClass ≠ .root := by
  obtain ⟨class', -⟩ := newFileClass_ok.1 (sound.formed.place found)
  intro root
  rw [Path.entryClass?, root] at class'
  cases class'

theorem Sound.getAttributes_ok (sound : fs.Sound) {e : Entry}
    (found : fs.catalog.find? path = some e)
    (real : e.kind = .delegated → (∃ text, fs.realPath path = .ok text) ∧
      ∃ node, fs.store.node path.name = .ok node) :
    ∃ a, fs.getAttributes path = .ok a := by
  unfold getAttributes find
  simp only [if_neg (sound.pathClass_ne found), found]
  cases kind : e.kind with
  | synthetic => exact ⟨_, rfl⟩
  | delegated =>
    obtain ⟨⟨text, there⟩, node, named⟩ := real kind
    obtain ⟨a, known⟩ := Store.attributes_ok named
    refine ⟨a, ?_⟩
    simp only [there, known]
    rfl

theorem Transition.getAttributes_created {mode : Nat} {flags : OpenFlags} {reply : Reply}
    (sound : fs.Sound) (step : fs.Transition (.create path mode flags) (.ok reply) after) :
    ∃ a, after.getAttributes path = .ok a := by
  have sound' := step.sound sound
  cases step with
  | looked looks => cases looks
  | @madeSynthetic _ _ _ pattern =>
    have now := Catalog.find?_put_same fs.catalog.takeSequence.2
      (.synthetic path pattern fs.catalog.nextSequence)
    exact sound'.getAttributes_ok now fun kind => by cases kind
  | resetSynthetic place found =>
    have now := Catalog.find?_modify_same found (·.resize 0)
    refine sound'.getAttributes_ok now fun delegated => ?_
    have kind := Except.ok.inj (place.symm.trans (sound.formed.place found))
    cases kind.trans delegated
  | madeDelegated _ _ there made _ =>
    have now := Catalog.find?_put_same fs.catalog.takeSequence.2
      (.delegated path fs.store.nextDescriptor fs.catalog.nextSequence)
    exact sound'.getAttributes_ok now fun _ => ⟨⟨_, there⟩, _, made.node⟩
  | resetOpen _ found _ there made _ =>
    have now := Catalog.find?_modify_same ((Catalog.find?_takeSequence _ _).trans found)
      fun e => (e.resize 0).acquire
    exact sound'.getAttributes_ok now fun _ => ⟨⟨_, there⟩, _, made.node⟩
  | resetClosed _ found _ there made _ =>
    have now := Catalog.find?_modify_same ((Catalog.find?_takeSequence _ _).trans found)
      fun e => (e.resize 0).attach fs.store.nextDescriptor
    exact sound'.getAttributes_ok now fun _ => ⟨⟨_, there⟩, _, made.node⟩

theorem Transition.getAttributes_truncated {length : Nat} {reply : Reply} (sound : fs.Sound)
    (step : fs.Transition (.truncate path length) (.ok reply) after) :
    ∃ a, after.getAttributes path = .ok a := by
  have sound' := step.sound sound
  cases step with
  | looked looks => cases looks
  | cutSynthetic found kind =>
    have now := Catalog.find?_modify_same found (·.resize length)
    refine sound'.getAttributes_ok now fun delegated => ?_
    cases kind.symm.trans delegated
  | cutDelegated found _ there _ named =>
    have now := Catalog.find?_modify_same found (·.resize length)
    exact sound'.getAttributes_ok now fun _ => ⟨⟨_, there⟩, _, named⟩

end PatternFs.Filesystem
