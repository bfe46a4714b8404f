import PatternFs.Proofs.Filesystem.Reachable

/-! What a client can rely on about the live entries of a mount. -/
namespace PatternFs.Filesystem

variable {fs : Filesystem}

/-- The live entry that an operation makes take a new descriptor, if it comes to that. -/
def attaches? (fs : Filesystem) : Operation → Option Entry
  | .create path mode flags =>
    match newFileClass path, (fs.create path mode flags).1 with
    | .ok .delegated, .ok _ => fs.catalog.find? path
    | _, _ => none
  | .openFile path _ =>
    match fs.catalog.find? path with
    | none => none
    | some e =>
      match e.kind, e.holding?, (fs.openReal path).1 with
      | .delegated, none, .ok _ => some e
      | _, _, _ => none
  | _ => none

/-- The class of an entry follows its name, so a descriptor never goes to a synthetic one. -/
theorem Sound.attaches_delegated (sound : fs.Sound) {op : Operation} {e : Entry}
    (attaches : fs.attaches? op = some e) : e.kind = .delegated := by
  cases op with
  | create path mode flags =>
    simp only [attaches?] at attaches
    split at attaches
    · next place _ => exact (Except.ok.inj (place.symm.trans (sound.formed.place attaches))).symm
    · cases attaches
  | openFile path flags =>
    simp only [attaches?] at attaches
    split at attaches
    · cases attaches
    · split at attaches
      · next kind _ _ => cases attaches; exact kind
      · cases attaches
  | _ => cases attaches

/-- In every state a live entry stands under its own path, which is one that a file of its class can
have, and holds a descriptor only if it is delegated, for at least one client. -/
theorem entries_of_reachable (reachable : fs.Reachable) :
    (∀ path e, fs.catalog.find? path = some e →
      e.path = path ∧ path.isTopLevel = true ∧ path.name ≠ "" ∧ path.name ≠ "." ∧
        path.name ≠ ".." ∧ path.name.utf8ByteSize ≤ nameLimit ∧ path.entryClass? = some e.kind ∧
        (e.kind = .synthetic → e.holding? = none) ∧ ∀ h, e.holding? = some h → 1 ≤ h.opens) ∧
      ∀ op e, fs.attaches? op = some e → e.kind = .delegated := by
  have sound := reachable.sound
  refine ⟨fun path e found => ?_, fun op e attaches => sound.attaches_delegated attaches⟩
  have rules := sound.formed.formed path e found
  obtain ⟨class', top, notDot, notDots, short⟩ := newFileClass_ok.1 (sound.formed.place found)
  obtain ⟨named, -, -⟩ := Path.isComponent_name top
  exact ⟨sound.formed.own path e found, top, named, notDot, notDots, short, class', rules.closed,
    rules.counted⟩

/-- A second creation finds the entry that the first one left, and an outsider has put the null
device in the place of its file. -/
theorem entries_of_recreated :
    let path : Path := ⟨["a.mhash"], by simp [IsComponent]⟩
    let create : Operation := .create path 0 (.ofBits 7)
    let made := ((start "/d" .counter .empty).perform create).2
    let changed := { made with
      store := ((made.store.outside "a.mhash" .remove).2.outside "a.mhash" .linkNull).2 }
    ∃ e, changed.attaches? create = some e ∧ e.kind = .delegated ∧
      e.holding? = some ⟨0, 1⟩ ∧ e.path = path ∧ path.entryClass? = some e.kind := by
  intro path create made changed
  have reachable : changed.Reachable := by
    refine .outside (.perform create (.start "/d" .counter rfl)) ?_
    have first := Store.outsideChange_outside made.store "a.mhash" .remove
    exact first.trans (Store.outsideChange_outside _ "a.mhash" .linkNull)
  obtain ⟨entries, descriptors⟩ := entries_of_reachable reachable
  have found : changed.catalog.find? path = some (.delegated path 0 1) := by decide +kernel
  have attaches : changed.attaches? create = some (.delegated path 0 1) := by decide +kernel
  obtain ⟨own, -, -, -, -, -, class', -, -⟩ := entries path _ found
  exact ⟨_, attaches, descriptors create _ attaches, rfl, own, class'⟩

end PatternFs.Filesystem
