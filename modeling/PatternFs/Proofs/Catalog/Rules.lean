import PatternFs.Filesystem

/-! The rules that the entries of a mount keep, and that every change of the catalog keeps them: an
entry stands under its own path, that path can be a file of the entry's class, and only a delegated
entry holds a descriptor, for at least one client. -/
namespace PatternFs

namespace Path

variable {p q : Path}

theorem components_of_isTopLevel (top : p.isTopLevel = true) : p.components = [p.name] := by
  obtain ⟨components, valid⟩ := p
  match components with
  | [] => cases top
  | [c] => rfl
  | _ :: _ :: _ => simp [isTopLevel] at top

theorem isComponent_name (top : p.isTopLevel = true) : IsComponent p.name := by
  apply p.valid
  rw [components_of_isTopLevel top]
  exact List.mem_singleton.2 rfl

theorem child_name (top : p.isTopLevel = true) : child p.name = p := by
  apply Path.ext
  rw [components_of_isTopLevel top]
  exact componentsOf_child (isComponent_name top)

theorem eq_of_name_eq (top : p.isTopLevel = true) (top' : q.isTopLevel = true)
    (same : p.name = q.name) : p = q := by
  apply Path.ext
  rw [components_of_isTopLevel top, components_of_isTopLevel top', same]

end Path

namespace Filesystem

theorem newFileClass_ok {path : Path} {kind : EntryClass} :
    newFileClass path = .ok kind ↔
      path.entryClass? = some kind ∧ path.isTopLevel = true ∧ path.name ≠ "." ∧
        path.name ≠ ".." ∧ path.name.utf8ByteSize ≤ nameLimit := by
  unfold newFileClass
  cases path.entryClass? with
  | none => simp
  | some found =>
    by_cases top : path.isTopLevel = true
    · by_cases special : path.name = "." ∨ path.name = ".."
      · simp only [top, not_true_eq_false, if_false, if_pos special]
        constructor
        · intro impossible; cases impossible
        · rintro ⟨-, -, notDot, notDots, -⟩
          rcases special with dot | dots
          · exact absurd dot notDot
          · exact absurd dots notDots
      · obtain ⟨notDot, notDots⟩ := not_or.1 special
        by_cases long : path.name.utf8ByteSize > nameLimit
        · simp [top, notDot, notDots, if_pos long, Nat.not_le.2 long]
        · simp [top, notDot, notDots, if_neg long, Nat.not_lt.1 long]
    · simp [top]

end Filesystem

/-- What holds of every live entry, whatever became of its real file. -/
structure Entry.WellFormed (e : Entry) : Prop where
  place : Filesystem.newFileClass e.path = .ok e.kind
  closed : e.kind = .synthetic → e.holding? = none
  counted : ∀ h, e.holding? = some h → 1 ≤ h.opens

namespace Entry

variable {e : Entry}

theorem wellFormed_synthetic {path : Path} (place : Filesystem.newFileClass path = .ok .synthetic)
    (pattern : Pattern) (sequence : Nat) : (synthetic path pattern sequence).WellFormed where
  place := place
  closed _ := rfl
  counted _ held := by cases held

theorem wellFormed_delegated {path : Path} (place : Filesystem.newFileClass path = .ok .delegated)
    (d sequence : Nat) : (delegated path d sequence).WellFormed where
  place := place
  closed impossible := by cases impossible
  counted h held := by cases held; exact Nat.le_refl 1

namespace WellFormed

theorem resize (formed : e.WellFormed) (size : Nat) : (e.resize size).WellFormed :=
  ⟨formed.place, formed.closed, formed.counted⟩

theorem acquire (formed : e.WellFormed) : e.acquire.WellFormed where
  place := formed.place
  closed synthetic := by simp [Entry.acquire, formed.closed synthetic]
  counted h held := by
    obtain ⟨before, _, rfl⟩ := Option.map_eq_some_iff.1 held
    exact Nat.le_add_left 1 _

theorem attach (formed : e.WellFormed) (delegated : e.kind = .delegated) (d : Nat) :
    (e.attach d).WellFormed := by
  unfold Entry.attach
  split
  · exact formed.acquire
  · refine ⟨formed.place, fun synthetic => ?_, fun h held => ?_⟩
    · rw [delegated] at synthetic; cases synthetic
    · cases held; exact Nat.le_refl 1

theorem release (formed : e.WellFormed) : e.release.WellFormed where
  place := formed.place
  closed synthetic := by simp [Entry.release, formed.closed synthetic]
  counted h held := by
    obtain ⟨before, _, remains⟩ := Option.bind_eq_some_iff.1 held
    split at remains
    · cases remains
    · next several => cases remains; exact Nat.le_sub_one_of_lt (Nat.not_le.1 several)

end WellFormed

end Entry

structure Catalog.WellFormed (c : Catalog) : Prop where
  own : ∀ path e, c.find? path = some e → e.path = path
  formed : ∀ path e, c.find? path = some e → e.WellFormed

namespace Catalog.WellFormed

variable {c : Catalog}

theorem place (formed : c.WellFormed) {path : Path} {e : Entry} (found : c.find? path = some e) :
    Filesystem.newFileClass path = .ok e.kind := by
  have here := (formed.formed path e found).place
  rwa [formed.own path e found] at here

theorem isTopLevel (formed : c.WellFormed) {path : Path} {e : Entry}
    (found : c.find? path = some e) : path.isTopLevel = true :=
  (Filesystem.newFileClass_ok.1 (formed.place found)).2.1

theorem mem_names (formed : c.WellFormed) {name : String} :
    name ∈ c.names ↔ ∃ path e, c.find? path = some e ∧ path.name = name := by
  constructor
  · intro listed
    obtain ⟨e, live, rfl⟩ := List.mem_map.1 listed
    obtain ⟨⟨path, _⟩, row, rfl⟩ := List.mem_map.1 live
    have found : c.find? path = some _ := Table.mem_rows_iff.1 row
    exact ⟨path, _, found, by rw [formed.own path _ found]⟩
  · rintro ⟨path, e, found, rfl⟩
    refine List.mem_map.2 ⟨e, List.mem_map.2 ⟨(path, e), Table.mem_rows_iff.2 found, rfl⟩, ?_⟩
    rw [formed.own path e found]

theorem nodup_names (formed : c.WellFormed) : c.names.Nodup := by
  rw [names, Table.values, List.map_map, List.Nodup, List.pairwise_map]
  refine (List.pairwise_map.1 c.entries.distinct).imp_of_mem ?_
  rintro ⟨path, e⟩ ⟨other, e'⟩ member member' different same
  have found : c.find? path = some e := Table.mem_rows_iff.1 member
  have found' : c.find? other = some e' := Table.mem_rows_iff.1 member'
  simp only [Function.comp_apply, formed.own path e found, formed.own other e' found'] at same
  exact different (Path.eq_of_name_eq (formed.isTopLevel found) (formed.isTopLevel found') same)

/-- Taking an entry away takes its name out of the listing and leaves the others where they are. -/
theorem names_remove (formed : c.WellFormed) {path : Path} (top : path.isTopLevel = true) :
    (c.remove path).names = c.names.filter (· ≠ path.name) := by
  simp only [names, Table.values, List.map_map, remove, Table.erase, List.filter_map]
  refine congrArg (List.map _) (List.filter_congr ?_)
  rintro ⟨other, e⟩ member
  have found : c.find? other = some e := Table.mem_rows_iff.1 member
  have same : other.name = path.name ↔ other = path :=
    ⟨Path.eq_of_name_eq (formed.isTopLevel found) top, congrArg Path.name⟩
  simp [formed.own other e found, same]

theorem of_vacant (vacant : ∀ path, c.find? path = none) : c.WellFormed := by
  constructor
  all_goals
    intro path e found
    rw [vacant] at found
    cases found

theorem empty : Catalog.empty.WellFormed := of_vacant fun _ => rfl

theorem takeSequence (formed : c.WellFormed) : c.takeSequence.2.WellFormed :=
  ⟨formed.own, formed.formed⟩

theorem put (formed : c.WellFormed) {e : Entry} (new : e.WellFormed) : (c.put e).WellFormed := by
  constructor
  all_goals
    intro path found here
    rw [find?_put] at here
    split at here
  · next at' => cases here; exact at'.symm
  · exact formed.own path found here
  · cases here; exact new
  · exact formed.formed path found here

theorem modify (formed : c.WellFormed) {path : Path} {f : Entry → Entry}
    (own : ∀ e, (f e).path = e.path)
    (keeps : ∀ e, c.find? path = some e → e.WellFormed → (f e).WellFormed) :
    (c.modify path f).WellFormed := by
  constructor
  all_goals
    intro other found here
    rw [find?_modify] at here
    split at here
  · next at' =>
    obtain ⟨e, before, rfl⟩ := Option.map_eq_some_iff.1 here
    rw [own, at', formed.own path e before]
  · exact formed.own other found here
  · obtain ⟨e, before, rfl⟩ := Option.map_eq_some_iff.1 here
    exact keeps e before (formed.formed path e before)
  · exact formed.formed other found here

theorem resize (formed : c.WellFormed) (path : Path) (size : Nat) :
    (c.modify path (·.resize size)).WellFormed :=
  formed.modify (fun _ => rfl) fun _ _ rules => rules.resize size

theorem remove (formed : c.WellFormed) (path : Path) : (c.remove path).WellFormed := by
  constructor
  all_goals
    intro other found here
    rw [find?_remove] at here
    split at here
  · cases here
  · exact formed.own other found here
  · cases here
  · exact formed.formed other found here

theorem move (formed : c.WellFormed) {old new : Path} {e : Entry} (found : c.find? old = some e)
    (place : Filesystem.newFileClass new = .ok e.kind) : (c.move old new).WellFormed := by
  have before := formed.formed old e found
  constructor
  all_goals
    intro other entry here
    rw [find?_move found] at here
    split at here
    · next at' => cases here; first | exact at'.symm | exact ⟨place, before.closed, before.counted⟩
    split at here
    · cases here
    · first | exact formed.own other entry here | exact formed.formed other entry here

theorem drained (c : Catalog) : c.drained.WellFormed := of_vacant fun _ => rfl

end Catalog.WellFormed

end PatternFs
