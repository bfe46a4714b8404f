import PatternFs.Catalog

/-! What one fact about entries says of a catalog, path by path, and what becomes of it in each
change of the catalog. The facts in use are the descriptor that an entry holds, and the link of a
delegated entry. -/
namespace PatternFs

namespace Entry

variable {e : Entry}

def descriptor? (e : Entry) : Option Nat := e.holding?.map Holding.descriptor

/-- The descriptor, if any, through which a delegated entry reaches its file. -/
def link? (e : Entry) : Option (Option Nat) :=
  if e.kind = .delegated then some e.descriptor? else none

theorem link?_delegated (kind : e.kind = .delegated) : e.link? = some e.descriptor? := if_pos kind

theorem link?_synthetic (kind : e.kind = .synthetic) : e.link? = none := by
  rw [link?, kind]
  rfl

theorem link?_eq_some {d? : Option Nat} :
    e.link? = some d? ↔ e.kind = .delegated ∧ e.descriptor? = d? := by
  unfold link?
  split
  · next kind => simp [kind]
  · next kind => simp [kind]

@[simp] theorem descriptor?_resize (size : Nat) : (e.resize size).descriptor? = e.descriptor? := rfl

@[simp] theorem descriptor?_acquire : e.acquire.descriptor? = e.descriptor? := by
  simp only [descriptor?, acquire, Option.map_map]
  rfl

@[simp] theorem link?_resize (size : Nat) : (e.resize size).link? = e.link? := rfl

@[simp] theorem link?_acquire : e.acquire.link? = e.link? := by
  rw [link?, descriptor?_acquire]
  rfl

theorem descriptor?_attach (closed : e.holding? = none) (d : Nat) :
    (e.attach d).descriptor? = some d := by
  rw [attach_closed closed]
  rfl

theorem descriptor?_release :
    e.release.descriptor? = if e.lastDescriptor?.isSome then none else e.descriptor? := by
  cases held : e.holding? with
  | none => simp [descriptor?, release, lastDescriptor?, held]
  | some h =>
    by_cases last : h.opens ≤ 1 <;> simp [descriptor?, release, lastDescriptor?, held, last]

theorem descriptor?_of_last {d : Nat} (last : e.lastDescriptor? = some d) :
    e.descriptor? = some d := by
  obtain ⟨h, held, only⟩ := Option.bind_eq_some_iff.1 last
  split at only
  · cases only
    rw [descriptor?, held]
    rfl
  · cases only

end Entry

namespace Catalog

variable {α : Type} {c : Catalog} {path : Path} {e : Entry} {f : Entry → Option α}

/-- What `f` says of the entry at each path. -/
def view (f : Entry → Option α) (c : Catalog) (path : Path) : Option α := (c.find? path).bind f

theorem view_of_find? (found : c.find? path = some e) : c.view f path = f e := by
  rw [view, found]
  rfl

theorem view_of_vacant (vacant : c.find? path = none) : c.view f path = none := by
  rw [view, vacant]
  rfl

@[simp] theorem view_takeSequence : c.takeSequence.2.view f = c.view f := rfl

theorem view_put (new : Entry) :
    (c.put new).view f = fun other => if other = new.path then f new else c.view f other := by
  funext other
  rw [view, find?_put]
  split <;> rfl

/-- Adding what `f` says nothing of, at a free path. -/
theorem view_put_same {new : Entry} (vacant : c.find? new.path = none) (silent : f new = none) :
    (c.put new).view f = c.view f := by
  rw [view_put]
  funext other
  split
  · next eq => rw [silent, eq, view_of_vacant vacant]
  · rfl

theorem view_modify (found : c.find? path = some e) (g : Entry → Entry) :
    (c.modify path g).view f = fun other => if other = path then f (g e) else c.view f other := by
  funext other
  rw [view, find?_modify, found]
  split <;> rfl

theorem view_modify_same (path : Path) {g : Entry → Entry} (same : ∀ e, f (g e) = f e) :
    (c.modify path g).view f = c.view f := by
  funext other
  rw [view, find?_modify]
  split
  · next eq =>
    rw [eq, view]
    cases c.find? path with
    | none => rfl
    | some e => exact same e
  · rfl

theorem view_remove :
    (c.remove path).view f = fun other => if other = path then none else c.view f other := by
  funext other
  rw [view, find?_remove]
  split <;> rfl

theorem view_remove_same (silent : c.view f path = none) : (c.remove path).view f = c.view f := by
  rw [view_remove]
  funext other
  split
  · next eq => rw [eq, silent]
  · rfl

theorem view_move {old : Path} (new : Path)
    (blind : ∀ e : Entry, f { e with path := new } = f e) (found : c.find? old = some e) :
    (c.move old new).view f = fun other =>
      if other = new then c.view f old else if other = old then none else c.view f other := by
  funext other
  rw [view, find?_move found, view_of_find? found]
  split
  · exact blind e
  · split <;> rfl

theorem view_move_same {old new : Path} (blind : ∀ e : Entry, f { e with path := new } = f e)
    (found : c.find? old = some e) (silent : c.view f old = none) (vacant : c.find? new = none) :
    (c.move old new).view f = c.view f := by
  rw [view_move new blind found, silent]
  funext other
  split
  · next eq => rw [eq, view_of_vacant vacant]
  · split
    · next eq => rw [eq, silent]
    · rfl

end Catalog

end PatternFs
