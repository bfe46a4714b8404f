import PatternFs.Entry
import PatternFs.Failure
import PatternFs.Table

/-! The live entries of the mount by path, and the sequence id that the next file will have. The
catalog never touches a real file; where an operation leaves a descriptor without an owner, the
caller is told. -/
namespace PatternFs

structure Catalog where
  entries : Table Path Entry
  nextSequence : Nat

namespace Catalog

def empty : Catalog := ⟨.empty, 1⟩

def find? (c : Catalog) (path : Path) : Option Entry := c.entries.find? path

def contains (c : Catalog) (path : Path) : Bool := c.entries.contains path

def size (c : Catalog) : Nat := c.entries.size

def takeSequence (c : Catalog) : Nat × Catalog :=
  (c.nextSequence, { c with nextSequence := c.nextSequence + 1 })

def put (c : Catalog) (e : Entry) : Catalog := { c with entries := c.entries.insert e.path e }

def modify (c : Catalog) (path : Path) (f : Entry → Entry) : Catalog :=
  { c with entries := c.entries.modify path f }

def insert (c : Catalog) (e : Entry) : Except Failure Unit × Catalog :=
  if c.contains e.path then (.error (.alreadyExists e.path), c) else (.ok (), c.put e)

/-- What lives at the entry's path afterwards: its id, and the descriptor that found no owner. -/
structure Placed where
  sequence : Nat
  surplus? : Option Nat
  deriving DecidableEq

/-- Adds the entry, or empties the resident one and lets it take the new one's descriptor if it has
none. -/
def insertOrReset (c : Catalog) (e : Entry) (exclusive : Bool) : Except Failure Placed × Catalog :=
  match c.find? e.path with
  | none => (.ok ⟨e.sequence, none⟩, c.put e)
  | some resident =>
    if exclusive then (.error (.alreadyExists e.path), c)
    else
      match e.holding? with
      | none => (.ok ⟨resident.sequence, none⟩, c.modify e.path (·.resize 0))
      | some h =>
        (.ok ⟨resident.sequence, resident.surplus? h.descriptor⟩,
          c.modify e.path fun entry => (entry.resize 0).attach h.descriptor)

/-- Empties the entry at `path` and gives its id; nothing happens where there is no entry. -/
def resetExisting (c : Catalog) (path : Path) (exclusive : Bool) :
    Except Failure (Option Nat) × Catalog :=
  match c.find? path with
  | none => (.ok none, c)
  | some resident =>
    if exclusive then (.error (.alreadyExists path), c)
    else (.ok (some resident.sequence), c.modify path (·.resize 0))

def remove (c : Catalog) (path : Path) : Catalog := { c with entries := c.entries.erase path }

/-- The class of the file at `old` if it may get the path `new`: `new` is free and of the same
class. -/
def checkRename (c : Catalog) (old new : Path) : Except Failure EntryClass :=
  match c.find? old with
  | none => .error (.notFound old)
  | some e =>
    if c.contains new then .error (.alreadyExists new)
    else
      match new.entryClass? with
      | none => .error (.invalidPath new .ontoRoot)
      | some kind =>
        if kind ≠ e.kind then .error (.invalidPath old (.crossesClasses new)) else .ok e.kind

/-- Moves the entry at `old`, which keeps everything but its path. -/
def move (c : Catalog) (old new : Path) : Catalog :=
  match c.find? old with
  | none => c
  | some e => { c with entries := (c.entries.erase old).insert new { e with path := new } }

def rename (c : Catalog) (old new : Path) : Except Failure Unit × Catalog :=
  match c.checkRename old new with
  | .error f => (.error f, c)
  | .ok _ => (.ok (), c.move old new)

def names (c : Catalog) : List String := c.entries.values.map (·.path.name)

/-- Empties the catalog; ids go on from where they are. -/
def drained (c : Catalog) : Catalog := { c with entries := .empty }

theorem find?_put (c : Catalog) (e : Entry) (path : Path) :
    (c.put e).find? path = if path = e.path then some e else c.find? path :=
  Table.find?_insert _ _ _ _

theorem find?_put_same (c : Catalog) (e : Entry) : (c.put e).find? e.path = some e := by
  rw [find?_put, if_pos rfl]

theorem find?_modify (c : Catalog) (at' path : Path) (f : Entry → Entry) :
    (c.modify at' f).find? path = if path = at' then (c.find? at').map f else c.find? path :=
  Table.find?_modify _ _ _ _

theorem find?_modify_same {c : Catalog} {path : Path} {e : Entry}
    (found : c.find? path = some e) (f : Entry → Entry) :
    (c.modify path f).find? path = some (f e) := by
  rw [find?_modify, if_pos rfl, found]
  rfl

theorem modify_congr {c : Catalog} {path : Path} {e : Entry} (found : c.find? path = some e)
    {f g : Entry → Entry} (same : f e = g e) : c.modify path f = c.modify path g := by
  have agree : ∀ v, c.entries.find? path = some v → f v = g v := by
    intro v here
    cases found.symm.trans here
    exact same
  rw [modify, modify, Table.modify_congr _ agree]

theorem find?_remove (c : Catalog) (at' path : Path) :
    (c.remove at').find? path = if path = at' then none else c.find? path :=
  Table.find?_erase _ _ _

theorem find?_move {c : Catalog} {old : Path} {e : Entry} (found : c.find? old = some e)
    (new path : Path) :
    (c.move old new).find? path =
      if path = new then some { e with path := new }
      else if path = old then none
      else c.find? path := by
  rw [move, found]
  change ((c.entries.erase old).insert new _).find? path = _
  rw [Table.find?_insert, Table.find?_erase]
  rfl

@[simp] theorem find?_empty (path : Path) : empty.find? path = none := rfl

@[simp] theorem find?_takeSequence (c : Catalog) (path : Path) :
    c.takeSequence.2.find? path = c.find? path := rfl

theorem contains_iff {c : Catalog} {path : Path} :
    c.contains path = true ↔ ∃ e, c.find? path = some e := Option.isSome_iff_exists

theorem checkRename_ok {c : Catalog} {old new : Path} {kind : EntryClass}
    (checked : c.checkRename old new = .ok kind) :
    ∃ e, c.find? old = some e ∧ e.kind = kind ∧ c.find? new = none ∧
      new.entryClass? = some kind := by
  unfold checkRename at checked
  split at checked
  · cases checked
  · next e found =>
    split at checked
    · cases checked
    · next free =>
      split at checked
      · cases checked
      · next kind' class' =>
        split at checked
        · cases checked
        · next same =>
          rw [Decidable.not_not] at same
          cases checked
          refine ⟨e, found, rfl, ?_, same ▸ class'⟩
          rw [contains_iff, not_exists] at free
          exact Option.eq_none_iff_forall_ne_some.2 free

end Catalog

end PatternFs
