import PatternFs.PathClass
import PatternFs.Pattern

/-! One live file of the mount. A synthetic entry is a pattern and a size. A delegated entry
stands for a real file, and while clients have it open it holds that file's descriptor together
with the number of their references. -/
namespace PatternFs

/-- An open real file that all clients of an entry share. -/
structure Holding where
  descriptor : Nat
  opens : Nat
  deriving DecidableEq

structure Entry where
  path : Path
  kind : EntryClass
  size : Nat
  pattern : Pattern
  holding? : Option Holding
  /-- The file's identity, which no other file ever has. -/
  sequence : Nat
  deriving DecidableEq

namespace Entry

def synthetic (path : Path) (pattern : Pattern) (sequence : Nat) : Entry :=
  { path, kind := .synthetic, size := 0, pattern, holding? := none, sequence }

/-- A delegated entry is born open, with its creator as the first client. -/
def delegated (path : Path) (descriptor sequence : Nat) : Entry :=
  { path, kind := .delegated, size := 0, pattern := .zero, holding? := some ⟨descriptor, 1⟩,
    sequence }

def isOpen (e : Entry) : Bool := e.holding?.isSome

def resize (e : Entry) (size : Nat) : Entry := { e with size }

def acquire (e : Entry) : Entry :=
  { e with holding? := e.holding?.map fun h => { h with opens := h.opens + 1 } }

/-- One more client of an entry, which takes `descriptor` when it was closed. -/
def attach (e : Entry) (descriptor : Nat) : Entry :=
  match e.holding? with
  | some _ => e.acquire
  | none => { e with holding? := some ⟨descriptor, 1⟩ }

def release (e : Entry) : Entry :=
  { e with
    holding? := e.holding?.bind fun h =>
      if h.opens ≤ 1 then none else some ⟨h.descriptor, h.opens - 1⟩ }

/-- The descriptor that `release` leaves without a client. -/
def lastDescriptor? (e : Entry) : Option Nat :=
  e.holding?.bind fun h => if h.opens ≤ 1 then some h.descriptor else none

/-- The descriptor that `attach` does not take. -/
def surplus? (e : Entry) (descriptor : Nat) : Option Nat :=
  if e.isOpen then some descriptor else none

theorem release_closed {e : Entry} (closed : e.holding? = none) : e.release = e := by
  obtain ⟨path, kind, size, pattern, holding?, sequence⟩ := e
  cases closed
  rfl

theorem release_acquire {e : Entry} (counted : ∀ h, e.holding? = some h → 1 ≤ h.opens) :
    e.acquire.release = e := by
  obtain ⟨path, kind, size, pattern, holding?, sequence⟩ := e
  cases holding? with
  | none => rfl
  | some h =>
    have : ¬ h.opens + 1 ≤ 1 := by have := counted h rfl; omega
    simp [acquire, release, this]

theorem lastDescriptor?_acquire {e : Entry} (counted : ∀ h, e.holding? = some h → 1 ≤ h.opens) :
    e.acquire.lastDescriptor? = none := by
  cases held : e.holding? with
  | none => simp [acquire, lastDescriptor?, held]
  | some h =>
    have : ¬ h.opens + 1 ≤ 1 := by have := counted h held; omega
    simp [acquire, lastDescriptor?, held, this]

theorem attach_closed {e : Entry} (closed : e.holding? = none) (d : Nat) :
    e.attach d = { e with holding? := some ⟨d, 1⟩ } := by
  rw [attach, closed]

theorem attach_open {e : Entry} {h : Holding} (held : e.holding? = some h) (d : Nat) :
    e.attach d = e.acquire := by
  rw [attach, held]

theorem release_attach {e : Entry} (closed : e.holding? = none) (d : Nat) :
    (e.attach d).release = e := by
  rw [attach_closed closed]
  obtain ⟨path, kind, size, pattern, holding?, sequence⟩ := e
  cases closed
  rfl

theorem lastDescriptor?_attach {e : Entry} (closed : e.holding? = none) (d : Nat) :
    (e.attach d).lastDescriptor? = some d := by
  rw [attach_closed closed]
  rfl

end Entry

end PatternFs
