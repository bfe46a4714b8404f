import PatternFs.Backing
import PatternFs.Store

/-! Work on the backing directory without a mount. Named slots hold open files, and any number of
further references to these files can be kept beside the slots, under names of their own. A file
stays open, and stays the same file, until the last reference to it is gone. -/
namespace PatternFs.Backing

structure Session where
  directory : String
  store : Store
  slots : Table String Nat
  /-- Further references, by name. -/
  kept : Table String Nat

/-- A slot, or the further reference under its name. A reference that is missing leaves the slot
itself. -/
structure Place where
  slot : String
  beside : Bool
  deriving DecidableEq

inductive Request
  | create (path : Path) (slot : String) (mode : Nat) (exclusive : Bool)
  | openFile (path : Path) (slot : String)
  | read (place : Place) (offset length : Nat)
  | write (place : Place) (offset : Nat) (data : List UInt8)
  | truncate (path : Path) (length : Nat)
  | rename (old new : Path)
  | remove (path : Path)
  | attributes (path : Path)
  | close (slot : String)
  /-- Takes a further reference and keeps it under `name`. -/
  | share (place : Place) (name : String)
  | drop (name : String)
  deriving DecidableEq

/-- The further reference gets the name of the slot. -/
def Request.keep (place : Place) : Request := .share place place.slot

inductive Reply
  | done
  /-- There is no open file at the place. -/
  | noFile
  | count (n : Nat)
  | bytes (data : List UInt8)
  | attributes (a : Attributes)
  | flag (b : Bool)
  deriving DecidableEq

namespace Session

def start (directory : String) (store : Store) : Session :=
  { directory, store, slots := .empty, kept := .empty }

def descriptor? (s : Session) (place : Place) : Option Nat :=
  if place.beside then (s.kept.find? place.slot).or (s.slots.find? place.slot)
  else s.slots.find? place.slot

/-- Runs `f` on the name that the path has in the directory. -/
def onReal {α : Type} (s : Session) (path : Path)
    (f : String → Store → Except HostError α × Store) : Except Failure α × Session :=
  match realPath s.directory path with
  | .error e => (.error e, s)
  | .ok _ =>
    let (r, store) := f path.name s.store
    (r.mapError .host, { s with store })

/-- Puts a file that was opened into a slot, and lets go of what was there. -/
def occupy (slot : String) (r : Except Failure Nat × Session) : Except Failure Reply × Session :=
  match r with
  | (.error e, s) => (.error e, s)
  | (.ok d, s) =>
    (.ok .done,
      { s with
        slots := s.slots.insert slot d
        store := s.store.releaseAll (s.slots.find? slot).toList })

def replied {α : Type} (f : α → Reply) (r : Except Failure α × Session) :
    Except Failure Reply × Session := (r.1.map f, r.2)

def onFile {α : Type} (s : Session) (place : Place) (reply : α → Reply)
    (f : Nat → Store → Except HostError α × Store) : Except Failure Reply × Session :=
  match s.descriptor? place with
  | none => (.ok .noFile, s)
  | some d =>
    let (r, store) := f d s.store
    ((r.map reply).mapError .host, { s with store })

def closeReply : Option HostError → Except Failure Reply
  | none => .ok (.flag true)
  | some e => .error (.host e)

/-- The slot is empty afterwards, also when the host reports an error. -/
def close (s : Session) (slot : String) : Except Failure Reply × Session :=
  match s.slots.find? slot with
  | none => (.ok (.flag false), s)
  | some d =>
    (closeReply (s.store.closeError? d),
      { s with slots := s.slots.erase slot, store := s.store.release d })

/-- Nobody asks what the host reports here. -/
def drop (s : Session) (name : String) : Except Failure Reply × Session :=
  match s.kept.find? name with
  | none => (.ok (.flag false), s)
  | some d => (.ok (.flag true), { s with kept := s.kept.erase name, store := s.store.release d })

/-- The new reference is taken before the one that had the name is let go. -/
def share (s : Session) (place : Place) (name : String) : Except Failure Reply × Session :=
  match s.descriptor? place with
  | none => (.ok (.flag false), s)
  | some d =>
    (.ok (.flag true),
      { s with
        kept := s.kept.insert name d
        store := (s.store.retain d).releaseAll (s.kept.find? name).toList })

/-- Both paths are checked before anything is moved, the old one first. -/
def rename (s : Session) (old new : Path) : Except Failure Unit × Session :=
  match realPath s.directory old with
  | .error e => (.error e, s)
  | .ok _ => s.onReal new fun name store => store.rename old.name name

def answer (s : Session) : Request → Except Failure Reply × Session
  | .create path slot mode exclusive =>
    occupy slot (s.onReal path fun name store => store.create name mode exclusive)
  | .openFile path slot => occupy slot (s.onReal path fun name store => store.openExisting name)
  | .read place offset length =>
    s.onFile place .bytes fun d store => (store.read d offset length, store)
  | .write place offset data =>
    s.onFile place (fun _ => .count data.length) fun d store => store.write d offset data
  | .truncate path length =>
    replied (fun _ => .done) (s.onReal path fun name store => store.truncate name length)
  | .rename old new => replied (fun _ => .done) (s.rename old new)
  | .remove path => replied (fun _ => .done) (s.onReal path fun name store => store.remove name)
  | .attributes path =>
    replied .attributes (s.onReal path fun name store => (store.attributes name, store))
  | .close slot => s.close slot
  | .share place name => s.share place name
  | .drop name => s.drop name

/-- The same state on another host. -/
def on (s : Session) (platform : Platform) : Session :=
  { s with store := { s.store with platform } }

/-- The state after a sequence of requests, each with the host as it is then. -/
def executeOn : List (Platform × Request) → Session → Session
  | [], s => s
  | (platform, q) :: rest, s => executeOn rest ((s.on platform).answer q).2

end Session

end PatternFs.Backing
