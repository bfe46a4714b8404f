import PatternFs.Path
import PatternFs.Table

/-! Inode numbers of the mount. A path gets its number when it is first asked for and keeps it
when it is renamed. Numbers are given out in order, and none of them twice. -/
namespace PatternFs

structure InodeTable where
  paths : Table Nat Path
  numbers : Table Path Nat
  /-- The number that the next new path gets. -/
  next : Nat

namespace InodeTable

def rootNumber : Nat := 1

/-- Only the root has a number from the beginning. -/
def start : InodeTable :=
  { paths := Table.empty.insert rootNumber .root
    numbers := Table.empty.insert .root rootNumber
    next := rootNumber + 1 }

def path? (t : InodeTable) (number : Nat) : Option Path := t.paths.find? number

def number? (t : InodeTable) (path : Path) : Option Nat := t.numbers.find? path

def size (t : InodeTable) : Nat := t.paths.size

def isEmpty (t : InodeTable) : Bool := t.size == 0

def link (t : InodeTable) (number : Nat) (path : Path) : InodeTable :=
  { t with paths := t.paths.insert number path, numbers := t.numbers.insert path number }

/-- The number of `path`, which is a new one if it had none. -/
def assign (t : InodeTable) (path : Path) : Nat × InodeTable :=
  match t.number? path with
  | some number => (number, t)
  | none => (t.next, { t.link t.next path with next := t.next + 1 })

def drop (t : InodeTable) (path : Path) : InodeTable :=
  match t.number? path with
  | none => t
  | some number =>
    { t with paths := t.paths.erase number, numbers := t.numbers.erase path }

/-- The number of `old` stands for `new` from now on. A number that `new` had stands for nothing. -/
def rename (t : InodeTable) (old new : Path) : InodeTable :=
  let t := t.drop new
  match t.number? old with
  | none => t
  | some number => { t with numbers := t.numbers.erase old }.link number new

/-- Nothing makes the root go away. -/
def forget (t : InodeTable) (path : Path) : InodeTable := if path.isRoot then t else t.drop path

/-- Gives numbers to all the paths, from the first one on. -/
def assignAll : List Path → InodeTable → List Nat × InodeTable
  | [], t => ([], t)
  | path :: paths, t =>
    let (number, t) := t.assign path
    let (numbers, t) := assignAll paths t
    (number :: numbers, t)

theorem number?_assign (t : InodeTable) (path : Path) :
    (t.assign path).2.number? path = some (t.assign path).1 := by
  unfold assign
  cases h : t.number? path with
  | some number => exact h
  | none => simp [number?, link]

end InodeTable

end PatternFs
