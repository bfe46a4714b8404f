import PatternFs.Config.Validation
import PatternFs.Host

/-! Configurations on a host: read from a file, pointed at the true place of the backing directory,
and checked. -/
namespace PatternFs.Config

def ofText? (l : Json.Library) (s : String) : Option Config := do (codec l).read? (← l.parse? s)

/-- A text that is no configuration is refused in the name of the file it came from. -/
def ofText (l : Json.Library) (path s : String) : Except Failure Config :=
  match ofText? l s with
  | some c => .ok c
  | none => .error (.invalidArgument path .malformedConfig)

def loadWith (l : Json.Library) (h : Host) (path : String) : Except Failure Config :=
  match h.readText path with
  | .ok s => ofText l path s
  | .error e => .error (.host e)

/-- Replaces the backing directory by its absolute path without links. -/
def resolve (h : Host) (c : Config) : Except Failure Config :=
  match h.canonical c.backingDirectory with
  | .ok directory => .ok { c with backingDirectory := directory }
  | .error e => .error (.host e)

def problemsOn (h : Host) (c : Config) : List String := c.problems h.isDirectory h.pathExists

end PatternFs.Config
