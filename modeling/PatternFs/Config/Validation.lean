import PatternFs.Config
import PatternFs.HostPath
import PatternFs.Text.Quoted

/-! What keeps a configuration from being mounted. The backing directory has to be given, absolute
and there; the directory of a log file has to be there, unless the log file has no directory part.
-/
namespace PatternFs.Config

/-- The objection to the backing directory, if there is one. -/
def backingProblem? (isDirectory : String → Bool) (directory : String) : Option String :=
  if directory = "" then some "Backing directory must be specified (realstore=PATH)"
  else if ¬ HostPath.isAbsolute directory then
    some ("Backing directory must be absolute: " ++ Text.quoted directory)
  else if ¬ isDirectory directory then
    some ("Backing directory does not exist: " ++ Text.quoted directory)
  else none

/-- The directory that has to be there for the log file. -/
def logDirectory? (c : Config) : Option String :=
  match c.logFile?.bind HostPath.parent? with
  | some "" => none
  | directory? => directory?

def logProblem? (pathExists : String → Bool) (c : Config) : Option String :=
  match c.logDirectory? with
  | some directory =>
    if pathExists directory then none
    else some ("Log file directory does not exist: " ++ Text.quoted directory)
  | none => none

/-- Everything that is wrong, in the order in which it is reported. What the host holds is asked
through the two predicates. -/
def problems (isDirectory pathExists : String → Bool) (c : Config) : List String :=
  (backingProblem? isDirectory c.backingDirectory).toList ++ (logProblem? pathExists c).toList

end PatternFs.Config
