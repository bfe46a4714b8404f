/-! Path texts of the host. They are kept as they were given: nothing is resolved or shortened until
the host looks a path up. -/
namespace PatternFs.HostPath

def isAbsolute (path : String) : Bool := path.toList.head? == some '/'

/-- `name` below the directory `base`. An absolute name stands for itself. -/
def join (base name : String) : String :=
  if isAbsolute name || base = "" then name
  else if base.toList.getLast? = some '/' then base ++ name
  else base ++ "/" ++ name

/-- Segments that name nothing: those between repeated separators, and `.`. -/
def isFiller (segment : List Char) : Bool := segment = [] || segment = ['.']

/-- The part in front that no component can be taken from: the root, or a leading `.`. -/
def anchor (cs : List Char) : List Char :=
  match cs with
  | '/' :: _ => ['/']
  | ['.'] => ['.']
  | '.' :: '/' :: _ => ['.']
  | _ => []

/-- The path without its last component, and without the separators and fillers before that. The
root and the empty path have no parent; a path of one component has the empty one. -/
def parent? (path : String) : Option String :=
  let cs := path.toList
  let front := anchor cs
  match (((cs.drop front.length).splitOn '/').reverse.dropWhile isFiller) with
  | _ :: before =>
    let kept := (before.dropWhile isFiller).reverse
    some (String.ofList (front ++ ['/'].intercalate kept))
  | [] => if front = ['.'] then some "" else none

end PatternFs.HostPath
