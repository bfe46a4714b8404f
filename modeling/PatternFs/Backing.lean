import PatternFs.Failure
import PatternFs.HostPath

/-! Where the real file of a path is: in the backing directory, under the path's last component. -/
namespace PatternFs.Backing

/-- Real paths have fewer bytes than this. -/
def pathLimit : Nat := 4096

def realPath (directory : String) (path : Path) : Except Failure String :=
  let name := path.name
  if name = "" ∨ name = "." ∨ name = ".." then .error (.invalidPath path .notAFileName)
  else if name.utf8ByteSize > nameLimit then
    .error (.pathTooLong path.text name.utf8ByteSize nameLimit)
  else
    let real := HostPath.join directory name
    if real.utf8ByteSize ≥ pathLimit then .error (.pathTooLong real real.utf8ByteSize pathLimit)
    else .ok real

end PatternFs.Backing
