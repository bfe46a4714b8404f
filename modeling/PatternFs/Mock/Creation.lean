import PatternFs.Host
import PatternFs.Mock
import PatternFs.Mock.Drawing

/-! Creating mock files in a directory of the host. The patterns of the files that are there with
the same size and chunk texts are not used again. -/
namespace PatternFs.Mock

/-- The patterns of the regular files among `entries` that have these size and chunk texts. -/
def patternsIn (entries : List (String × Tree)) (size chunk : String) : List Pattern :=
  (entries.filterMap fun entry =>
    if entry.2.isFile then
      match ofName? entry.1 with
      | some m => if m.size = size ∧ m.chunk = chunk then some m.pattern else none
      | none => none
    else none).eraseDups

def existingPatterns (h : Host) (directory size chunk : String) : Except Failure (List Pattern) :=
  match h.list directory with
  | .ok entries => .ok (patternsIn entries size chunk)
  | .error e => .error (.host e)

inductive CreationError
  | size (cause : Failure)
  | scan (directory : String) (cause : Failure)
  | drawing (available count : Nat)
  | create (path : String) (cause : HostError)
  /-- The size does not fit the host's type for lengths. -/
  | length
  deriving DecidableEq

def CreationError.message : CreationError → String
  | .size cause => cause.message
  | .scan directory _ => "Failed to scan " ++ directory
  | .drawing available count => Drawing.refusalMessage available count
  | .create path _ => "Failed to create " ++ path
  | .length => "number too large to fit in target type"

/-- Makes the file and then sets its length; a length that does not fit leaves an empty file. -/
def createFile (h : Host) (path : String) (bytes : Nat) : Except CreationError Unit × Host :=
  match h.openForWriting path true with
  | .error e => (.error (.create path e), h)
  | .ok (names, h) =>
    if bytes < Content.limit then (.ok (), h.modifyFile names (·.resize bytes))
    else (.error .length, h)

/-- Stops at the first file that fails. -/
def createFiles (h : Host) (bytes : Nat) : List String → Except CreationError Unit × Host
  | [] => (.ok (), h)
  | path :: paths =>
    match createFile h path bytes with
    | (.ok (), h) => createFiles h bytes paths
    | failed => failed

/-- Creates `count` files. `none` when the draws end before there are enough fresh patterns. -/
def create (h : Host) (draws : List Pattern) (directory : String) (count : Nat)
    (size chunk : String) : Option (Except CreationError Unit × Host) :=
  match Size.ofText size with
  | .error e => some (.error (.size e), h)
  | .ok bytes =>
    match existingPatterns h directory size chunk with
    | .error e => some (.error (.scan directory e), h)
    | .ok taken =>
      match Drawing.ofDraws draws count taken with
      | .refused available => some (.error (.drawing available count), h)
      | .unfinished => none
      | .done fresh _ =>
        some (createFiles h bytes
          (fresh.map fun p => HostPath.join directory (Mock.name ⟨p, size, chunk⟩)))

end PatternFs.Mock
