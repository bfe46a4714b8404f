import PatternFs.Content
import PatternFs.Failure
import PatternFs.HostPath

/-! A host file system as a tree of directories, files and symbolic links, with the rules by which
path texts are looked up in it. A lookup follows links, at most forty of them, and ends at a node,
or in a directory that lacks only the last name. Names are Unicode texts: an entry whose name is
no text is not represented, for what reads a listing here passes over it. -/
namespace PatternFs

inductive Tree
  | file (content : Content)
  | directory (entries : List (String × Tree))
  | link (target : String)

namespace Tree

def entries : Tree → List (String × Tree)
  | .directory entries => entries
  | _ => []

def isDirectory : Tree → Bool
  | .directory _ => true
  | _ => false

def isFile : Tree → Bool
  | .file _ => true
  | _ => false

def child? (t : Tree) (name : String) : Option Tree :=
  (t.entries.find? fun entry => entry.1 = name).map Prod.snd

/-- The node below `t` at a sequence of names, none of which is a link. -/
def at? (t : Tree) : List String → Option Tree
  | [] => some t
  | name :: names => (t.child? name).bind (·.at? names)

/-- Sets an entry, in place when the name is there and as the last one otherwise. -/
def setEntry (entries : List (String × Tree)) (name : String) (node : Tree) :
    List (String × Tree) :=
  if entries.any fun entry => entry.1 = name then
    entries.map fun entry => if entry.1 = name then (name, node) else entry
  else entries ++ [(name, node)]

/-- Puts `node` at a sequence of names. Where the directory for it is missing nothing changes. -/
def put (t : Tree) (names : List String) (node : Tree) : Tree :=
  match names with
  | [] => node
  | [name] =>
    match t with
    | .directory entries => .directory (setEntry entries name node)
    | t => t
  | name :: names =>
    match t, t.child? name with
    | .directory entries, some inner => .directory (setEntry entries name (inner.put names node))
    | t, _ => t

/-- Takes away what is at a sequence of names. The top itself stays. -/
def without (t : Tree) (names : List String) : Tree :=
  match names with
  | [] => t
  | [name] =>
    match t with
    | .directory entries => .directory (entries.filter fun entry => entry.1 ≠ name)
    | t => t
  | name :: names =>
    match t, t.child? name with
    | .directory entries, some inner => .directory (setEntry entries name (inner.without names))
    | t, _ => t

end Tree

/-- The tree below `/`, and the directory where relative paths start. -/
structure Host where
  root : Tree
  workingDirectory : List String

inductive Location
  | node (names : List String) (t : Tree)
  | absent (directory : List String) (name : String)

namespace Host

def pathLimit : Nat := 4096

def linkLimit : Nat := 40

/-- Follows `segments` from the directory `here`, with `links` more links to take. -/
def walk (root : Tree) (links : Nat) (here : List String) (segments : List String) :
    Except HostError Location :=
  match root.at? here with
  | none => .error .noEntry
  | some node =>
    match segments with
    | [] => .ok (.node here node)
    | segment :: rest =>
      if ¬ node.isDirectory then .error .notDirectory
      else if segment = "" ∨ segment = "." then walk root links here rest
      else if segment = ".." then walk root links here.dropLast rest
      else if segment.utf8ByteSize > nameLimit then .error .nameTooLong
      else
        match node.child? segment with
        | none => if rest = [] then .ok (.absent here segment) else .error .noEntry
        | some (.link target) =>
          match links with
          | 0 => .error .tooManyLinks
          | links + 1 =>
            if target = "" then .error .noEntry
            else
              walk root links (if HostPath.isAbsolute target then [] else here)
                ((target.toList.splitOn '/').map String.ofList ++ rest)
        | some _ => walk root links (here ++ [segment]) rest
termination_by (links, segments.length)

def locate (h : Host) (path : String) : Except HostError Location :=
  if path.toList.contains '\x00' then .error .unnumbered
  else if path = "" then .error .noEntry
  else if path.utf8ByteSize ≥ pathLimit then .error .nameTooLong
  else
    walk h.root linkLimit (if HostPath.isAbsolute path then [] else h.workingDirectory)
      ((path.toList.splitOn '/').map String.ofList)

def lookup (h : Host) (path : String) : Except HostError (List String × Tree) :=
  match h.locate path with
  | .ok (.node names t) => .ok (names, t)
  | .ok (.absent _ _) => .error .noEntry
  | .error e => .error e

def isDirectory (h : Host) (path : String) : Bool :=
  match h.lookup path with
  | .ok (_, t) => t.isDirectory
  | .error _ => false

def pathExists (h : Host) (path : String) : Bool := (h.lookup path).isOk

/-- The absolute path of a node, without links. -/
def pathText (names : List String) : String :=
  if names = [] then "/" else String.ofList (names.flatMap fun name => '/' :: name.toList)

def canonical (h : Host) (path : String) : Except HostError String :=
  (h.lookup path).map fun found => pathText found.1

def readBytes (h : Host) (path : String) : Except HostError (List UInt8) :=
  match h.lookup path with
  | .ok (_, .file content) => .ok content.bytes
  | .ok _ => .error .isDirectory
  | .error e => .error e

/-- Fails on bytes that are not UTF-8. -/
def readText (h : Host) (path : String) : Except HostError String :=
  match h.readBytes path with
  | .ok bytes =>
    match String.fromUTF8? ⟨bytes.toArray⟩ with
    | some s => .ok s
    | none => .error .unnumbered
  | .error e => .error e

/-- Names and nodes in a directory; its links are not followed. -/
def list (h : Host) (path : String) : Except HostError (List (String × Tree)) :=
  match h.lookup path with
  | .ok (_, .directory entries) => .ok entries
  | .ok _ => .error .notDirectory
  | .error e => .error e

def put (h : Host) (names : List String) (node : Tree) : Host :=
  { h with root := h.root.put names node }

/-- Opens a file for writing and makes it when it is missing. `fresh` empties a file that is there.
The result tells where the file is, after all links. -/
def openForWriting (h : Host) (path : String) (fresh : Bool) :
    Except HostError (List String × Host) :=
  match h.locate path with
  | .ok (.node names (.file _)) => .ok (names, if fresh then h.put names (.file .empty) else h)
  | .ok (.node _ _) => .error .isDirectory
  | .ok (.absent directory name) =>
    .ok (directory ++ [name], h.put (directory ++ [name]) (.file .empty))
  | .error e => .error e

/-- Changes the content of the file that was opened at `names`. -/
def modifyFile (h : Host) (names : List String) (f : Content → Content) : Host :=
  match h.root.at? names with
  | some (.file content) => h.put names (.file (f content))
  | _ => h

/-- Makes an entry under a name that must be free; a link under that name counts as an entry. -/
def make (h : Host) (path : String) (node : Tree) : Except HostError Host :=
  match HostPath.parent? path with
  | none => .error .fileExists
  | some directory =>
    match h.lookup (if directory = "" then "." else directory) with
    | .error e => .error e
    | .ok (names, t) =>
      let name := ((path.toList.splitOn '/').filter fun s => ! HostPath.isFiller s).getLast?.getD []
      if ¬ t.isDirectory then .error .notDirectory
      else if (t.child? (String.ofList name)).isSome then .error .fileExists
      else .ok (h.put (names ++ [String.ofList name]) node)

end Host

end PatternFs
