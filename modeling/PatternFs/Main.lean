import PatternFs.CommandLine.Run

/-! The program. What it does is decided by `CommandLine.run`; here are the services of the host
that it runs on. Its messages name the step that failed and not the host's error, so error numbers
are not looked at. -/
namespace PatternFs.RealHost

open CommandLine

def attempt {α : Type} (action : IO α) : IO (Except HostError α) := do
  try return .ok (← action)
  catch _ => return .error .unnumbered

def holds (action : IO Bool) : IO Bool := do
  try action
  catch _ => return false

def nodeOf : IO.FS.FileType → Tree
  | .file => .file .empty
  | .dir => .directory []
  | _ => .link "."

def entriesOf (directory : String) : IO (List (String × Tree)) := do
  let found ← (← IO.FS.realPath directory).readDir
  found.toList.mapM fun e => do return (e.fileName, nodeOf (← e.path.symlinkMetadata).type)

def drawPattern : IO Pattern := do return .ofSequence (← IO.rand 0 (patternCount - 1))

partial def draw (draws : List Pattern) (count : Nat) (taken : List Pattern) : IO Drawing := do
  match Drawing.ofDraws draws count taken with
  | .unfinished =>
    let more ← (List.range count).mapM fun _ => drawPattern
    draw (draws ++ more) count taken
  | d => return d

def blockSize : Nat := 65536

def writeZeros (file : IO.FS.Handle) (bytes : Nat) : IO Unit := do
  let block : ByteArray := ⟨Array.replicate blockSize 0⟩
  for _ in [0:bytes / blockSize] do file.write block
  file.write ⟨Array.replicate (bytes % blockSize) 0⟩

def createFile (bytes : Nat) (path : String) : ExceptT Mock.CreationError IO Unit := do
  let written := if bytes < Content.limit then bytes else 0
  match ← attempt (IO.FS.withFile path .write fun file => writeZeros file written) with
  | .error e => throw (.create path e)
  | .ok () => if bytes ≥ Content.limit then throw .length

def createMocks (a : MockArguments) : ExceptT Mock.CreationError IO Unit := do
  let bytes ← ExceptT.mk (pure ((Size.ofText a.size).mapError Mock.CreationError.size))
  let found ← attempt (entriesOf a.directory)
  let entries ←
    ExceptT.mk (pure (found.mapError fun e => Mock.CreationError.scan a.directory (.host e)))
  match ← draw [] a.count (Mock.patternsIn entries a.size a.chunk) with
  | .refused available => throw (.drawing available a.count)
  | .unfinished => throw (.drawing 0 a.count)
  | .done fresh _ =>
    for p in fresh do
      createFile bytes (HostPath.join a.directory (Mock.name ⟨p, a.size, a.chunk⟩))

def services : Services IO where
  json := Json.Standard.library
  readText path := attempt (IO.FS.readFile path)
  openLog path := attempt (IO.FS.withFile path .append fun _ => return ())
  canonical path := attempt (do return (← IO.FS.realPath path).toString)
  isDirectory path := holds (do (← IO.FS.realPath path).isDir)
  pathExists path := holds (do (← IO.FS.realPath path).pathExists)
  createMocks a := do return some (← (createMocks a).run)

/-- The effective user is the second of the numbers in the line for users. -/
def isRootStatus (status : String) : Bool :=
  (status.splitOn "\n").any fun line =>
    line.startsWith "Uid:" && (line.splitOn "\t")[2]? == some "0"

def isRoot : IO Bool := holds (do return isRootStatus (← IO.FS.readFile "/proc/self/status"))

def report (ending : Ending) : IO UInt32 := do
  IO.print ending.output
  match ending with
  | .failed _ message => IO.eprintln ("Error: " ++ message)
  | .misused r => IO.eprintln ("error: " ++ r.message)
  | .mounting _ _ _ => IO.eprintln "The kernel is served by another program"
  | _ => pure ()
  return ending.exitCode.toUInt32

end PatternFs.RealHost

def main (words : List String) : IO UInt32 := do
  let root ← PatternFs.RealHost.isRoot
  PatternFs.RealHost.report (← PatternFs.CommandLine.run PatternFs.RealHost.services root words)
