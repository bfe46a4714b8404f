import PatternFs.CommandLine
import PatternFs.CommandLine.Help
import PatternFs.Config.File
import PatternFs.Mock.Creation
import PatternFs.MountRequest

/-! What the program does for a command line. The commands reach the host only through a few
services, so that they run on a host that is a value as well as on a real one. -/
namespace PatternFs.CommandLine

structure Services (m : Type → Type) where
  json : Json.Library
  readText : String → m (Except HostError String)
  /-- Opens a file for appending, and makes it when it is missing. -/
  openLog : String → m (Except HostError Unit)
  canonical : String → m (Except HostError String)
  isDirectory : String → m Bool
  pathExists : String → m Bool
  /-- `none` when patterns can no longer be drawn. -/
  createMocks : MockArguments → m (Option (Except Mock.CreationError Unit))

inductive Ending
  | told (text : String)
  | misused (r : Refusal)
  | failed (output message : String)
  | finished
  /-- All checks have passed; what is left is to serve the kernel. -/
  | mounting (output : String) (c : Config) (mountPoint : String)

def Ending.exitCode : Ending → Nat
  | .misused r => r.exitCode
  | .failed _ _ => 1
  | _ => 0

def Ending.output : Ending → String
  | .told text => text
  | .failed output _ | .mounting output _ _ => output
  | _ => ""

def Ending.message? : Ending → Option String
  | .failed _ message => some message
  | _ => none

/-- Words go before the configuration file. Other users are let in if either of them says so. -/
def configured (a : MountArguments) (c : Config) : Config :=
  { c with
    backingDirectory := a.backingDirectory?.getD c.backingDirectory
    logFile? := a.logFile?.or c.logFile?
    fallback := a.fallback?.getD c.fallback
    allowOther := c.allowOther || a.allowOther }

def during {ε α : Type} (step : String) (r : Except ε α) : Except String α :=
  match r with
  | .ok a => .ok a
  | .error _ => .error step

def loadConfig (l : Json.Library) (path : String) (r : Except HostError String) :
    Except String Config :=
  during ("Failed to load config " ++ path) ((r.mapError Failure.host).bind (Config.ofText l path))

variable {m : Type → Type} [Monad m]

def configFor (s : Services m) (a : MountArguments) : ExceptT String m Config := do
  match a.configFile? with
  | none => return configured a .default
  | some path => return configured a (← loadConfig s.json path (← s.readText path))

def openLogFor (s : Services m) (c : Config) : ExceptT String m Unit := do
  match c.logFile? with
  | none => return
  | some path => during ("Failed to open log file " ++ path) (← s.openLog path)

/-- What is wrong with the configuration on this host. -/
def problemsFor (s : Services m) (c : Config) : m (List String) := do
  let directory ← s.isDirectory c.backingDirectory
  let there ← s.pathExists (c.logDirectory?.getD "")
  return c.problems (fun _ => directory) (fun _ => there)

/-- The configuration to mount with. The log is opened before anything is checked. -/
def prepare (s : Services m) (isRoot : Bool) (a : MountArguments) : ExceptT String m Config := do
  let c ← configFor s a
  openLogFor s c
  if isRoot then throw "Running lazyfs as root opens unacceptable security holes"
  if c.backingDirectory = "" then throw "A backing directory is required (--realstore PATH)"
  let directory ←
    during ("Invalid backing directory " ++ c.backingDirectory) (← s.canonical c.backingDirectory)
  let c := { c with backingDirectory := directory }
  match ← (problemsFor s c : m (List String)) with
  | [] => return c
  | problems => throw ("; ".intercalate problems)

def mount (s : Services m) (isRoot : Bool) (a : MountArguments) : m Ending := do
  match ← (prepare s isRoot a).run with
  | .error message => return .failed "" message
  | .ok c =>
    let output := "mountpoint: " ++ a.mountPoint ++ "\nrealstore: " ++ c.backingDirectory ++ "\n"
    if ← s.isDirectory a.mountPoint then return .mounting output c a.mountPoint
    else return .failed output (MountError.notADirectory a.mountPoint).message

def mocks (s : Services m) (a : MockArguments) : m Ending := do
  match ← s.createMocks a with
  | none => return .failed "" "No more patterns can be drawn"
  | some (.error e) => return .failed "" e.message
  | some (.ok ()) => return .finished

def refused : Refusal → Ending
  | .help topic => .told (helpText topic)
  | .version => .told versionText
  | r => .misused r

def run (s : Services m) (isRoot : Bool) (words : List String) : m Ending :=
  match command words with
  | .error r => return refused r
  | .ok (.mount a) => mount s isRoot a
  | .ok (.mocks a) => mocks s a

/-- The services of a host that is a value. Patterns are drawn from the front of a list. -/
def Services.ofHost (draws : List Pattern) : Services (StateM Host) where
  json := Json.Standard.library
  readText path := do return (← get).readText path
  openLog path h :=
    match h.openForWriting path false with
    | .ok (_, h) => (.ok (), h)
    | .error e => (.error e, h)
  canonical path := do return (← get).canonical path
  isDirectory path := do return (← get).isDirectory path
  pathExists path := do return (← get).pathExists path
  createMocks a h :=
    match Mock.create h draws a.directory a.count a.size a.chunk with
    | some (r, h) => (some r, h)
    | none => (none, h)

end PatternFs.CommandLine
