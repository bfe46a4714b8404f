import PatternFs.Config.Loading

/-! Checks before a mount, and the options that the mount is made with. -/
namespace PatternFs

inductive MountError
  | notADirectory (mountPoint : String)
  | badConfig (problems : List String)
  deriving DecidableEq

def MountError.message : MountError → String
  | .notADirectory mountPoint => "Mount point is not a directory: " ++ mountPoint
  | .badConfig problems => "Invalid configuration: " ++ "; ".intercalate problems

/-- The mount point is looked at before the configuration. -/
def checkMount (h : Host) (c : Config) (mountPoint : String) : Except MountError Unit :=
  if ¬ h.isDirectory mountPoint then .error (.notADirectory mountPoint)
  else
    match c.problemsOn h with
    | [] => .ok ()
    | problems => .error (.badConfig problems)

inductive MountOption
  | sourceName (name : String)
  | subtype (name : String)
  | readWrite
  | allowOther
  | autoUnmount
  deriving DecidableEq

def mountOptions (c : Config) : List MountOption :=
  [.sourceName "lazyfs", .subtype "lazyfs", .readWrite] ++
    (if c.allowOther then [.allowOther] else []) ++
    (if c.autoUnmount then [.autoUnmount] else [])

end PatternFs
