import PatternFs.Path

/-! Why an operation fails. Every failure has one message and one positive error number of the host;
its code is the negated number. -/
namespace PatternFs

/-- An error of the host below. Some, such as a path with a NUL or a length that does not fit the
host's type, never reach the system and have no number; they count as a general I/O error. -/
inductive HostError
  | numbered (errno : Nat)
  | unnumbered
  deriving DecidableEq

namespace HostError

def notPermitted : HostError := .numbered 1
def noEntry : HostError := .numbered 2
def denied : HostError := .numbered 13
def fileExists : HostError := .numbered 17
def notDirectory : HostError := .numbered 20
def isDirectory : HostError := .numbered 21
def invalid : HostError := .numbered 22
def tooBig : HostError := .numbered 27
def nameTooLong : HostError := .numbered 36
def notEmpty : HostError := .numbered 39
def tooManyLinks : HostError := .numbered 40

def errno : HostError → Nat
  | .numbered n => n
  | .unnumbered => 5

end HostError

/-- What is wrong with an argument. -/
inductive Objection
  | rootIsNoFile
  | nested
  | notAFileName
  | ontoRoot
  | crossesClasses (target : Path)
  | pastRange (offset : Nat)
  | noPatternDigits
  | notASize
  | malformedConfig
  | stated (reason : String)
  deriving DecidableEq

def Objection.message : Objection → String
  | .rootIsNoFile => "the root directory is not a file"
  | .nested => "subdirectories are not supported"
  | .notAFileName => "not a file name"
  | .ontoRoot => "cannot rename onto the root directory"
  | .crossesClasses target => "cannot rename across file classes to " ++ target.text
  | .pastRange offset => "write past end of addressable range at offset " ++ toString offset
  | .noPatternDigits => "synthetic file names must start with 8 hex characters"
  | .notASize => "expected a size such as 512, 64kb or 1gb"
  | .malformedConfig => "not a configuration"
  | .stated reason => reason

inductive Failure
  | notFound (path : Path)
  | alreadyExists (path : Path)
  | invalidArgument (subject : String) (objection : Objection)
  | pathTooLong (path : String) (length limit : Nat)
  | unsupported (operation : String)
  | notPermitted (operation : String)
  | noAttribute (path : Path) (name : String)
  | host (error : HostError)
  deriving DecidableEq

namespace Failure

def message : Failure → String
  | .notFound path => "Path not found: " ++ path.text
  | .alreadyExists path => "Path already exists: " ++ path.text
  | .invalidArgument subject objection =>
    "Invalid argument for '" ++ subject ++ "': " ++ objection.message
  | .pathTooLong path length limit =>
    "Path too long (" ++ toString length ++ " bytes, limit " ++ toString limit ++ "): " ++ path
  | .unsupported operation => "Unsupported operation: " ++ operation
  | .notPermitted operation => "Operation not permitted: " ++ operation
  | .noAttribute path name => "No such attribute '" ++ name ++ "' on " ++ path.text
  | .host _ => "I/O error"

def errno : Failure → Nat
  | .notFound _ => 2
  | .alreadyExists _ => 17
  | .invalidArgument _ _ => 22
  | .pathTooLong _ _ _ => 36
  | .unsupported _ => 38
  | .notPermitted _ => 1
  | .noAttribute _ _ => 61
  | .host error => error.errno

def code (f : Failure) : Int := -(f.errno : Int)

def invalidPath (path : Path) (objection : Objection) : Failure :=
  .invalidArgument path.text objection

end Failure

end PatternFs
