import PatternFs.Text.LowerCase

/-! How much the mount writes to its log. -/
namespace PatternFs

inductive LogLevel
  | error
  | warn
  | info
  | debug
  | trace
  deriving DecidableEq

namespace LogLevel

def all : List LogLevel := [.error, .warn, .info, .debug, .trace]

def name : LogLevel → String
  | .error => "error"
  | .warn => "warn"
  | .info => "info"
  | .debug => "debug"
  | .trace => "trace"

/-- Position from the quietest level up. -/
def rank : LogLevel → Nat
  | .error => 0
  | .warn => 1
  | .info => 2
  | .debug => 3
  | .trace => 4

def ofName? (s : String) : Option LogLevel := all.find? (·.name = s)

/-- On the command line any letter case is read, and `warning` for `warn`. -/
def ofText? (s : String) : Option LogLevel :=
  let lower := Text.lowerCase s
  if lower = "warning" then some .warn else ofName? lower

def unknownMessage (s : String) : String := "Unknown log level: " ++ s

end LogLevel

end PatternFs
