import PatternFs.Fallback
import PatternFs.Json.Library
import PatternFs.LogLevel

/-! The configuration of a mount and its form in JSON, where it is a record of the settings. A
setting that is missing keeps its default. -/
namespace PatternFs

structure Config where
  /-- Real directory that holds the delegated files. -/
  backingDirectory : String
  fallback : Fallback
  logLevel : LogLevel
  /-- Without one the log goes to the error stream. -/
  logFile? : Option String
  allowOther : Bool
  autoUnmount : Bool
  deriving DecidableEq

namespace Config

def default : Config :=
  { backingDirectory := ""
    fallback := .counter
    logLevel := .info
    logFile? := none
    allowOther := false
    autoUnmount := true }

inductive Setting
  | backingDirectory
  | fallback
  | logLevel
  | logFile
  | allowOther
  | autoUnmount
  deriving DecidableEq

namespace Setting

def all : List Setting :=
  [.backingDirectory, .fallback, .logLevel, .logFile, .allowOther, .autoUnmount]

def name : Setting → String
  | .backingDirectory => "backing_dir"
  | .fallback => "fallback_pattern"
  | .logLevel => "log_level"
  | .logFile => "log_file"
  | .allowOther => "allow_other"
  | .autoUnmount => "auto_unmount"

end Setting

variable (l : Json.Library)

def patternCodec : Json.Codec (Vector UInt8 4) := l.array 4 l.byte

def fallbackCases : List (String × Json.Case Fallback) :=
  [("counter", .constant .counter),
    ("fixed", .holding fun v => ((patternCodec l).read? v).map fun bytes => .fixed ⟨bytes⟩),
    ("reject", .constant .reject)]

/-- A fixed pattern stands beside the name of its policy. -/
def fallbackCodec : Json.Codec Fallback :=
  l.tagged "policy" "pattern"
    (fun
      | .counter => ("counter", none)
      | .fixed p => ("fixed", some ((patternCodec l).form p.bytes))
      | .reject => ("reject", none))
    (fallbackCases l)

def levelCodec : Json.Codec LogLevel := l.choice LogLevel.name LogLevel.all

def Setting.field (setting : Setting) : Json.Field Config :=
  match setting with
  | .backingDirectory =>
    l.string.field setting.name Config.backingDirectory fun backingDirectory c =>
      { c with backingDirectory }
  | .fallback =>
    (fallbackCodec l).field setting.name Config.fallback fun fallback c => { c with fallback }
  | .logLevel =>
    (levelCodec l).field setting.name Config.logLevel fun logLevel c => { c with logLevel }
  | .logFile =>
    (l.optional l.string).field setting.name Config.logFile? fun logFile? c =>
      { c with logFile? }
  | .allowOther =>
    l.flag.field setting.name Config.allowOther fun allowOther c => { c with allowOther }
  | .autoUnmount =>
    l.flag.field setting.name Config.autoUnmount fun autoUnmount c => { c with autoUnmount }

def codec : Json.Codec Config := l.record default (Setting.all.map (Setting.field l))

end Config

end PatternFs
