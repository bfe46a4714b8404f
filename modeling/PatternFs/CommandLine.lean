import PatternFs.CommandLine.Grammar
import PatternFs.Fallback
import PatternFs.LogLevel

/-! The commands of the program and the words they are given by. -/
namespace PatternFs

structure MountArguments where
  mountPoint : String
  backingDirectory? : Option String
  logFile? : Option String
  configFile? : Option String
  allowOther : Bool
  fallback? : Option Fallback
  logLevel? : Option LogLevel
  deriving DecidableEq

structure MockArguments where
  directory : String
  count : Nat
  size : String
  chunk : String
  deriving DecidableEq

inductive Command
  | mount (a : MountArguments)
  | mocks (a : MockArguments)
  deriving DecidableEq

namespace CommandLine

def checkPath (text : String) : Option Refusal := if text = "" then some .emptyText else none

def checkReadable {α : Type} (read? : String → Option α) (text : String) : Option Refusal :=
  if (read? text).isSome then none else some .badText

inductive MountSlot
  | mountPoint
  | backingDirectory
  | logFile
  | configFile
  | allowOther
  | fallback
  | logLevel
  deriving DecidableEq

def mountGrammar : Grammar MountSlot where
  topic := .mount
  operands := [.mountPoint]
  choices :=
    [⟨"realstore", some 'r', .value .backingDirectory⟩,
      ⟨"logfile", some 'l', .value .logFile⟩,
      ⟨"config", some 'c', .value .configFile⟩,
      ⟨"allow-other", none, .mark .allowOther⟩,
      ⟨"fallback", none, .value .fallback⟩,
      ⟨"log-level", none, .value .logLevel⟩,
      ⟨"help", some 'h', .help⟩]
  check
    | .allowOther => fun _ => none
    | .fallback => checkReadable Fallback.ofText?
    | .logLevel => checkReadable LogLevel.ofText?
    | _ => checkPath

def mountOf (given : Table MountSlot String) : MountArguments where
  mountPoint := (given.find? .mountPoint).getD ""
  backingDirectory? := given.find? .backingDirectory
  logFile? := given.find? .logFile
  configFile? := given.find? .configFile
  allowOther := given.contains .allowOther
  fallback? := (given.find? .fallback).bind Fallback.ofText?
  logLevel? := (given.find? .logLevel).bind LogLevel.ofText?

def countLimit : Nat := 0x10000000000000000

/-- A number in decimal digits, with or without a plus sign in front. -/
def countOfText? (s : String) : Option Nat :=
  let digits :=
    match s.toList with
    | '+' :: rest => rest
    | cs => cs
  if digits.isEmpty || ! digits.all Char.isDigit then none
  else
    let n := digits.foldl (fun n c => 10 * n + (c.toNat - '0'.toNat)) 0
    if n < countLimit then some n else none

inductive MockSlot
  | directory
  | count
  | size
  | chunk
  deriving DecidableEq

def mocksGrammar : Grammar MockSlot where
  topic := .mocks
  operands := [.directory, .count, .size, .chunk]
  choices := [⟨"help", some 'h', .help⟩]
  check
    | .directory => checkPath
    | .count => checkReadable countOfText?
    | .size => fun _ => none
    | .chunk => fun _ => none

def mocksOf (given : Table MockSlot String) : MockArguments where
  directory := (given.find? .directory).getD ""
  count := ((given.find? .count).bind countOfText?).getD 0
  size := (given.find? .size).getD ""
  chunk := (given.find? .chunk).getD ""

/-- The topics that have a name of their own. -/
def topic? : String → Option Topic
  | "mount" => some .mount
  | "mocks" => some .mocks
  | "help" => some .help
  | _ => none

/-- What the command `help` answers. No command has commands of its own. -/
def helpFor : List String → Refusal
  | [] => .help .program
  | [name] =>
    match topic? name with
    | some topic => .help topic
    | none => .unknownCommand
  | _ => .unknownCommand

/-- After `--` no command can be named any more. -/
def afterBreak : List String → Refusal
  | [] => .noCommand
  | word :: _ => if (topic? word).isSome then .unknownArgument else .unknownCommand

/-- Options in place of a command. -/
def programLong (body : List Char) : Refusal :=
  match Grammar.splitLong body with
  | ("help", none) => .help .program
  | ("version", none) => .version
  | ("help", some _) | ("version", some _) => .unwantedValue
  | _ => .unknownArgument

def programShort : List Char → Refusal
  | 'h' :: _ => .help .program
  | 'V' :: _ => .version
  | _ => .unknownArgument

/-- The first word names the command, unless it is an option. -/
def command (words : List String) : Except Refusal Command :=
  match words with
  | [] => .error .noCommand
  | first :: rest =>
    match topic? first with
    | some .mount => (mountGrammar.read rest).map fun given => .mount (mountOf given)
    | some .mocks => (mocksGrammar.read rest).map fun given => .mocks (mocksOf given)
    | some _ => .error (helpFor rest)
    | none =>
      match first.toList with
      | ['-', '-'] => .error (afterBreak rest)
      | '-' :: '-' :: body => .error (programLong body)
      | ['-'] => .error .unknownCommand
      | '-' :: letters => .error (programShort letters)
      | _ => .error .unknownCommand

end CommandLine

end PatternFs
