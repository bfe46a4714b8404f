import PatternFs.Table

/-! The words after a command's name. Options come in long and short forms and take at most one
value each; all other words are operands, in a fixed order. After `--` every word is an operand.
The text of a slot is checked when the next word is accepted or the line ends, so a word that
nothing accepts is reported before a bad text that stands in front of it. -/
namespace PatternFs.CommandLine

inductive Topic
  | program
  | mount
  | mocks
  | help
  deriving DecidableEq

/-- Why the words are not carried out. Asking for help or for the version is no mistake. -/
inductive Refusal
  | help (topic : Topic)
  | version
  | noCommand
  | unknownCommand
  | unknownArgument
  | missingOperand
  /-- No text where one has to be, or an empty one. -/
  | emptyText
  | badText
  | repeated
  | unwantedValue
  deriving DecidableEq

def Refusal.exitCode : Refusal → Nat
  | .help _ | .version => 0
  | _ => 2

def Refusal.message : Refusal → String
  | .help _ => "help was asked for"
  | .version => "the version was asked for"
  | .noCommand => "a command is needed"
  | .unknownCommand => "there is no such command"
  | .unknownArgument => "there is no such argument"
  | .missingOperand => "an argument is missing"
  | .emptyText => "a value is missing or empty"
  | .badText => "a value cannot be read"
  | .repeated => "an option is given twice"
  | .unwantedValue => "an option takes no value"

/-- What an option does: it fills a slot with the value that follows it, marks a slot, or shows the
help text. -/
inductive Effect (σ : Type)
  | value (slot : σ)
  | mark (slot : σ)
  | help

structure Choice (σ : Type) where
  long : String
  short? : Option Char
  effect : Effect σ

structure Grammar (σ : Type) where
  topic : Topic
  operands : List σ
  choices : List (Choice σ)
  /-- The objection to a text in a slot. -/
  check : σ → String → Option Refusal

/-- How far the words have been read. -/
structure Scan (σ : Type) where
  given : Table σ String
  /-- The slot named last, with its text unless that is still to come. -/
  pending? : Option (σ × Option String)
  operands : List σ
  closed : Bool

namespace Grammar

variable {σ : Type} [DecidableEq σ]

def start (g : Grammar σ) : Scan σ := ⟨.empty, none, g.operands, false⟩

/-- Checks the text that is pending, and files it. -/
def settle (g : Grammar σ) (s : Scan σ) : Except Refusal (Scan σ) :=
  match s.pending? with
  | none => .ok s
  | some (_, none) => .error .emptyText
  | some (slot, some text) =>
    if s.given.contains slot then .error .repeated
    else
      match g.check slot text with
      | some r => .error r
      | none => .ok { s with given := s.given.insert slot text, pending? := none }

def await (g : Grammar σ) (s : Scan σ) (slot : σ) : Except Refusal (Scan σ) := do
  return { ← g.settle s with pending? := some (slot, none) }

/-- A text that is part of the option's word is checked at once. -/
def take (g : Grammar σ) (s : Scan σ) (slot : σ) (text : String) : Except Refusal (Scan σ) := do
  g.settle { ← g.settle s with pending? := some (slot, some text) }

def choose (g : Grammar σ) (s : Scan σ) (c : Choice σ) (attached? : Option String) :
    Except Refusal (Scan σ) :=
  match c.effect, attached? with
  | .value slot, some text => g.take s slot text
  | .value slot, none => g.await s slot
  | .mark _, some _ | .help, some _ => .error .unwantedValue
  | .mark slot, none => g.take s slot ""
  | .help, none => do
    let _ ← g.settle s
    .error (.help g.topic)

/-- The name before the first equals sign, and the value after it. -/
def splitLong (body : List Char) : String × Option String :=
  (String.ofList (body.takeWhile (· ≠ '=')),
    match body.dropWhile (· ≠ '=') with
    | [] => none
    | _ :: value => some (String.ofList value))

def long (g : Grammar σ) (s : Scan σ) (body : List Char) : Except Refusal (Scan σ) :=
  let (name, attached?) := splitLong body
  match g.choices.find? (·.long = name) with
  | none => .error .unknownArgument
  | some c => g.choose s c attached?

/-- Short options may be joined. The first that takes a value takes the rest of the word as its
value, without an equals sign in front. -/
def short (g : Grammar σ) (s : Scan σ) : List Char → Except Refusal (Scan σ)
  | [] => .ok s
  | letter :: rest =>
    match g.choices.find? (·.short? = some letter) with
    | none => .error .unknownArgument
    | some c =>
      match c.effect, rest with
      | .value slot, [] => g.await s slot
      | .value slot, '=' :: text => g.take s slot (String.ofList text)
      | .value slot, text => g.take s slot (String.ofList text)
      | _, rest => do g.short (← g.choose s c none) rest

def operand (g : Grammar σ) (s : Scan σ) (word : String) : Except Refusal (Scan σ) :=
  match s.operands with
  | [] => .error .unknownArgument
  | slot :: operands => do
    return { ← g.settle s with operands, pending? := some (slot, some word) }

/-- A word that is no option: the value that is awaited, or an operand. -/
def plain (g : Grammar σ) (s : Scan σ) (word : String) : Except Refusal (Scan σ) :=
  match s.pending? with
  | some (slot, none) => .ok { s with pending? := some (slot, some word) }
  | _ => g.operand s word

def step (g : Grammar σ) (s : Scan σ) (word : String) : Except Refusal (Scan σ) :=
  if s.closed then g.operand s word
  else
    match word.toList with
    | ['-', '-'] => .ok { s with closed := true }
    | '-' :: '-' :: body => g.long s body
    | ['-'] => g.plain s word
    | '-' :: letters => g.short s letters
    | _ => g.plain s word

def read (g : Grammar σ) (words : List String) : Except Refusal (Table σ String) := do
  let s ← g.settle (← words.foldlM g.step g.start)
  if s.operands.isEmpty then return s.given else throw .missingOperand

end Grammar

end PatternFs.CommandLine
