import PatternFs.Json
import PatternFs.Text.Hex

/-! The tokens of JSON text. Scanning is a fold over the characters: the mode says in the middle of
which token the scan stands. A number ends at the first character that cannot continue it, and that
character begins what follows; every other token ends with its own last character. Blanks between
tokens carry no meaning. -/
namespace PatternFs.Json

inductive Token
  | openArray
  | closeArray
  | openObject
  | closeObject
  | comma
  | colon
  | null
  | bool (b : Bool)
  | number (literal : List Char)
  | string (units : List Nat)
  deriving DecidableEq

def isSpace (c : Char) : Bool := c == ' ' || c == '\t' || c == '\n' || c == '\r'

/-- How far a number has been read. -/
inductive Phase
  | minus
  | zero
  | whole
  | point
  | fraction
  | exponentMark
  | exponentSign
  | exponent
  deriving DecidableEq

namespace Phase

def complete : Phase → Bool
  | .zero | .whole | .fraction | .exponent => true
  | _ => false

def start? (c : Char) : Option Phase :=
  if c = '-' then some .minus
  else if c = '0' then some .zero
  else if c.isDigit then some .whole
  else none

def next? (phase : Phase) (c : Char) : Option Phase :=
  let mark : Bool := c == 'e' || c == 'E'
  match phase with
  | .minus => if c = '0' then some .zero else if c.isDigit then some .whole else none
  | .zero => if c = '.' then some .point else if mark then some .exponentMark else none
  | .whole =>
    if c.isDigit then some .whole
    else if c = '.' then some .point
    else if mark then some .exponentMark
    else none
  | .point => if c.isDigit then some .fraction else none
  | .fraction =>
    if c.isDigit then some .fraction else if mark then some .exponentMark else none
  | .exponentMark =>
    if c = '+' ∨ c = '-' then some .exponentSign
    else if c.isDigit then some .exponent
    else none
  | .exponentSign => if c.isDigit then some .exponent else none
  | .exponent => if c.isDigit then some .exponent else none

end Phase

inductive Mode
  | between
  /-- Letters of a word that are still due. -/
  | word (due : List Char) (token : Token)
  | number (phase : Phase) (literal : List Char)
  | string (units : List Nat)
  | escape (units : List Nat)
  /-- A code unit of which `due` hexadecimal digits are missing. -/
  | unit (units : List Nat) (due : Nat) (value : Nat)

structure Scan where
  mode : Mode
  tokens : List Token

namespace Scan

def start : Scan := ⟨.between, []⟩

def emit (s : Scan) (t : Token) : Scan := ⟨.between, s.tokens ++ [t]⟩

def enter (s : Scan) (m : Mode) : Scan := ⟨m, s.tokens⟩

def begin? (s : Scan) (c : Char) : Option Scan :=
  if isSpace c then some s
  else match c with
    | '[' => some (s.emit .openArray)
    | ']' => some (s.emit .closeArray)
    | '\x7b' => some (s.emit .openObject)
    | '\x7d' => some (s.emit .closeObject)
    | ',' => some (s.emit .comma)
    | ':' => some (s.emit .colon)
    | '"' => some (s.enter (.string []))
    | 'n' => some (s.enter (.word ['u', 'l', 'l'] .null))
    | 't' => some (s.enter (.word ['r', 'u', 'e'] (.bool true)))
    | 'f' => some (s.enter (.word ['a', 'l', 's', 'e'] (.bool false)))
    | c => (Phase.start? c).map fun phase => s.enter (.number phase [c])

/-- The unit that a letter stands for after a backslash. -/
def escaped? (c : Char) : Option Nat :=
  match c with
  | '"' => some 0x22
  | '\\' => some 0x5c
  | '/' => some 0x2f
  | 'b' => some 0x8
  | 'f' => some 0xc
  | 'n' => some 0xa
  | 'r' => some 0xd
  | 't' => some 0x9
  | _ => none

def step (s : Scan) (c : Char) : Option Scan :=
  match s.mode with
  | .between => s.begin? c
  | .word [] _ => none
  | .word [d] token => if c = d then some (s.emit token) else none
  | .word (d :: due) token => if c = d then some (s.enter (.word due token)) else none
  | .number phase literal =>
    match phase.next? c with
    | some phase => some (s.enter (.number phase (literal ++ [c])))
    | none => if phase.complete then (s.emit (.number literal)).begin? c else none
  | .string units =>
    if c = '"' then some (s.emit (.string units))
    else if c = '\\' then some (s.enter (.escape units))
    else if c.toNat < 0x20 then none
    else some (s.enter (.string (units ++ [c.toNat])))
  | .escape units =>
    if c = 'u' then some (s.enter (.unit units 4 0))
    else (escaped? c).map fun unit => s.enter (.string (units ++ [unit]))
  | .unit units due value => do
    let digit ← Text.hexValue? c
    let value := 16 * value + digit
    if due ≤ 1 then return s.enter (.string (units ++ [value]))
    else return s.enter (.unit units (due - 1) value)

def finish? (s : Scan) : Option (List Token) :=
  match s.mode with
  | .between => some s.tokens
  | .number phase literal =>
    if phase.complete then some (s.tokens ++ [.number literal]) else none
  | _ => none

end Scan

def tokens? (cs : List Char) : Option (List Token) := do
  (← cs.foldlM Scan.step Scan.start).finish?

/-- The letter that a unit is written as after a backslash, if it is. -/
def escapeOf? (unit : Nat) : Option Char :=
  match unit with
  | 0x22 => some '"'
  | 0x5c => some '\\'
  | 0x8 => some 'b'
  | 0x9 => some 't'
  | 0xa => some 'n'
  | 0xc => some 'f'
  | 0xd => some 'r'
  | _ => none

/-- How a unit is written inside a string. -/
def writtenUnit (unit : Nat) : List Char :=
  match escapeOf? unit, charOfUnit? unit with
  | some letter, _ => ['\\', letter]
  | none, some c =>
    if unit < 0x20 then
      '\\' :: 'u' :: '0' :: '0' :: [Nat.digitChar (unit / 16), Nat.digitChar (unit % 16)]
    else [c]
  | none, none =>
    '\\' :: 'u' :: [Nat.digitChar (unit / 4096 % 16), Nat.digitChar (unit / 256 % 16),
      Nat.digitChar (unit / 16 % 16), Nat.digitChar (unit % 16)]

namespace Token

def written : Token → List Char
  | .openArray => ['[']
  | .closeArray => [']']
  | .openObject => ['\x7b']
  | .closeObject => ['\x7d']
  | .comma => [',']
  | .colon => [':']
  | .null => ['n', 'u', 'l', 'l']
  | .bool true => ['t', 'r', 'u', 'e']
  | .bool false => ['f', 'a', 'l', 's', 'e']
  | .number literal => literal
  | .string units => '"' :: units.flatMap writtenUnit ++ ['"']

end Token

end PatternFs.Json
