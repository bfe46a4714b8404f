/-! JSON values. A number is kept as it was written. A string is a sequence of units: a character
that stood for itself counts as its code point and an escape as the unit of UTF-16 it names, so
that a string may hold surrogates without a partner. Such a string is a value, but it is no text. -/
namespace PatternFs

inductive Json
  | null
  | bool (b : Bool)
  | number (literal : List Char)
  | string (units : List Nat)
  | array (items : List Json)
  | object (members : List (List Nat × Json))

namespace Json

def isHighSurrogate (unit : Nat) : Bool := 0xd800 ≤ unit && unit < 0xdc00

def isLowSurrogate (unit : Nat) : Bool := 0xdc00 ≤ unit && unit < 0xe000

def charOfUnit? (unit : Nat) : Option Char :=
  if unit.isValidChar then some (Char.ofNat unit) else none

/-- The character of a high and a low surrogate. -/
def charOfPair? (high low : Nat) : Option Char :=
  charOfUnit? (0x10000 + (high - 0xd800) * 0x400 + (low - 0xdc00))

/-- Joins surrogates to characters. `none` when one is without a partner. -/
def charsOfUnits? : List Nat → Option (List Char)
  | [] => some []
  | high :: low :: rest =>
    if isHighSurrogate high && isLowSurrogate low then do
      let c ← charOfPair? high low
      return c :: (← charsOfUnits? rest)
    else do
      let c ← charOfUnit? high
      return c :: (← charsOfUnits? (low :: rest))
  | [unit] => (charOfUnit? unit).map ([·])

def textOfUnits? (units : List Nat) : Option String := (charsOfUnits? units).map String.ofList

def unitsOfText (s : String) : List Nat := s.toList.map Char.toNat

def ofText (s : String) : Json := .string (unitsOfText s)

def ofNat (n : Nat) : Json := .number (Nat.toDigits 10 n)

def text? : Json → Option String
  | .string units => textOfUnits? units
  | _ => none

theorem charsOfUnits?_map_toNat (cs : List Char) :
    charsOfUnits? (cs.map Char.toNat) = some cs := by
  have single (c : Char) : charOfUnit? c.toNat = some c := by
    have valid : c.toNat.isValidChar := c.valid
    rw [charOfUnit?, if_pos valid, Char.ofNat_toNat]
  have plain (c : Char) : isHighSurrogate c.toNat = false := by
    have valid : c.toNat < 0xd800 ∨ 0xdfff < c.toNat ∧ c.toNat < 0x110000 := c.valid
    simp [isHighSurrogate]; omega
  induction cs with
  | nil => rfl
  | cons c rest ih =>
    cases rest with
    | nil => simp [charsOfUnits?, single]
    | cons d rest =>
      simp only [List.map_cons] at ih
      simp [charsOfUnits?, plain, single, ih]

theorem textOfUnits?_unitsOfText (s : String) : textOfUnits? (unitsOfText s) = some s := by
  simp [textOfUnits?, unitsOfText, charsOfUnits?_map_toNat]

end Json

end PatternFs
