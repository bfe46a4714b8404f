import PatternFs.Text.Hidden

/-! Texts in double quotes, as messages show them. The quote, the backslash and the common controls
have short escapes, a hidden character is written as its code point, and all else stands for
itself. -/
namespace PatternFs.Text

def codePoint (c : Char) : List Char := "\\u\x7b".toList ++ Nat.toDigits 16 c.toNat ++ ['\x7d']

def quotedChar (c : Char) : List Char :=
  match c with
  | '"' => "\\\"".toList
  | '\\' => "\\\\".toList
  | '\n' => "\\n".toList
  | '\r' => "\\r".toList
  | '\t' => "\\t".toList
  | '\x00' => "\\0".toList
  | c => if isHidden c then codePoint c else [c]

def quoted (s : String) : String := String.ofList ('"' :: s.toList.flatMap quotedChar ++ ['"'])

end PatternFs.Text
