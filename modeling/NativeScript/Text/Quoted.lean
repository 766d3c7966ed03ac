import NativeScript.Text.Printable

/-!
# Quoted text

A text is quoted by double quotes around it.  A quote, a backslash and the
common control characters inside it get a short escape; any other character
that cannot be seen on its own is written by its code point.
-/

namespace NativeScript.Text.Quoted

/-- The escape that names a character by its code point in base sixteen. -/
def byCodePoint (char : Char) : List Char :=
  ['\\', 'u', '\x7b'] ++ Nat.toDigits 16 char.toNat ++ ['\x7d']

/-- How one character stands between the quotes. -/
def escape (char : Char) : List Char :=
  match char with
  | '\x00' => ['\\', '0']
  | '\t' => ['\\', 't']
  | '\r' => ['\\', 'r']
  | '\n' => ['\\', 'n']
  | '"' => ['\\', '"']
  | '\\' => ['\\', '\\']
  | _ => if isGraphemeExtend char || !isPrintable char then byCodePoint char else [char]

/-- A text between double quotes. -/
def encode (text : List Char) : List Char :=
  '"' :: text.flatMap escape ++ ['"']

end NativeScript.Text.Quoted

namespace NativeScript.Text

/-- A text in double quotes, with escapes for what cannot be seen. -/
def quoted (text : String) : String :=
  String.ofList (Quoted.encode text.toList)

end NativeScript.Text
