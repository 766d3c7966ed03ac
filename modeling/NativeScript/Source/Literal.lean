import NativeScript.Text.Identifier
import NativeScript.Text.Lead

/-!
# Literals

String, character and number literals.  Each function here takes the text from
where a literal may begin and gives what follows the literal; the functions on
strings also give the characters that the string stands for.
-/

namespace NativeScript.Source.Literal

open Text (after?)

/-! ## Escapes -/

/-- The three families of string literals. -/
inductive Family where
  /-- Unicode text. -/
  | text
  /-- Bytes. -/
  | bytes
  /-- Text that ends at its first zero. -/
  | terminated
deriving DecidableEq

/-- The value of a digit in base sixteen. -/
def hexDigit? (char : Char) : Option Nat :=
  if char.isDigit then
    some (char.toNat - '0'.toNat)
  else if 'a' ≤ char ∧ char ≤ 'f' then
    some (char.toNat - 'a'.toNat + 10)
  else if 'A' ≤ char ∧ char ≤ 'F' then
    some (char.toNat - 'A'.toNat + 10)
  else
    none

/-- The escape of two hexadecimal digits.  In text it reaches only ASCII. -/
def byteEscape (family : Family) : List Char → Option (Char × List Char)
  | high :: low :: rest => do
      let high ← hexDigit? high
      let low ← hexDigit? low
      let value := 16 * high + low
      if family = .text ∧ 8 ≤ high then
        none
      else if family = .terminated ∧ value = 0 then
        none
      else
        some (Char.ofNat value, rest)
  | _ => none

/-- The digits of a code point up to the closing brace: one to six of them, with
underscores after the first. -/
def codePointDigits (digits value : Nat) : List Char → Option (Char × List Char)
  | [] => none
  | char :: rest =>
      match hexDigit? char with
      | some digit =>
          if digits = 6 then none else codePointDigits (digits + 1) (16 * value + digit) rest
      | none =>
          if digits = 0 then
            none
          else if char = '_' then
            codePointDigits digits value rest
          else if char = '\x7d' then
            if value.isValidChar then some (Char.ofNat value, rest) else none
          else
            none

/-- The escape of a code point in braces. -/
def codePointEscape : List Char → Option (Char × List Char)
  | '\x7b' :: rest => codePointDigits 0 0 rest
  | _ => none

/-- The escapes of one letter. -/
def letterEscape? (family : Family) : Char → Option Char
  | 'n' => some '\n'
  | 'r' => some '\r'
  | 't' => some '\t'
  | '\\' => some '\\'
  | '\'' => some '\''
  | '"' => some '"'
  | '0' => if family = .terminated then none else some '\x00'
  | _ => none

/-- The escape after a backslash, in any literal. -/
def escape (family : Family) : List Char → Option (Char × List Char)
  | 'x' :: rest => byteEscape family rest
  | 'u' :: rest =>
      if family = .bytes then
        none
      else
        match codePointEscape rest with
        | some (char, rest) =>
            if family = .terminated ∧ char = '\x00' then none else some (char, rest)
        | none => none
  | char :: rest => (letterEscape? family char).map (·, rest)
  | [] => none

/-- The text after a line break that a backslash hides, without the blanks at
the start of the next line. -/
def continuation : List Char → Option (List Char)
  | [] => none
  | '\r' :: '\n' :: rest => continuation rest
  | '\r' :: _ => none
  | char :: rest =>
      if char = ' ' ∨ char = '\t' ∨ char = '\n' then continuation rest else some (char :: rest)

/-! ## Strings -/

/-- Whether a character may stand in a string as itself. -/
def Family.allows : Family → Char → Bool
  | .text, _ => true
  | .bytes, char => decide (char.val < 128)
  | .terminated, char => char != '\x00'

/-- The inside of a string with escapes, up to its closing quote: the characters
it stands for, and the text after the quote. -/
def cooked (family : Family) : Nat → List Char → Option (List Char × List Char)
  | 0, _ => none
  | _ + 1, [] => none
  | _ + 1, '"' :: rest => some ([], rest)
  | fuel + 1, '\r' :: rest =>
      match rest with
      | '\n' :: rest => (cooked family fuel rest).map fun (inner, rest) => ('\n' :: inner, rest)
      | _ => none
  | fuel + 1, '\\' :: rest =>
      match rest with
      | '\n' :: _ => (continuation rest).bind (cooked family fuel)
      | '\r' :: _ => (continuation rest).bind (cooked family fuel)
      | _ =>
          match escape family rest with
          | some (char, rest) =>
              (cooked family fuel rest).map fun (inner, rest) => (char :: inner, rest)
          | none => none
  | fuel + 1, char :: rest =>
      if family.allows char then
        (cooked family fuel rest).map fun (inner, rest) => (char :: inner, rest)
      else
        none

/-- The inside of a raw string, up to a quote followed by `fence`. -/
def rawInside (family : Family) (fence : List Char) : List Char → Option (List Char × List Char)
  | [] => none
  | '\r' :: '\n' :: rest =>
      (rawInside family fence rest).map fun (inner, rest) => ('\r' :: '\n' :: inner, rest)
  | '\r' :: _ => none
  | char :: rest =>
      let further := (rawInside family fence rest).map fun (inner, rest) => (char :: inner, rest)
      if char = '"' then
        match after? fence rest with
        | some rest => some ([], rest)
        | none => further
      else if family.allows char then
        further
      else
        none

/-- A raw string after its letter: up to 255 number signs, a quote, the inside,
a quote, and as many number signs. -/
def raw (family : Family) (text : List Char) : Option (List Char × List Char) :=
  let fence := text.takeWhile (· == '#')
  match text.dropWhile (· == '#') with
  | '"' :: rest => if fence.length ≤ 255 then rawInside family fence rest else none
  | _ => none

/-- A string of either form, where the text before its opening is given by the
two spellings `quote` and `letter`. -/
def string (family : Family) (quote letter : String) (text : List Char) :
    Option (List Char × List Char) :=
  match after? quote.toList text with
  | some rest => cooked family (rest.length + 1) rest
  | none => (after? letter.toList text).bind (raw family)

/-! ## Identifiers and suffixes -/

/-- An identifier at the start of a text, and what follows it. -/
def identifier? : List Char → Option (List Char × List Char)
  | [] => none
  | char :: rest =>
      if Text.isIdentifierStart char then
        some (char :: rest.takeWhile Text.isIdentifierContinue,
          rest.dropWhile Text.isIdentifierContinue)
      else
        none

/-- A text without the suffix of the literal before it. -/
def dropSuffix (text : List Char) : List Char :=
  ((identifier? text).map Prod.snd).getD text

/-- A text that does not go on with a character of an identifier. -/
def wordEnd? (text : List Char) : Option (List Char) :=
  match text with
  | char :: _ => if Text.isIdentifierContinue char then none else some text
  | [] => some text

/-! ## Characters -/

/-- The closing quote of a character, and the suffix after it. -/
def closeQuote : List Char → Option (List Char)
  | '\'' :: rest => some (dropSuffix rest)
  | _ => none

/-- A byte in quotes. -/
def byte (text : List Char) : Option (List Char) :=
  match after? ['b', '\''] text with
  | some ('\\' :: rest) => (escape .bytes rest).bind fun (_, rest) => closeQuote rest
  | some (char :: rest) => if char.val < 128 then closeQuote rest else none
  | _ => none

/-- A character in quotes. -/
def character : List Char → Option (List Char)
  | '\'' :: '\\' :: rest => (escape .text rest).bind fun (_, rest) => closeQuote rest
  | '\'' :: _ :: rest => closeQuote rest
  | _ => none

/-! ## Numbers -/

/-- The digits of an exponent after its letter.  `signed` and `valued` tell
whether a sign and a digit came before. -/
def exponent (signed valued : Bool) : List Char → Option (List Char)
  | [] => if valued then some [] else none
  | char :: rest =>
      if char = '+' ∨ char = '-' then
        if valued then some (char :: rest)
        else if signed then none
        else exponent true valued rest
      else if char.isDigit then
        exponent signed true rest
      else if char = '_' then
        exponent signed valued rest
      else if valued then
        some (char :: rest)
      else
        none

/-- Whether a character goes on a run of decimal digits. -/
def isDecimal (char : Char) : Bool :=
  char.isDigit || char == '_'

/-- The exponent of a number, if one begins here. -/
def exponentPart? : List Char → Option (List Char)
  | 'e' :: rest => exponent false false rest
  | 'E' :: rest => exponent false false rest
  | _ => none

/-- The digits of a number with a point or an exponent. -/
def floatDigits (text : List Char) : Option (List Char) :=
  match text with
  | [] => none
  | first :: _ =>
      if !first.isDigit then
        none
      else
        match text.dropWhile isDecimal with
        | '.' :: rest =>
            let goesOn := match rest with
              | char :: _ => char == '.' || Text.isIdentifierStart char
              | [] => false
            if goesOn then
              none
            else
              let fraction := rest.dropWhile isDecimal
              some ((exponentPart? fraction).getD fraction)
        | rest => exponentPart? rest

/-- The digits of a whole number in a base.  `empty` tells that none came
before. -/
def wholeDigits (base : Nat) (empty : Bool) (text : List Char) : Option (List Char) :=
  let stop := if empty then none else some text
  match text with
  | [] => stop
  | char :: rest =>
      if char.isDigit then
        if char.toNat - '0'.toNat < base then wholeDigits base false rest else none
      else if char = '_' then
        if empty ∧ base = 10 then none else wholeDigits base empty rest
      else
        match hexDigit? char with
        | some digit => if digit < base then wholeDigits base false rest else stop
        | none => stop

/-- A number with a point or an exponent. -/
def float (text : List Char) : Option (List Char) :=
  (floatDigits text).bind fun rest => wordEnd? (dropSuffix rest)

/-- The base of a whole number, and what follows the sign of the base. -/
def splitBase : List Char → Nat × List Char
  | '0' :: 'x' :: rest => (16, rest)
  | '0' :: 'o' :: rest => (8, rest)
  | '0' :: 'b' :: rest => (2, rest)
  | text => (10, text)

/-- A whole number, decimal or after one of the base signs. -/
def whole (text : List Char) : Option (List Char) :=
  let (base, digits) := splitBase text
  (wholeDigits base true digits).bind fun rest => wordEnd? (dropSuffix rest)

/-! ## Any literal -/

/-- What follows the string at the start of a text. -/
def afterString? (text : List Char) : Option (List Char) :=
  ((string .text "\"" "r" text).or <| (string .bytes "b\"" "br" text).or <|
    string .terminated "c\"" "cr" text).map fun (_, rest) => dropSuffix rest

/-- What follows the literal at the start of a text. -/
def afterLiteral? (text : List Char) : Option (List Char) :=
  (afterString? text).or <| (byte text).or <| (character text).or <| (float text).or <| whole text

/-- The characters that a string literal stands for. -/
def stringValue? (literal : String) : Option String :=
  (string .text "\"" "r" literal.toList).map fun (inner, _) => String.ofList inner

/-- Whether a literal is a number with a point or an exponent. -/
def isFloat (literal : String) : Bool :=
  let text := literal.toList
  (text.headD ' ').isDigit && (float text).isSome

/-- The number of a field that a literal stands for: a whole number of thirty-two
bits without a suffix. -/
def fieldIndex? (literal : String) : Option Nat :=
  let (base, digits) := splitBase literal.toList
  if wholeDigits base true digits = some [] then
    let value := (digits.filterMap hexDigit?).foldl (fun value digit => base * value + digit) 0
    if value < UInt32.size then some value else none
  else
    none

end NativeScript.Source.Literal
