import NativeScript.Source.Literal
import NativeScript.Source.Token
import NativeScript.Text.Blank
import NativeScript.Text.Quoted

/-!
# From text to tokens

Text is cut into lexemes from left to right: blanks and plain comments vanish,
a documentation comment becomes the attribute it stands for, and brackets are
paired afterwards, so that a sequence of lexemes becomes a tree of tokens.
-/

namespace NativeScript.Source.Lexer

open Text (after?)

/-! ## Blanks and comments -/

/-- Whether a character separates tokens.  The two marks of writing direction
count as blanks here. -/
def isGap (char : Char) : Bool :=
  Text.isBlank char || char == '\u200e' || char == '\u200f'

/-- The text of the current line, and the text from the line break on.  A
carriage return before the break belongs to neither. -/
def splitLine : List Char → List Char × List Char
  | [] => ([], [])
  | '\n' :: rest => ([], '\n' :: rest)
  | '\r' :: '\n' :: rest => ([], '\n' :: rest)
  | char :: rest =>
      let (line, rest) := splitLine rest
      (char :: line, rest)

/-- The rest of a comment with `depth` comments open around it: its text up to
and with the end of the outermost one, and the text after that. -/
def splitComment : (depth : Nat) → List Char → Option (List Char × List Char)
  | depth, '/' :: '*' :: rest =>
      (splitComment (depth + 1) rest).map fun (inner, rest) => ('/' :: '*' :: inner, rest)
  | depth, '*' :: '/' :: rest =>
      if depth ≤ 1 then
        some (['*', '/'], rest)
      else
        (splitComment (depth - 1) rest).map fun (inner, rest) => ('*' :: '/' :: inner, rest)
  | depth, char :: rest =>
      (splitComment depth rest).map fun (inner, rest) => (char :: inner, rest)
  | _, [] => none

/-- What follows the plain comment at the start of a text. -/
def afterComment? (text : List Char) : Option (List Char) :=
  match text with
  | '/' :: '/' :: '!' :: _ => none
  | '/' :: '/' :: '/' :: '/' :: _ => some (splitLine text).2
  | '/' :: '/' :: '/' :: _ => none
  | '/' :: '/' :: _ => some (splitLine text).2
  | '/' :: '*' :: '*' :: '/' :: rest => some rest
  | '/' :: '*' :: '!' :: _ => none
  | '/' :: '*' :: '*' :: '*' :: _ => (splitComment 0 text).map Prod.snd
  | '/' :: '*' :: '*' :: _ => none
  | '/' :: '*' :: _ => (splitComment 0 text).map Prod.snd
  | _ => none

/-- A text without the blanks and plain comments at its start. -/
def dropGaps : Nat → List Char → List Char
  | 0, text => text
  | fuel + 1, text =>
      match afterComment? text with
      | some rest => dropGaps fuel rest
      | none =>
          match text with
          | char :: rest => if isGap char then dropGaps fuel rest else text
          | [] => []

/-! ## Documentation comments -/

/-- The text of the documentation comment at the start of a text, whether it
documents what surrounds it, and what follows it. -/
def documentation? (text : List Char) : Option (List Char × Bool × List Char) :=
  let block (inner : Bool) := (splitComment 0 text).map fun (comment, rest) =>
    (comment.drop 3 |>.dropLast.dropLast, inner, rest)
  match text with
  | '/' :: '/' :: '!' :: rest =>
      let (line, rest) := splitLine rest
      some (line, true, rest)
  | '/' :: '*' :: '!' :: _ => block true
  | '/' :: '/' :: '/' :: '/' :: _ => none
  | '/' :: '/' :: '/' :: rest =>
      let (line, rest) := splitLine rest
      some (line, false, rest)
  | '/' :: '*' :: '*' :: '*' :: _ => none
  | '/' :: '*' :: '*' :: _ => block false
  | _ => none

/-- Whether a carriage return stands in a text without a line feed behind it. -/
def hasLoneReturn : List Char → Bool
  | [] => false
  | '\r' :: '\n' :: rest => hasLoneReturn rest
  | '\r' :: _ => true
  | _ :: rest => hasLoneReturn rest

/-- How a character of a documentation comment is spelled in the literal that
holds the comment, where `next` follows it. -/
def spellDocumentation : List Char → List Char
  | [] => []
  | '\x00' :: rest =>
      let octal := match rest with
        | next :: _ => decide ('0' ≤ next ∧ next ≤ '7')
        | [] => false
      (if octal then ['\\', 'x', '0', '0'] else ['\\', '0']) ++ spellDocumentation rest
  | char :: rest => Text.Quoted.escape char ++ spellDocumentation rest

/-- The attribute that a documentation comment stands for. -/
def documentationTokens (comment : List Char) (inner : Bool) : List Token :=
  let value := String.ofList ('"' :: spellDocumentation comment ++ ['"'])
  let meaning := Token.group .bracket [.word "doc", .mark '=' false, .literal value]
  if inner then
    [.mark '#' false, .mark '!' false, meaning]
  else
    [.mark '#' false, meaning]

/-! ## Leaves -/

/-- The punctuation characters. -/
def marks : List Char :=
  "~!@#$%^&*-=+|;:,<.>/?'".toList

/-- Whether a text begins with a punctuation character that is no comment. -/
def startsMark : List Char → Bool
  | '/' :: '/' :: _ => false
  | '/' :: '*' :: _ => false
  | char :: _ => marks.contains char
  | [] => false

/-- An identifier, which may be raw, and what follows it. -/
def word? (text : List Char) : Option (String × List Char) :=
  match after? ['r', '#'] text with
  | some rest =>
      match Literal.identifier? rest with
      | some (name, rest) =>
          if ["_", "super", "self", "Self", "crate"].contains (String.ofList name) then
            none
          else
            some ("r#" ++ String.ofList name, rest)
      | none => none
  | none => (Literal.identifier? text).map fun (name, rest) => (String.ofList name, rest)

/-- The beginnings of string literals, which are never identifiers. -/
def stringStarts : List (List Char) :=
  ["r\"", "r#\"", "r##", "b\"", "b'", "br\"", "br#", "c\"", "cr\"", "cr#"].map String.toList

/-- The mark at the start of a text.  A single quote is a mark only in front of
the name of a lifetime. -/
def mark? (text : List Char) : Option (Token × List Char) :=
  match text with
  | '\'' :: rest =>
      match word? rest with
      | none => none
      | some (_, next) =>
          let isRaw := (after? ['r', '#'] rest).isSome
          match next with
          | '\'' :: _ => none
          | '#' :: _ => if isRaw then some (.mark '\'' true, rest) else none
          | _ => some (.mark '\'' true, rest)
  | char :: rest => if startsMark text then some (.mark char (startsMark rest), rest) else none
  | [] => none

/-- The literal, mark or word at the start of a text, and what follows it. -/
def leaf? (text : List Char) : Option (Token × List Char) :=
  match Literal.afterLiteral? text with
  | some rest =>
      some (.literal (String.ofList (text.take (text.length - rest.length))), rest)
  | none =>
      match mark? text with
      | some found => some found
      | none =>
          if stringStarts.any (·.isPrefixOf text) then
            none
          else
            (word? text).map fun (name, rest) => (.word name, rest)

/-! ## Lexemes -/

/-- A token that is no group, or one of the brackets of a group. -/
inductive Lexeme where
  | opening (delimiter : Delimiter)
  | closing (delimiter : Delimiter)
  | token (token : Token)

/-- The bracket at the start of a text. -/
def bracket? : Char → Option Lexeme
  | '(' => some (.opening .paren)
  | ')' => some (.closing .paren)
  | '[' => some (.opening .bracket)
  | ']' => some (.closing .bracket)
  | '\x7b' => some (.opening .brace)
  | '\x7d' => some (.closing .brace)
  | _ => none

/-- The lexemes at the start of a text that begins with no gap, and what follows
them. -/
def step? (text : List Char) : Option (List Lexeme × List Char) :=
  match documentation? text with
  | some (comment, inner, rest) =>
      if hasLoneReturn comment then
        none
      else
        some ((documentationTokens comment inner).map Lexeme.token, rest)
  | none =>
      match text with
      | [] => none
      | char :: rest =>
          match bracket? char with
          | some lexeme => some ([lexeme], rest)
          | none => (leaf? text).map fun (token, rest) => ([.token token], rest)

/-- The lexemes of a text. -/
def lexemes? : Nat → List Char → Option (List Lexeme)
  | 0, _ => none
  | fuel + 1, text =>
      match dropGaps text.length text with
      | [] => some []
      | text =>
          match step? text with
          | some (found, rest) => (lexemes? fuel rest).map (found ++ ·)
          | none => none

/-- Pair the brackets of a sequence of lexemes.  `opened` holds the open groups
from the inside out, each with the tokens before it, and `current` the tokens of
the innermost group; both hold their tokens in reverse. -/
def pair? (opened : List (Delimiter × List Token)) (current : List Token) :
    List Lexeme → Option (List Token)
  | [] => if opened.isEmpty then some current.reverse else none
  | .token token :: lexemes => pair? opened (token :: current) lexemes
  | .opening delimiter :: lexemes => pair? ((delimiter, current) :: opened) [] lexemes
  | .closing delimiter :: lexemes =>
      match opened with
      | [] => none
      | (expected, before) :: opened =>
          if delimiter = expected then
            pair? opened (.group delimiter current.reverse :: before) lexemes
          else
            none

/-- A text without the byte order mark at its start. -/
def dropByteOrderMark : List Char → List Char
  | '\ufeff' :: text => text
  | text => text

/-- The tokens of a text. -/
def tokens? (text : List Char) : Option (List Token) :=
  let text := dropByteOrderMark text
  (lexemes? (text.length + 1) text).bind (pair? [] [])

/-- A text without the interpreter line at its start, which begins with `#!` but
not with an inner attribute. -/
def dropInterpreterLine (text : List Char) : List Char :=
  match text with
  | '#' :: '!' :: rest =>
      match dropGaps rest.length rest with
      | '[' :: _ => text
      | _ => text.dropWhile (· != '\n')
  | _ => text

/-- The tokens of a whole unit. -/
def unitTokens? (text : List Char) : Option (List Token) :=
  tokens? (dropInterpreterLine (dropByteOrderMark text))

end NativeScript.Source.Lexer
