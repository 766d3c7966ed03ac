import NativeScript.Source.Literal
import NativeScript.Source.Token

/-!
# Reading tokens

A cursor stands in a sequence of tokens and remembers what has been read of it.
What was read is kept as the tokens that write it again: they differ from the
tokens of the source where one mark was read as two, or one number as a chain of
fields.

A reader either fails or moves the cursor on.  Reading is tentative: the cursor
of a failed reader is simply dropped.
-/

namespace NativeScript.Source

/-- A place in a sequence of tokens. -/
structure Cursor where
  rest : List Token
  /-- The tokens that write what was read, the last one first. -/
  written : List Token

/-- A reader of tokens. -/
abbrev Parser := StateT Cursor Option

/-! ## Looking ahead -/

/-- A test of the tokens that come next. -/
abbrev Look := List Token → Bool

namespace Look

/-- The words that are not identifiers. -/
def keywords : List String := [
    "_", "abstract", "as", "async", "await", "become", "box", "break", "const", "continue",
    "crate", "do", "dyn", "else", "enum", "extern", "false", "final", "fn", "for", "if", "impl",
    "in", "let", "loop", "macro", "match", "mod", "move", "mut", "override", "priv", "pub", "ref",
    "return", "Self", "self", "static", "struct", "super", "trait", "true", "try", "type",
    "typeof", "unsafe", "unsized", "use", "virtual", "where", "while", "yield"
  ]

/-- At the end of the tokens. -/
def atEnd : Look := List.isEmpty

/-- At the word `word`. -/
def atWord (word : String) : Look
  | .word text :: _ => text == word
  | _ => false

/-- At any word. -/
def atAnyWord : Look
  | .word _ :: _ => true
  | _ => false

/-- At an identifier. -/
def atName : Look
  | .word text :: _ => !keywords.contains text
  | _ => false

/-- At the first name of a path. -/
def atPathName : Look
  | .word text :: _ =>
      !keywords.contains text || ["super", "self", "Self", "crate"].contains text
  | _ => false

/-- At a group in some brackets. -/
def atGroup (delimiter : Delimiter) : Look
  | .group found _ :: _ => found == delimiter
  | _ => false

/-- At a lifetime. -/
def atLifetime : Look
  | .mark '\'' _ :: .word _ :: _ => true
  | _ => false

/-- Whether a literal is a number. -/
def isNumber (literal : String) : Bool :=
  (literal.toList.headD ' ').isDigit

/-- At a literal, which may be a negative number or a truth value. -/
def atLiteral : Look
  | .literal _ :: _ => true
  | .word text :: _ => text == "true" || text == "false"
  | .mark '-' _ :: .literal text :: _ => isNumber text
  | _ => false

/-- At a string literal. -/
def atString : Look
  | .literal text :: _ => (Literal.stringValue? text).isSome
  | _ => false

/-- What follows a mark of one or more characters. -/
def afterMark? : List Char → List Token → Option (List Token)
  | [], _ => none
  | [char], .mark found _ :: rest => if found = char then some rest else none
  | char :: chars, .mark found joint :: rest =>
      if found = char ∧ joint then afterMark? chars rest else none
  | _, _ => none

/-- At a mark of one or more characters.  The mark may go on with further
characters. -/
def atMark (mark : String) : Look := fun tokens =>
  (afterMark? mark.toList tokens).isSome

/-- What follows the next token, where a lifetime counts as one. -/
def past : List Token → List Token
  | .mark '\'' _ :: .word _ :: rest => rest
  | _ :: rest => rest
  | [] => []

/-- A test of the tokens after the next one. -/
def second (look : Look) : Look := fun tokens => look (past tokens)

/-- A test of the tokens after the next two. -/
def third (look : Look) : Look := fun tokens => look (past (past tokens))

/-- Either of two tests. -/
def or (left right : Look) : Look := fun tokens => left tokens || right tokens

/-- Both of two tests. -/
def and (left right : Look) : Look := fun tokens => left tokens && right tokens

/-- The opposite of a test. -/
def not (look : Look) : Look := fun tokens => !look tokens

/-- One of several tests. -/
def any (looks : List Look) : Look := fun tokens => looks.any (· tokens)

/-- At one of several words. -/
def atWords (words : List String) : Look := any (words.map atWord)

/-- At one of several marks. -/
def atMarks (marks : List String) : Look := any (marks.map atMark)

/-- At a colon that is not the beginning of a `::`. -/
def atColon : Look := (atMark ":").and (atMark "::").not

end Look

/-! ## Single tokens -/

namespace Parser

open Look

/-- The tokens that come next. -/
def tokens : Parser (List Token) := fun cursor => some (cursor.rest, cursor)

/-- Whether a test holds of the tokens that come next. -/
def at? (look : Look) : Parser Bool := fun cursor => some (look cursor.rest, cursor)

/-- Go on only if a condition holds. -/
def require (condition : Bool) : Parser Unit := fun cursor =>
  if condition then some ((), cursor) else none

/-- Fail. -/
def reject {α : Type} : Parser α := fun _ => none

/-- Read the next word, whichever it is. -/
def anyWord : Parser String
  | ⟨.word text :: rest, written⟩ => some (text, ⟨rest, .word text :: written⟩)
  | _ => none

/-- Read a given word. -/
def word (expected : String) : Parser Unit := do
  let found ← anyWord
  require (found == expected)

/-- Read an identifier. -/
def identifier : Parser String := do
  let found ← anyWord
  require (!keywords.contains found)
  pure found

/-- The tokens that write a mark, the last one first. -/
def markTokens : List Char → List Token
  | [] => []
  | [char] => [.mark char false]
  | char :: chars => markTokens chars ++ [.mark char true]

/-- Read a given mark. -/
def mark (expected : String) : Parser Unit := fun cursor =>
  (afterMark? expected.toList cursor.rest).map fun rest =>
    ((), ⟨rest, markTokens expected.toList ++ cursor.written⟩)

/-- Read a given word if it comes next. -/
def optionalWord (expected : String) : Parser Bool := do
  if ← at? (atWord expected) then
    word expected
    pure true
  else
    pure false

/-- Read a given mark if it comes next. -/
def optionalMark (expected : String) : Parser Bool := do
  if ← at? (atMark expected) then
    mark expected
    pure true
  else
    pure false

/-- Read a lifetime. -/
def lifetime : Parser Unit
  | ⟨.mark '\'' _ :: .word text :: rest, written⟩ =>
      some ((), ⟨rest, .word text :: .mark '\'' true :: written⟩)
  | _ => none

/-- Read a literal.  The sign of a negative number becomes part of it. -/
def literal : Parser String
  | ⟨.literal text :: rest, written⟩ => some (text, ⟨rest, .literal text :: written⟩)
  | ⟨.word text :: rest, written⟩ =>
      if text = "true" ∨ text = "false" then
        some (text, ⟨rest, .word text :: written⟩)
      else
        none
  | ⟨.mark '-' _ :: .literal text :: rest, written⟩ =>
      if isNumber text then
        some ("-" ++ text, ⟨rest, .literal ("-" ++ text) :: written⟩)
      else
        none
  | _ => none

/-! ## Groups -/

/-- Read all of a sequence of tokens. -/
def all? {α : Type} (parser : Parser α) (tokens : List Token) : Option (α × List Token) :=
  match parser ⟨tokens, []⟩ with
  | some (value, ⟨[], written⟩) => some (value, written.reverse)
  | _ => none

/-- Read a group in some brackets, and all that is in it. -/
def inside {α : Type} (delimiter : Delimiter) (parser : Parser α) : Parser α
  | ⟨.group found tokens :: rest, written⟩ =>
      if found = delimiter then
        (all? parser tokens).map fun (value, inner) =>
          (value, ⟨rest, .group delimiter inner :: written⟩)
      else
        none
  | _ => none

/-- Read a group in any brackets, whatever is in it. -/
def anyGroup : Parser (Delimiter × List Token)
  | ⟨.group delimiter tokens :: rest, written⟩ =>
      some ((delimiter, tokens), ⟨rest, .group delimiter tokens :: written⟩)
  | _ => none

/-- Read something together with the tokens that write it. -/
def captured {α : Type} (parser : Parser α) : Parser (α × List Token) := fun cursor =>
  (parser ⟨cursor.rest, []⟩).map fun (value, after) =>
    ((value, after.written.reverse), ⟨after.rest, after.written ++ cursor.written⟩)

/-- Read something that is written again exactly as it stands in the source. -/
def verbatim {α : Type} (parser : Parser α) : Parser α := fun cursor =>
  (parser cursor).map fun (value, after) =>
    let read := cursor.rest.take (cursor.rest.length - after.rest.length)
    (value, ⟨after.rest, read.reverse ++ cursor.written⟩)

/-- Read something that is not written again. -/
def unwritten {α : Type} (parser : Parser α) : Parser α := fun cursor =>
  (parser cursor).map fun (value, after) => (value, ⟨after.rest, cursor.written⟩)

/-- Write a mark that is not read. -/
def writeMark (text : String) : Parser Unit := fun cursor =>
  some ((), ⟨cursor.rest, markTokens text.toList ++ cursor.written⟩)

/-- Write a literal that is not read. -/
def writeLiteral (text : String) : Parser Unit := fun cursor =>
  some ((), ⟨cursor.rest, .literal text :: cursor.written⟩)

/-- Read the number of a field.  It is written again in decimal. -/
def fieldIndex : Parser Unit := do
  match Literal.fieldIndex? (← unwritten literal) with
  | some index => writeLiteral index.repr
  | none => reject

/-! ## Repetition -/

/-- Read as long as a test holds.  Every round has to move the cursor, so the
tokens at hand bound the number of rounds. -/
def whileFrom {α : Type} (look : Look) (parser : Parser α) : Nat → Parser (List α)
  | 0 => reject
  | rounds + 1 => do
      if ← at? look then
        let value ← parser
        let values ← whileFrom look parser rounds
        pure (value :: values)
      else
        pure []

/-- Read as long as a test holds. -/
def whileAt {α : Type} (look : Look) (parser : Parser α) : Parser (List α) := do
  whileFrom look parser ((← tokens).length + 1)

/-- Read a sequence with separators, which may also stand behind the last
element. -/
def separatedFrom {α : Type} (stop : Look) (separator : String) (parser : Parser α) :
    Nat → Parser (List α)
  | 0 => reject
  | rounds + 1 => do
      if ← at? stop then
        pure []
      else
        let value ← parser
        if ← at? stop then
          pure [value]
        else
          mark separator
          let values ← separatedFrom stop separator parser rounds
          pure (value :: values)

/-- Read a sequence with separators up to where a test holds. -/
def separated {α : Type} (stop : Look) (separator : String) (parser : Parser α) :
    Parser (List α) := do
  separatedFrom stop separator parser ((← tokens).length + 1)

/-- Read the rest of the tokens as a sequence with commas. -/
def commaList {α : Type} (parser : Parser α) : Parser (List α) :=
  separated atEnd "," parser

/-- Read something if a test holds. -/
def optional {α : Type} (look : Look) (parser : Parser α) : Parser (Option α) := do
  if ← at? look then
    pure (some (← parser))
  else
    pure none

/-- Read code if a test holds. -/
def optionalList {α : Type} (look : Look) (parser : Parser (List α)) : Parser (List α) := do
  if ← at? look then parser else pure []

/-- Read one element and, while a separator follows that may go on with another
one, further elements. -/
def chainFrom {α : Type} (separator : String) (goesOn : Look) (parser : Parser α) :
    Nat → Parser (List α)
  | 0 => reject
  | rounds + 1 => do
      let value ← parser
      if ← optionalMark separator then
        if ← at? goesOn then
          let values ← chainFrom separator goesOn parser rounds
          pure (value :: values)
        else
          pure [value]
      else
        pure [value]

/-- Read one or more elements with separators.  After a separator, `goesOn` tells
whether another element follows. -/
def chain {α : Type} (separator : String) (goesOn : Look) (parser : Parser α) :
    Parser (List α) := do
  chainFrom separator goesOn parser ((← tokens).length + 1)

end Parser

end NativeScript.Source
