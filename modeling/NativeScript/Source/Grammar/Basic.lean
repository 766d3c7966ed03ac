import NativeScript.Source.Cursor
import NativeScript.Source.Tree

/-!
# The grammar and its knot

Types, expressions, patterns and items contain each other.  The readers of one
level of nesting are therefore written against a `Grammar`, which holds the
readers of the level inside; tying these levels together is left to the end.

This module holds what all of them need: literals, attributes and plain paths.
-/

namespace NativeScript.Source

/-- How tightly an operator binds, from loose to tight. -/
inductive Precedence where
  | lowest
  | assignment
  | range
  | disjunction
  | conjunction
  | binding
  | comparison
  | bitOr
  | bitXor
  | bitAnd
  | shift
  | sum
  | product
  | cast
deriving DecidableEq

/-- The place of a precedence in the order from loose to tight. -/
def Precedence.rank : Precedence → Nat
  | lowest => 0
  | assignment => 1
  | range => 2
  | disjunction => 3
  | conjunction => 4
  | binding => 5
  | comparison => 6
  | bitOr => 7
  | bitXor => 8
  | bitAnd => 9
  | shift => 10
  | sum => 11
  | product => 12
  | cast => 13

/-- What the grammar has to know of an expression once it is read. -/
inductive ExprForm where
  /-- A block or a control structure, which is a statement of its own. -/
  | block
  | bracedMacro
  | range
  | comparison
  | other
deriving DecidableEq

/-- An expression that has been read. -/
structure Expr where
  code : Code
  form : ExprForm := .other
  /-- Whether the text of the expression ends with a brace. -/
  endsInBrace : Bool := false

/-- A pattern that has been read. -/
structure Pattern where
  /-- The name that the pattern binds, if it is a plain binding. -/
  binding : Option String := none
  code : List Code := []
  /-- Whether the pattern is a range without one of its bounds. -/
  isOpenRange : Bool := false

/-- The readers of everything that may be nested.  Where a brace would begin a
block, as in the head of a loop, expressions are read without record literals. -/
structure Grammar where
  /-- A type; `sums` tells whether bounds may be joined by a plus. -/
  type (sums : Bool) : Parser TypeExpr
  /-- A bound of a type: the code inside it, and whether it is a trait. -/
  bound : Parser (List Code × Bool)
  expr (records : Bool) : Parser Expr
  /-- An operand, with the operators in front of it and behind it. -/
  unary (records : Bool) : Parser Expr
  /-- The operators that follow an operand, down to a precedence. -/
  operators (records : Bool) (left : Expr) (base : Precedence) : Parser Expr
  /-- An expression where a block ends a statement. -/
  statementExpr : Parser Expr
  /-- A pattern without alternatives. -/
  pattern : Parser Pattern
  /-- A block in braces. -/
  block : Parser (List Code)
  /-- An item behind its attributes. -/
  item (attributes : List Attribute) : Parser Item

/-- The readers that always fail. -/
def Grammar.empty : Grammar where
  type _ := Parser.reject
  bound := Parser.reject
  expr _ := Parser.reject
  unary _ := Parser.reject
  operators _ _ _ := Parser.reject
  statementExpr := Parser.reject
  pattern := Parser.reject
  block := Parser.reject
  item _ := Parser.reject

namespace Parser

open Look

/-! ## Literals and plain paths -/

/-- The code of a literal. -/
def codeOfLiteral (literal : String) : Code :=
  match Literal.stringValue? literal with
  | some value => .text value
  | none => .other []

/-- A path of names. -/
def pathOfNames (absolute : Bool) (names : List String) : Path :=
  ⟨absolute, names.dropLast, names.getLastD "", true⟩

/-- The name of a segment in a plain path. -/
def plainName : Parser String := do
  require (← at? atPathName)
  anyWord

/-- A path without generic arguments. -/
def plainPath : Parser Path := do
  let absolute ← optionalMark "::"
  let names ← chain "::" (fun _ => true) plainName
  pure (pathOfNames absolute names)

/-! ## Attributes -/

/-- The value that is assigned in an attribute. -/
def attributeValue (grammar : Grammar) : Parser Code := fun cursor =>
  match literal cursor with
  | some (text, ⟨[], written⟩) => some (codeOfLiteral text, ⟨[], written⟩)
  | _ =>
      if (atMark "#").and (second (atGroup .bracket)) cursor.rest then
        none
      else
        (grammar.expr true cursor).map fun (expr, cursor) => (expr.code, cursor)

/-- At a group in any brackets. -/
def atAnyGroup : Look :=
  Look.any [atGroup .paren, atGroup .bracket, atGroup .brace]

/-- The inside of an attribute. -/
def attributeBody (grammar : Grammar) : Parser Attribute := do
  let path ←
    if ← at? (atWord "unsafe") then
      word "unsafe"
      pure (Path.ofName "unsafe")
    else
      plainPath
  if ← at? atAnyGroup then
    let (_, tokens) ← anyGroup
    pure ⟨path, .list tokens⟩
  else if ← at? (atMark "=") then
    mark "="
    pure ⟨path, .value (← attributeValue grammar)⟩
  else
    pure ⟨path, .bare⟩

/-- An attribute of what follows it. -/
def outerAttribute (grammar : Grammar) : Parser Attribute := do
  mark "#"
  inside .bracket (attributeBody grammar)

/-- The attributes in front of something. -/
def outerAttributes (grammar : Grammar) : Parser (List Attribute) :=
  whileAt (atMark "#") (outerAttribute grammar)

/-- An attribute of what surrounds it. -/
def innerAttribute (grammar : Grammar) : Parser Attribute := do
  mark "#"
  mark "!"
  inside .bracket (attributeBody grammar)

/-- The attributes at the start of something, which belong to it. -/
def innerAttributes (grammar : Grammar) : Parser (List Attribute) :=
  whileAt ((atMark "#").and (second (atMark "!"))) (innerAttribute grammar)

end Parser

end NativeScript.Source
