import NativeScript.Source.Grammar.Item
import NativeScript.Source.Lexer

/-!
# Reading units

The levels of the grammar are tied together here.  Every level of nesting uses
up at least one token, so the number of tokens bounds the number of levels.

`SourceUnit.ofText?` is the parser that texts and directories are read with.
Reading itself takes any parser, and what is proved of it holds with each one.
-/

namespace NativeScript.Source

/-- The grammar down to `depth` levels of nesting. -/
def Grammar.ofDepth : Nat → Grammar
  | 0 => Grammar.empty
  | depth + 1 => {
      type := fun sums cursor => Parser.typeExpr (ofDepth depth) sums cursor
      bound := fun cursor => Parser.typeBound (ofDepth depth) cursor
      expr := fun records cursor =>
        let grammar := ofDepth depth
        Parser.anyExpr grammar (Parser.statements grammar) records cursor
      unary := fun records cursor =>
        let grammar := ofDepth depth
        Parser.unaryExpr grammar (Parser.statements grammar) records cursor
      operators := fun records left base cursor =>
        Parser.operators (ofDepth depth) records left base cursor
      statementExpr := fun cursor =>
        let grammar := ofDepth depth
        Parser.statementExpr grammar (Parser.statements grammar) cursor
      pattern := fun cursor => Parser.singlePattern (ofDepth depth) cursor
      block := fun cursor => Parser.block (ofDepth depth) cursor
      item := fun attributes cursor => Parser.itemDecl (ofDepth depth) attributes cursor }

/-- A grammar deep enough for a sequence of tokens. -/
def Grammar.forTokens (tokens : List Token) : Grammar :=
  ofDepth (2 * Token.countAll tokens + 16)

/-- Read all of a sequence of tokens with a reader of the grammar. -/
def readTokens? {α : Type} (parser : Grammar → Parser α) (tokens : List Token) : Option α :=
  (Parser.all? (parser (Grammar.forTokens tokens)) tokens).map Prod.fst

/-- The items and attributes of a unit. -/
def Parser.unit (grammar : Grammar) : Parser SourceUnit := do
  let attributes ← innerAttributes grammar
  let items ← whileAt Look.atEnd.not do
    let attributes ← outerAttributes grammar
    grammar.item attributes
  pure ⟨attributes, items⟩

/-- Read a unit of source text. -/
def SourceUnit.ofText? (text : String) : Option SourceUnit :=
  (Lexer.unitTokens? text.toList).bind (readTokens? Parser.unit)

/-- Read a type. -/
def TypeExpr.ofText? (text : String) : Option TypeExpr :=
  (Lexer.tokens? text.toList).bind (readTokens? fun grammar => grammar.type true)

end NativeScript.Source
