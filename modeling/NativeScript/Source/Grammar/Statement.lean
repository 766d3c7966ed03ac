import NativeScript.Source.Grammar.Expr

/-!
# Reading statements

The inside of a block: declarations, bindings, macro calls and expressions.  An
expression that does not end in a block needs a semicolon when something follows
it.
-/

namespace NativeScript.Source.Parser

open Look

/-- A statement that has been read. -/
structure Statement where
  code : List Code
  /-- Whether something may follow only after a semicolon. -/
  isOpen : Bool := false

/-- At an item rather than an expression. -/
def atItem : Look := fun tokens =>
  let one := fun (word : String) => atWord word tokens
  let two := fun (look : Look) => second look tokens
  let three := fun (look : Look) => third look tokens
  let functionWords := atWords ["unsafe", "extern", "fn"]
  atWords ["pub", "extern", "use", "fn", "mod", "type", "struct", "enum", "trait", "impl",
      "macro"] tokens ||
    (one "crate" && !two (atMark "::")) ||
    (one "static" && (two (atWord "mut") || (two atName &&
      !(two (atWord "async") && (three (atWord "move") || three (atMark "|")))))) ||
    (one "const" && !(two (atGroup .brace) || two (atWord "static") ||
      (two (atWord "async") && !three functionWords) || two (atWord "move") ||
      two (atMark "|"))) ||
    (one "unsafe" && !two (atGroup .brace)) ||
    (one "async" && two functionWords) ||
    (one "union" && two atName) ||
    (one "auto" && two (atWord "trait")) ||
    (one "default" && (two (atWord "unsafe") || two (atWord "impl")))

/-- What a macro call at the start of a statement is. -/
inductive MacroStatement where
  /-- An item that a macro defines. -/
  | item
  /-- A call in braces, which is a statement of its own. -/
  | call
  /-- Part of an expression, or no macro call. -/
  | expression

/-- What kind of macro call comes next. -/
def macroStatement : Parser MacroStatement := fun cursor =>
  let kind :=
    match plainPath cursor with
    | none => .expression
    | some (_, ahead) =>
        if !atMark "!" ahead.rest then
          .expression
        else if second (atName.or (atWord "try")) ahead.rest then
          .item
        else
          let goesOn := ((atMark ".").and (atMark "..").not).or (atMark "?")
          if second (atGroup .brace) ahead.rest && !third goesOn ahead.rest then
            .call
          else
            .expression
  some (kind, cursor)

/-- A binding, after its attributes. -/
def bindingStatement (grammar : Grammar) : Parser (List Code) := do
  word "let"
  let pattern ← grammar.pattern
  let type ← optionalList (atMark ":") do
    mark ":"
    pure (← grammar.type true).code
  let value ← optionalList (atMark "=") do
    mark "="
    let value ← grammar.expr true
    let otherwise ← optionalList (fun tokens => !value.endsInBrace && atWord "else" tokens) do
      word "else"
      grammar.block
    pure (value.code :: otherwise)
  mark ";"
  pure (pattern.code ++ type ++ value)

/-- An expression as a statement, after its attributes. -/
def expressionStatement (grammar : Grammar) (before : List Code) : Parser Statement := do
  let value ← grammar.statementExpr
  let closed ← optionalMark ";"
  pure {
    code := [value.code.withAttributes before]
    isOpen := !closed && value.form != .block && value.form != .bracedMacro }

/-- A statement. -/
def statement (grammar : Grammar) : Parser Statement := do
  let attributes ← outerAttributes grammar
  let before := codeOfAttributes attributes
  let next ← tokens
  match ← macroStatement with
  | .call =>
      let _ ← plainPath
      mark "!"
      let _ ← anyGroup
      let _ ← optionalMark ";"
      pure { code := before }
  | .item => pure { code := (← grammar.item attributes).code }
  | .expression =>
      if atWord "let" next then
        pure { code := before ++ (← bindingStatement grammar) }
      else if atItem next then
        pure { code := (← grammar.item attributes).code }
      else
        expressionStatement grammar before

/-- The inside of a block, by the code in it. -/
def statements (grammar : Grammar) : Parser (List Code) := do
  let skip := whileAt (atMark ";") (mark ";")
  let _ ← skip
  let parts ← whileAt atEnd.not do
    let found ← statement grammar
    require (!found.isOpen || (← at? atEnd))
    let _ ← skip
    pure found.code
  pure parts.flatten

/-- A block in braces. -/
def block (grammar : Grammar) : Parser (List Code) :=
  inside .brace (statements grammar)

end NativeScript.Source.Parser
