import NativeScript.Source.Grammar.Pattern

/-!
# Reading expressions

Expressions are read with the precedence of their operators, and with the rule
that a block or a control structure at the start of a statement is the whole
statement.  The code kept of an expression is the code that a scan can tell
apart.
-/

namespace NativeScript.Source.Parser

open Look

/-! ## Operators -/

/-- The operators between two operands, each before those it begins with. -/
def binaryOperators : List (String × Precedence) := [
    ("+=", .assignment), ("-=", .assignment), ("*=", .assignment), ("/=", .assignment),
    ("%=", .assignment), ("^=", .assignment), ("&=", .assignment), ("|=", .assignment),
    ("<<=", .assignment), (">>=", .assignment), ("&&", .conjunction), ("||", .disjunction),
    ("<<", .shift), (">>", .shift), ("==", .comparison), ("<=", .comparison),
    ("!=", .comparison), (">=", .comparison), ("+", .sum), ("-", .sum), ("*", .product),
    ("/", .product), ("%", .product), ("^", .bitXor), ("&", .bitAnd), ("|", .bitOr),
    ("<", .comparison), (">", .comparison)
  ]

/-- The operator that comes next. -/
def nextOperator? (tokens : List Token) : Option (String × Precedence) :=
  binaryOperators.find? fun entry => atMark entry.1 tokens

/-- At the sign of an assignment. -/
def atAssignment : Look :=
  (atMark "=").and (atMark "=>").not

/-- The precedence of what comes next. -/
def nextPrecedence (tokens : List Token) : Precedence :=
  match nextOperator? tokens with
  | some (_, precedence) => precedence
  | none =>
      if atAssignment tokens then .assignment
      else if atMark ".." tokens then .range
      else if atWord "as" tokens then .cast
      else .lowest

/-- Extend a right operand by operators that bind tighter than the one before
it.  Each round has to move the cursor. -/
def tighterFrom (grammar : Grammar) (records : Bool) (precedence : Precedence) (right : Expr) :
    Nat → Parser Expr
  | 0 => pure right
  | rounds + 1 => do
      let before ← tokens
      let next := nextPrecedence before
      let grows :=
        decide (precedence.rank < next.rank) ||
          (next == precedence && precedence == .assignment)
      if grows then
        let longer ← grammar.operators records right next
        if (← tokens).length = before.length then
          pure longer
        else
          tighterFrom grammar records precedence longer rounds
      else
        pure right

/-- The right operand of an operator. -/
def rightOperand (grammar : Grammar) (records : Bool) (precedence : Precedence) :
    Parser Expr := do
  let right ← grammar.unary records
  tighterFrom grammar records precedence right ((← tokens).length + 1)

/-- Where a range without an end stops. -/
def atRangeStop (records : Bool) : Look :=
  Look.any [
    atEnd, atMark ",", atMark ";", (atMark ".").and (atMark "..").not, atMark "?", atMark "=>",
    fun tokens => !records && atGroup .brace tokens,
    atMarks ["=", "+", "/", "%", "^", ">", "<=", "!=", "-=", "*=", "&=", "|=", "<<="],
    atWord "as"
  ]

/-- A range after its start. -/
def rangeAfter (grammar : Grammar) (records : Bool) (start : List Code) : Parser Expr := do
  let closed ← rangeSign
  if !closed && (← at? (atRangeStop records)) then
    pure { code := .other start, form := .range }
  else
    let stop ← rightOperand grammar records .range
    pure {
      code := .other (start ++ [stop.code]), form := .range, endsInBrace := stop.endsInBrace }

/-- What may not follow a conversion without parentheses. -/
def atPostfixOperator : Look :=
  Look.any [(atMark ".").and (atMark "..").not, atMark "?", atGroup .bracket, atGroup .paren]

/-- The operators that follow an operand, down to a precedence. -/
def operatorsFrom (grammar : Grammar) (records : Bool) (base : Precedence) (left : Expr) :
    Nat → Parser Expr
  | 0 => reject
  | rounds + 1 => do
      if left.form = .range then
        pure left
      else
        let next ← tokens
        match nextOperator? next with
        | some (operator, precedence) =>
            if precedence.rank < base.rank then
              pure left
            else
              require (!(precedence == .comparison && left.form == .comparison))
              mark operator
              let right ← rightOperand grammar records precedence
              let joined : Expr := {
                code := .other [left.code, right.code]
                form := if precedence = .comparison then .comparison else .other
                endsInBrace := right.endsInBrace }
              operatorsFrom grammar records base joined rounds
        | none =>
            if base.rank ≤ Precedence.assignment.rank ∧ atAssignment next then
              mark "="
              let right ← rightOperand grammar records .assignment
              let joined : Expr :=
                { code := .other [left.code, right.code], endsInBrace := right.endsInBrace }
              operatorsFrom grammar records base joined rounds
            else if base.rank ≤ Precedence.range.rank ∧ atMark ".." next then
              let range ← rangeAfter grammar records [left.code]
              operatorsFrom grammar records base range rounds
            else if base.rank ≤ Precedence.cast.rank ∧ atWord "as" next then
              word "as"
              let type ← grammar.type false
              require (!(← at? atPostfixOperator))
              operatorsFrom grammar records base { code := .other (left.code :: type.code) } rounds
            else
              pure left

/-- The operators that follow an operand, down to a precedence. -/
def operators (grammar : Grammar) (records : Bool) (left : Expr) (base : Precedence) :
    Parser Expr := do
  operatorsFrom grammar records base left ((← tokens).length + 1)

/-! ## Calls, fields and indices -/

/-- The numbers between the points of a literal. -/
def fieldNumbers (literal : String) : List String :=
  (literal.splitOn ".").filter (!·.isEmpty)

/-- Fields by number, where the lexer saw a number with points: the tuple index
`x.0.1` holds one such literal.  Returns whether a field name still has to
follow. -/
def fieldChain : Parser Bool
  | ⟨.literal text :: rest, written⟩ =>
      ((fieldNumbers text).mapM Literal.fieldIndex?).map fun indices =>
        let numbers := indices.map fun index => Token.literal index.repr
        let tokens := numbers.intersperse (.mark '.' false)
        let unfinished := text.endsWith "."
        let tokens := if unfinished then tokens ++ [.mark '.' false] else tokens
        (unfinished, ⟨rest, tokens.reverse ++ written⟩)
  | _ => none

/-- At a number with a point. -/
def atFloat : Look
  | .literal text :: _ => Literal.isFloat text
  | _ => false

/-- What stands behind a point: a field or a call of a method. -/
def member (grammar : Grammar) (receiver : Code) : Parser Code := do
  if ← at? (atWord "await") then
    word "await"
    pure (.other [receiver])
  else if ← at? atName then
    let name ← identifier
    let inner ← optional (atMark "::") (turbofish grammar)
    if inner.isSome || (← at? (atGroup .paren)) then
      let arguments ← inside .paren (commaList (grammar.expr true))
      pure (.methodCall receiver name (inner.getD []) (arguments.map Expr.code))
    else
      pure (.other [receiver])
  else
    fieldIndex
    pure (.other [receiver])

/-- The calls, fields and indices behind an operand. -/
def trailersFrom (grammar : Grammar) (operand : Expr) : Nat → Parser Expr
  | 0 => reject
  | rounds + 1 => do
      let next ← tokens
      let isRange := operand.form == .range
      if atGroup .paren next then
        let arguments ← inside .paren (commaList (grammar.expr true))
        trailersFrom grammar { code := .call operand.code (arguments.map Expr.code) } rounds
      else if atMark "." next && !atMark ".." next && !isRange then
        mark "."
        if ← at? atFloat then
          let unfinished ← fieldChain
          let code ←
            if unfinished then member grammar operand.code else pure (.other [operand.code])
          trailersFrom grammar { code } rounds
        else
          let code ← member grammar operand.code
          trailersFrom grammar { code } rounds
      else if atGroup .bracket next then
        let index ← inside .bracket (grammar.expr true)
        trailersFrom grammar { code := .other [operand.code, index.code] } rounds
      else if atMark "?" next && !isRange then
        mark "?"
        trailersFrom grammar { code := .other [operand.code] } rounds
      else
        pure operand

/-- The calls, fields and indices behind an operand. -/
def trailers (grammar : Grammar) (operand : Expr) : Parser Expr := do
  trailersFrom grammar operand ((← tokens).length + 1)

/-! ## Lists, records and macros -/

/-- An element of a list, with its text. -/
def element (grammar : Grammar) : Parser (String × Code) := do
  let (value, tokens) ← captured (grammar.expr true)
  pure (Token.renderAll tokens, value.code)

/-- The inside of a list in brackets: elements, or one element and how often it
is repeated. -/
def listInside (grammar : Grammar) : Parser Code := do
  if ← at? atEnd then
    pure (.list [])
  else
    let first ← element grammar
    if ← at? atEnd then
      pure (.list [first])
    else if ← optionalMark ";" then
      let times ← grammar.expr true
      pure (.other [first.2, times.code])
    else
      mark ","
      pure (.list (first :: (← commaList (element grammar))))

/-- The inside of parentheses: one expression, or the elements of a tuple. -/
def parenInside (grammar : Grammar) : Parser Code := do
  if ← at? atEnd then
    pure (.other [])
  else
    let first ← grammar.expr true
    if ← at? atEnd then
      pure (.enclosed [] first.code)
    else
      mark ","
      let rest ← commaList (grammar.expr true)
      pure (.other ((first :: rest).map Expr.code))

/-- The code of a macro call.  The arguments of `vec` are read as a list; those
of any other macro have no meaning here. -/
def codeOfMacro (grammar : Grammar) (path : Path) (arguments : List Token) : Code :=
  if path.isName "vec" then
    .macroList ((all? (commaList (element grammar)) arguments).map fun (elements, _) =>
      elements.map Prod.fst)
  else
    .other []

/-- A field of a record literal: its name, unless it is numbered, and its value. -/
def fieldValue (grammar : Grammar) : Parser (Option String × Code) := do
  if ← at? atName then
    let name ← identifier
    if ← at? (atMark ":") then
      mark ":"
      pure (some name, (← grammar.expr true).code)
    else
      pure (some name, .name (.ofName name) [])
  else
    fieldIndex
    mark ":"
    pure (none, (← grammar.expr true).code)

/-- A field of a record literal behind the code of its attributes, which has no
name. -/
def fieldEntries (grammar : Grammar) : Parser (List (Option String × Code)) := do
  let before := codeOfAttributes (← outerAttributes grammar)
  pure (before.map (Prod.mk none) ++ [← fieldValue grammar])

/-- The fields of a record literal, and the record the other fields come from. -/
def recordInside (grammar : Grammar) : Parser (List (Option String × Code) × List Code) := do
  let fields ← whileAt (fun tokens => !atEnd tokens && !atMark ".." tokens) do
    let entries ← fieldEntries grammar
    if ← at? atEnd then pure () else mark ","
    pure entries
  let rest ← optionalList (atMark "..") do
    mark ".."
    optionalList atEnd.not do
      pure [(← grammar.expr true).code]
  pure (fields.flatten, rest)

/-- An expression that begins with a path. -/
def pathOperand (grammar : Grammar) (records : Bool) : Parser Expr := do
  let found ← qualifiedPath grammar true
  let isMacro := found.self.isNone && found.path.isPlain
  if isMacro && (← at? ((atMark "!").and (atMark "!=").not)) then
    mark "!"
    let (delimiter, arguments) ← anyGroup
    let braced := delimiter == .brace
    pure {
      code := codeOfMacro grammar found.path.path arguments
      form := if braced then .bracedMacro else .other
      endsInBrace := braced }
  else if records && (← at? (atGroup .brace)) then
    let (fields, rest) ← inside .brace (recordInside grammar)
    pure { code := .record found.path.path found.code fields rest, endsInBrace := true }
  else
    pure { code := .name found.path.path found.code }

/-! ## Blocks and control structures -/

/-- An expression that is a block or a control structure. -/
def blockExpr (inner : List Code) : Expr :=
  { code := .other inner, form := .block, endsInBrace := true }

/-- The body that ends a control structure, behind the code of its head.  The
attributes at the start of the body belong to the whole, so their code comes
before that of the head. -/
def bodyBehind (grammar : Grammar) (head : List Code) (inner : Parser (List Code)) :
    Parser Expr :=
  inside .brace do
    let before := codeOfAttributes (← innerAttributes grammar)
    pure (blockExpr (before ++ head ++ (← inner)))

/-- A conditional, with all its alternatives. -/
def conditionalFrom (grammar : Grammar) : Nat → Parser (List Code)
  | 0 => reject
  | rounds + 1 => do
      word "if"
      let test ← grammar.expr false
      let body ← grammar.block
      if ← optionalWord "else" then
        if ← at? (atWord "if") then
          pure (test.code :: body ++ (← conditionalFrom grammar rounds))
        else
          pure (test.code :: body ++ (← grammar.block))
      else
        pure (test.code :: body)

/-- An arm of a match.  The comma behind it may be missing after a block and at
the end. -/
def matchArm (grammar : Grammar) : Parser (List Code) := do
  let before := codeOfAttributes (← outerAttributes grammar)
  let pattern ← alternatives grammar
  let guard ← optionalList (atWord "if") do
    word "if"
    pure [(← grammar.expr true).code]
  mark "=>"
  let body ← grammar.statementExpr
  if body.form != .block && !(← at? atEnd) then
    mark ","
  else
    let _ ← optionalMark ","
  pure (before ++ pattern.code ++ guard ++ [body.code])

/-- A match. -/
def matchExpr (grammar : Grammar) : Parser Expr := do
  word "match"
  let subject ← grammar.expr false
  bodyBehind grammar [subject.code] do
    pure (← whileAt atEnd.not (matchArm grammar)).flatten

/-- A block, a conditional, a match or a loop, where `statements` reads the
inside of a block. -/
def blockOperand (grammar : Grammar) (statements : Parser (List Code)) : Parser Expr := do
  let next ← tokens
  if atWord "if" next then
    pure (blockExpr (← conditionalFrom grammar (next.length + 1)))
  else if atWord "match" next then
    matchExpr grammar
  else if atWord "while" next then
    word "while"
    let test ← grammar.expr false
    bodyBehind grammar [test.code] statements
  else if atWord "for" next then
    word "for"
    let pattern ← alternatives grammar
    word "in"
    let source ← grammar.expr false
    bodyBehind grammar (pattern.code ++ [source.code]) statements
  else if atWord "try" next then
    word "try"
    pure (blockExpr (← grammar.block))
  else
    if atWords ["loop", "unsafe", "const"] next then
      let _ ← anyWord
    bodyBehind grammar [] statements

/-- A loop or a block behind a label. -/
def labelledOperand (grammar : Grammar) (statements : Parser (List Code)) : Parser Expr := do
  lifetime
  mark ":"
  require (← at? ((atWords ["while", "for", "loop"]).or (atGroup .brace)))
  blockOperand grammar statements

/-! ## Closures and jumps -/

/-- At generic parameters rather than a type in angle brackets. -/
def atParameters : Look := fun tokens =>
  atMark "<" tokens &&
    (second (atMark ">") tokens || second (atMark "#") tokens ||
      (second (atLifetime.or atName) tokens && third (atMarks [":", ",", ">", "="]) tokens) ||
      second (atWord "const") tokens)

/-- At the parameters of a general closure. -/
def atBinder : Look :=
  (atWord "for").and (second atParameters)

/-- An input of a closure. -/
def closureInput (grammar : Grammar) : Parser (List Code) := do
  let before := codeOfAttributes (← outerAttributes grammar)
  let pattern ← grammar.pattern
  let type ← optionalList (atMark ":") do
    mark ":"
    pure (← grammar.type true).code
  pure (before ++ pattern.code ++ type)

/-- A closure. -/
def closure (grammar : Grammar) (records : Bool) : Parser Expr := do
  let before ← optionalList (atWord "for") (binder grammar)
  let _ ← optionalWord "const"
  let _ ← optionalWord "static"
  let _ ← optionalWord "async"
  let _ ← optionalWord "move"
  mark "|"
  let inputs ← separated (atMark "|") "," (closureInput grammar)
  mark "|"
  let before := before ++ inputs.flatten
  if ← at? (atMark "->") then
    mark "->"
    let type ← grammar.type true
    let body ← grammar.block
    pure { code := .other (before ++ type.code ++ body), endsInBrace := true }
  else
    let body ← grammar.expr records
    pure { code := .other (before ++ [body.code]), endsInBrace := body.endsInBrace }

/-- The tokens with which an expression can begin. -/
def atExprStart : Look :=
  Look.any [
    atAnyWord, atGroup .paren, atGroup .bracket, atGroup .brace, atLiteral,
    (atMark "!").and (atMark "!=").not,
    fun tokens => atMark "-" tokens && !atMark "-=" tokens && !atMark "->" tokens,
    (atMark "*").and (atMark "*=").not, (atMark "|").and (atMark "|=").not,
    (atMark "&").and (atMark "&=").not, atMark "..",
    fun tokens => atMark "<" tokens && !atMark "<=" tokens && !atMark "<<=" tokens,
    atMark "::", atLifetime, atMark "#"
  ]

/-- The value that a jump takes along, if it takes one. -/
def jumpValue (grammar : Grammar) (records : Bool) (goesOn : Look) : Parser Expr := do
  if ← at? goesOn then
    let value ← grammar.expr records
    pure { code := .other [value.code], endsInBrace := value.endsInBrace }
  else
    pure { code := .other [] }

/-- A jump out of a loop. -/
def breakExpr (grammar : Grammar) (records : Bool) : Parser Expr := do
  word "break"
  if ← at? atLifetime then
    require (!(← at? (second (atMark ":"))))
    lifetime
  jumpValue grammar records fun tokens =>
    atExprStart tokens && (records || !atGroup .brace tokens)

/-- The binding of a pattern as a condition. -/
def bindingExpr (grammar : Grammar) (records : Bool) : Parser Expr := do
  word "let"
  let pattern ← alternatives grammar
  mark "="
  let left ← grammar.unary records
  let value ← grammar.operators records left .comparison
  pure { code := .other (pattern.code ++ [value.code]), endsInBrace := value.endsInBrace }

/-! ## Operands -/

/-- At a block that runs later. -/
def atAsyncBlock : Look :=
  (atWord "async").and <|
    (second (atGroup .brace)).or ((second (atWord "move")).and (third (atGroup .brace)))

/-- At a closure. -/
def atClosure : Look :=
  Look.any [
    atMark "|", atWord "move", atBinder, (atWord "const").and (second (atGroup .brace)).not,
    atWord "static", (atWord "async").and (second ((atMark "|").or (atWord "move")))
  ]

/-- At an expression that begins with a path. -/
def atPathOperand : Look :=
  Look.any [
    atPathName, atMark "::", atMark "<",
    (atWord "try").and (second ((atMark "!").or (atMark "::")))
  ]

/-- At a block, a conditional, a match or a loop. -/
def atBlockOperand : Look :=
  Look.any [
    atWords ["if", "while", "for", "loop", "match", "unsafe", "const"], atGroup .brace,
    (atWord "try").and (second (atGroup .brace))
  ]

/-- An operand without what stands in front of it and behind it. -/
def operand (grammar : Grammar) (statements : Parser (List Code)) (records : Bool) :
    Parser Expr := do
  let next ← tokens
  if atLiteral next then
    pure { code := codeOfLiteral (← literal) }
  else if atAsyncBlock next then
    word "async"
    let _ ← optionalWord "move"
    pure { code := .other (← grammar.block), endsInBrace := true }
  else if (atWord "try").and (second (atGroup .brace)) next then
    blockOperand grammar statements
  else if atClosure next then
    closure grammar records
  else if (atWord "builtin").and (second (atMark "#")) next then
    verbatim do
      word "builtin"
      mark "#"
      let _ ← identifier
      let _ ← inside .paren (whileAt atEnd.not token)
      pure { code := .other [] }
  else if atPathOperand next then
    pathOperand grammar records
  else if atGroup .paren next then
    pure { code := ← inside .paren (parenInside grammar) }
  else if atWord "break" next then
    breakExpr grammar records
  else if atWord "continue" next then
    word "continue"
    if ← at? atLifetime then lifetime
    pure { code := .other [] }
  else if atWord "return" next then
    word "return"
    jumpValue grammar records atExprStart
  else if atWord "become" next then
    verbatim do
      word "become"
      let value ← grammar.expr true
      pure { code := .other [], endsInBrace := value.endsInBrace }
  else if atGroup .bracket next then
    pure { code := ← inside .bracket (listInside grammar) }
  else if atWord "let" next then
    bindingExpr grammar records
  else if atWord "yield" next then
    word "yield"
    jumpValue grammar true atExprStart
  else if atBlockOperand next then
    blockOperand grammar statements
  else if atMark ".." next then
    rangeAfter grammar records []
  else if atWord "_" next then
    word "_"
    pure { code := .other [] }
  else if atLifetime next then
    labelledOperand grammar statements
  else
    reject
where
  /-- Read any token. -/
  token : Parser Unit
    | ⟨next :: rest, written⟩ => some ((), ⟨rest, next :: written⟩)
    | _ => none

/-- An operand with the operators in front of it and behind it, on one level of
nesting. -/
def unaryExpr (grammar : Grammar) (statements : Parser (List Code)) (records : Bool) :
    Parser Expr := do
  let before := codeOfAttributes (← outerAttributes grammar)
  let next ← tokens
  if atMark "&" next then
    mark "&"
    let atRaw := (atWord "raw").and (second ((atWord "mut").or (atWord "const")))
    if ← at? atRaw then
      word "raw"
      if ← at? (atWord "mut") then word "mut" else word "const"
      let value ← grammar.unary records
      pure { code := .other (before ++ [value.code]), endsInBrace := value.endsInBrace }
    else
      let _ ← optionalWord "mut"
      let value ← grammar.unary records
      pure { code := .enclosed before value.code, endsInBrace := value.endsInBrace }
  else if atMarks ["*", "!", "-"] next then
    if atMark "*" next then mark "*"
    else if atMark "!" next then mark "!"
    else mark "-"
    let value ← grammar.unary records
    pure { code := .other (before ++ [value.code]), endsInBrace := value.endsInBrace }
  else
    let value ← trailers grammar (← operand grammar statements records)
    pure { value with code := value.code.withAttributes before }

/-- An expression, on one level of nesting. -/
def anyExpr (grammar : Grammar) (statements : Parser (List Code)) (records : Bool) :
    Parser Expr := do
  let left ← unaryExpr grammar statements records
  operators grammar records left .lowest

/-- An expression at the start of a statement or behind the arrow of a match: a
block or a control structure ends it, unless a point or a question mark
follows. -/
def statementExpr (grammar : Grammar) (statements : Parser (List Code)) : Parser Expr := do
  let before := codeOfAttributes (← outerAttributes grammar)
  let next ← tokens
  let isBlock := Look.any [
    atWords ["if", "while", "loop", "match", "unsafe"], (atWord "for").and atBinder.not,
    (atWords ["try", "const"]).and (second (atGroup .brace)), atGroup .brace, atLifetime]
  if isBlock next then
    let block ←
      if atLifetime next then
        labelledOperand grammar statements
      else
        blockOperand grammar statements
    let goesOn := ((atMark ".").and (atMark "..").not).or (atMark "?")
    if ← at? goesOn then
      let left ← trailers grammar block
      operators grammar true { left with code := left.code.withAttributes before } .lowest
    else
      pure { block with code := block.code.withAttributes before }
  else
    let left ← unaryExpr grammar statements true
    operators grammar true { left with code := left.code.withAttributes before } .lowest

end NativeScript.Source.Parser
