import NativeScript.Source.Grammar.Type

/-!
# Reading patterns

Patterns are read for the name they bind and the code inside them.
-/

namespace NativeScript.Source.Parser

open Look

/-- At a bar that separates alternatives. -/
def atAlternative : Look := fun tokens =>
  atMark "|" tokens && !atMark "||" tokens && !atMark "|=" tokens

/-- A pattern with alternatives, which may begin with a bar. -/
def alternatives (grammar : Grammar) : Parser Pattern := do
  let leading ← optionalMark "|"
  let first ← grammar.pattern
  if leading || (← at? atAlternative) then
    let more ← whileAt atAlternative do
      mark "|"
      grammar.pattern
    pure { code := (first :: more).flatMap Pattern.code }
  else
    pure first

/-! ## Ranges -/

/-- The sign of a range, and whether the range includes its end. -/
def rangeSign : Parser Bool := do
  if ← optionalMark "..=" then
    pure true
  else
    require (!(← at? (atMark "...")))
    mark ".."
    pure false

/-- The sign of a range in a pattern, where three dots are an old spelling of a
range that includes its end. -/
def patternRangeSign : Parser Bool := do
  if ← at? (atMark "...") then
    unwritten (mark "...")
    writeMark "..="
    pure true
  else
    rangeSign

/-- A constant as a block. -/
def constantBlock (grammar : Grammar) : Parser (List Code) := do
  word "const"
  grammar.block

/-- A bound of a range in a pattern, unless the pattern ends here. -/
def rangeBound (grammar : Grammar) : Parser (Option (List Code)) := do
  let stop := Look.any
    [atEnd, atMark "|", atMark "=", atColon, atMark ",", atMark ";", atWord "if"]
  if ← at? stop then
    pure none
  else if ← at? atLiteral then
    pure (some [codeOfLiteral (← literal)])
  else if ← at? (atWord "const") then
    pure (some (← constantBlock grammar))
  else
    require (← at? atPath)
    pure (some (← qualifiedPath grammar true).code)

/-- The rest of a range pattern after its start. -/
def rangeFrom (grammar : Grammar) (start : List Code) : Parser Pattern := do
  let closed ← patternRangeSign
  let stop ← rangeBound grammar
  require (!closed || stop.isSome)
  pure { code := start ++ stop.getD [], isOpenRange := stop.isNone }

/-- A range pattern without a start, or the two dots that stand for the rest. -/
def rangeUpTo (grammar : Grammar) : Parser Pattern := do
  let closed ← rangeSign
  let stop ← rangeBound grammar
  require (!closed || stop.isSome)
  pure { code := stop.getD [], isOpenRange := stop.isSome }

/-- A literal, or a range that starts with one. -/
def literalPattern (grammar : Grammar) : Parser Pattern := do
  match ← rangeBound grammar with
  | none => reject
  | some start => if ← at? (atMark "..") then rangeFrom grammar start else pure { code := start }

/-! ## Records and lists -/

/-- A field of a record pattern. -/
def fieldPattern (grammar : Grammar) : Parser (List Code) := do
  let boxed ← optionalWord "box"
  let byReference ← optionalWord "ref"
  let changeable ← optionalWord "mut"
  let isPlain := !boxed && !byReference && !changeable
  if isPlain && !(← at? atName) then
    fieldIndex
    mark ":"
    pure (← alternatives grammar).code
  else
    let _ ← identifier
    if isPlain && (← at? (atMark ":")) then
      mark ":"
      pure (← alternatives grammar).code
    else
      pure []

/-- The fields of a record pattern. -/
def fieldPatterns (grammar : Grammar) : Parser (List Code) := do
  let afterAttributes : Parser (List Code) := do
    let before := codeOfAttributes (← outerAttributes grammar)
    if ← at? (atMark "..") then
      mark ".."
      require (← at? atEnd)
      pure before
    else
      pure (before ++ (← fieldPattern grammar))
  pure (← commaList afterAttributes).flatten

/-- Patterns with commas between them. -/
def patternList (grammar : Grammar) : Parser (List Pattern) :=
  commaList (alternatives grammar)

/-- A pattern that begins with a path. -/
def pathPattern (grammar : Grammar) : Parser Pattern := do
  let found ← qualifiedPath grammar true
  let isMacro := found.self.isNone && found.path.isPlain
  if isMacro && (← at? ((atMark "!").and (atMark "!=").not)) then
    mark "!"
    let _ ← anyGroup
    pure {}
  else if ← at? (atGroup .brace) then
    pure { code := found.code ++ (← inside .brace (fieldPatterns grammar)) }
  else if ← at? (atGroup .paren) then
    let inner ← inside .paren (patternList grammar)
    pure { code := found.code ++ inner.flatMap Pattern.code }
  else if ← at? (atMark "..") then
    rangeFrom grammar found.code
  else
    pure { code := found.code }

/-- A pattern that binds a name. -/
def bindingPattern (grammar : Grammar) : Parser Pattern := do
  let _ ← optionalWord "ref"
  let _ ← optionalWord "mut"
  let name ← if ← at? (atWord "self") then anyWord else identifier
  let inner ← optionalList (atMark "@") do
    mark "@"
    pure (← grammar.pattern).code
  pure { binding := some name, code := inner }

/-- Whether a pattern begins with a path that is more than a name. -/
def atPathPattern : Look :=
  let opens := Look.any [atMark "::", atMark "!", atGroup .brace, atGroup .paren, atMark ".."]
  Look.any [
    atName.and (second opens), (atWord "self").and (second (atMark "::")), atMark "::",
    atMark "<", atWords ["Self", "super", "crate"]
  ]

/-- A pattern without alternatives, on one level of nesting. -/
def singlePattern (grammar : Grammar) : Parser Pattern := do
  let start ← tokens
  if atPathPattern start then
    pathPattern grammar
  else if atWord "_" start then
    word "_"
    pure {}
  else if atWord "box" start then
    word "box"
    let _ ← grammar.pattern
    pure {}
  else if atMark "-" start || atLiteral start || atWord "const" start then
    literalPattern grammar
  else if atWords ["ref", "mut", "self"] start || atName start then
    bindingPattern grammar
  else if atMark "&" start then
    mark "&"
    let _ ← optionalWord "mut"
    pure { code := (← grammar.pattern).code }
  else if atGroup .paren start then
    pure { code := (← inside .paren (patternList grammar)).flatMap Pattern.code }
  else if atGroup .bracket start then
    let inner ← inside .bracket (patternList grammar)
    require (!inner.any Pattern.isOpenRange)
    pure { code := inner.flatMap Pattern.code }
  else if atMark ".." start && !atMark "..." start then
    rangeUpTo grammar
  else
    reject

end NativeScript.Source.Parser
