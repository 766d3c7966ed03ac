import NativeScript.Source.Grammar.Basic

/-!
# Reading types

Types, paths with generic arguments, bounds, and the generic parameters and
`where` clauses of declarations.  Everything but a type that a scan can tell
apart is read for the code inside it.
-/

namespace NativeScript.Source

/-- A path with its generic arguments. -/
structure PathExpr where
  absolute : Bool
  outer : List Segment
  last : Segment

namespace PathExpr

/-- The segments of a path. -/
def segments (path : PathExpr) : List Segment :=
  path.outer ++ [path.last]

/-- Whether no segment has arguments. -/
def isPlain (path : PathExpr) : Bool :=
  path.segments.all Segment.isPlain

/-- A path without its arguments. -/
def path (path : PathExpr) : Path :=
  ⟨path.absolute, path.outer.map Segment.name, path.last.name, path.isPlain⟩

/-- The code inside the arguments of a path. -/
def code (path : PathExpr) : List Code :=
  codeOfSegments path.outer ++ path.last.code

/-- The path that goes on with further segments. -/
def extend (path : PathExpr) (first : Segment) (rest : List Segment) : PathExpr :=
  let segments := path.segments ++ first :: rest
  { path with outer := segments.dropLast, last := segments.getLastD first }

end PathExpr

/-- A path that may start from a type in angle brackets. -/
structure QualifiedPath where
  /-- The code inside the type it starts from, if it does. -/
  self : Option (List Code)
  path : PathExpr

/-- The code inside a path and the type it starts from. -/
def QualifiedPath.code (path : QualifiedPath) : List Code :=
  path.self.getD [] ++ path.path.code

namespace Parser

open Look

/-! ## Generic arguments -/

/-- A constant among generic arguments. -/
def constantArgument (grammar : Grammar) : Parser (List Code) := do
  if ← at? atLiteral then
    pure [codeOfLiteral (← literal)]
  else if ← at? atName then
    let _ ← identifier
    pure []
  else
    grammar.block

/-- A lifetime and the lifetimes it outlives, after its attributes. -/
def lifetimeBounds (stop : Look) : Parser Unit := do
  lifetime
  if ← optionalMark ":" then
    if ← at? stop then
      pure ()
    else
      let _ ← chain "+" stop.not lifetime

/-! ## Paths -/

/-- The tokens with which another bound begins. -/
def atBound : Look :=
  Look.any [atAnyWord, atMark "::", atMark "?", atLifetime, atGroup .paren, atMark "~"]

/-- Bounds up to where a test holds, by the code inside them. -/
def boundsUpTo (grammar : Grammar) (stop : Look) : Parser (List Code) :=
  optionalList stop.not do
    pure ((← chain "+" stop.not grammar.bound).flatMap Prod.fst)

/-- One generic argument.  After a single name it may be an assignment to an
associated type or constant, or bounds of an associated type. -/
def genericArgument (grammar : Grammar) : Parser Argument := do
  if ← at? (atLifetime.and (second (atMark "+")).not) then
    lifetime
    pure (.other [])
  else if ← at? (atLiteral.or (atGroup .brace)) then
    pure (.other (← constantArgument grammar))
  else
    let type ← grammar.type true
    let isName := match type with
      | .path false [] (.plain _) => true
      | .path false [] (.generic _ _) => true
      | _ => false
    if isName && (← at? (atMark "=")) then
      mark "="
      if ← at? (atLiteral.or (atGroup .brace)) then
        pure (.other (type.code ++ (← constantArgument grammar)))
      else
        pure (.other (type.code ++ (← grammar.type true).code))
    else if isName && (← at? (atMark ":")) then
      mark ":"
      pure (.other (type.code ++ (← boundsUpTo grammar ((atMark ",").or (atMark ">")))))
    else
      pure (.type type)

/-- The generic arguments of a segment. -/
def genericArguments (grammar : Grammar) : Parser (List Argument) := do
  let _ ← optionalMark "::"
  mark "<"
  let arguments ← separated (atMark ">") "," (genericArgument grammar)
  mark ">"
  pure arguments

/-- A segment of a path.  In an expression its arguments stand behind a `::`. -/
def segment (grammar : Grammar) (inExpr : Bool) : Parser Segment := do
  if ← at? (atWords ["super", "self", "crate", "try"]) then
    pure (.plain (← anyWord))
  else
    let name ← if ← at? (atWord "Self") then anyWord else identifier
    let opens : Look := fun tokens => !inExpr && atMark "<" tokens && !atMark "<=" tokens
    if ← at? (opens.or ((atMark "::").and (third (atMark "<")))) then
      pure (.generic name (← genericArguments grammar))
    else
      pure (.plain name)

/-- The segments that follow in a path. -/
def furtherSegments (grammar : Grammar) (inExpr : Bool) : Parser (List Segment) :=
  whileAt ((atMark "::").and (third (atGroup .paren)).not) do
    mark "::"
    segment grammar inExpr

/-- A path with its arguments in angle brackets. -/
def pathExpr (grammar : Grammar) (inExpr : Bool) : Parser PathExpr := do
  let absolute ← optionalMark "::"
  let first ← segment grammar inExpr
  let segments := first :: (← furtherSegments grammar inExpr)
  pure ⟨absolute, segments.dropLast, segments.getLastD first⟩

/-! ## Arguments in parentheses -/

/-- The result type of a function, if it has one. -/
def output (grammar : Grammar) (sums : Bool) : Parser (Option TypeExpr) :=
  optional (atMark "->") do
    mark "->"
    grammar.type sums

/-- At arguments in parentheses for a path, which may stand behind a `::`.  The
last segment of the path has no arguments yet. -/
def atCall (path : PathExpr) : Look := fun tokens =>
  let isBare := match path.last with
    | .plain _ => true
    | .generic _ [] => true
    | _ => false
  isBare && (atGroup .paren tokens || (atMark "::" tokens && third (atGroup .paren) tokens))

/-- A path with arguments in parentheses on its last segment, and whether it may
go on with further segments: no result type stands in between. -/
def called (grammar : Grammar) (path : PathExpr) : Parser (PathExpr × Bool) := do
  let _ ← optionalMark "::"
  let inputs ← inside .paren (commaList (grammar.type true))
  let result ← output grammar false
  let goesOn := match result with
    | none => true
    | some (.paren _) => true
    | some _ => false
  let inner := codeOfTypes inputs ++ (result.map TypeExpr.code).getD []
  pure ({ path with last := .callable path.last.name inner }, goesOn)

/-- A path with arguments in parentheses, if they follow. -/
def withCall (grammar : Grammar) (path : PathExpr) : Parser PathExpr := do
  if ← at? (atCall path) then
    pure (← called grammar path).1
  else
    pure path

/-- A path with arguments in parentheses on any of its segments. -/
def withCallsFrom (grammar : Grammar) (path : PathExpr) : Nat → Parser PathExpr
  | 0 => reject
  | rounds + 1 => do
      if ← at? (atCall path) then
        let (path, goesOn) ← called grammar path
        let more ← if goesOn then furtherSegments grammar false else pure []
        match more with
        | [] => pure path
        | first :: rest => withCallsFrom grammar (path.extend first rest) rounds
      else
        pure path

/-- A path with arguments in parentheses on any of its segments. -/
def withCalls (grammar : Grammar) (path : PathExpr) : Parser PathExpr := do
  withCallsFrom grammar path ((← tokens).length + 1)

/-! ## Generic parameters -/

/-- A generic parameter with its attributes, by the code inside it. -/
def genericParameter (grammar : Grammar) : Parser (List Code) := do
  let before := codeOfAttributes (← outerAttributes grammar)
  let stop := (atMark ",").or (atMark ">")
  if ← at? atLifetime then
    lifetimeBounds stop
    pure before
  else if ← at? (atWord "const") then
    word "const"
    let _ ← identifier
    mark ":"
    let type ← grammar.type true
    let value ← optionalList (atMark "=") do
      mark "="
      constantArgument grammar
    pure (before ++ type.code ++ value)
  else
    let _ ← if ← at? (atWord "_") then anyWord else identifier
    let bounds ← optionalList (atMark ":") do
      mark ":"
      boundsUpTo grammar (stop.or (atMark "="))
    let value ← optionalList (atMark "=") do
      mark "="
      pure (← grammar.type true).code
    pure (before ++ bounds ++ value)

/-- Generic parameters in angle brackets, by the code inside them. -/
def parameters (grammar : Grammar) : Parser (List Code) := do
  mark "<"
  let inner ← separated (atMark ">") "," (genericParameter grammar)
  mark ">"
  pure inner.flatten

/-- The parameters in front of a type or a bound that is general in them. -/
def binder (grammar : Grammar) : Parser (List Code) := do
  word "for"
  parameters grammar

/-- The generic parameters of a declaration.  An empty list of parameters is not
written again. -/
def generics (grammar : Grammar) : Parser (List Code) := do
  if ← at? ((atMark "<").and (second (atMark ">"))) then
    unwritten (parameters grammar)
  else
    optionalList (atMark "<") (parameters grammar)

/-! ## Bounds -/

/-- A trait as a bound, by the code inside it. -/
def traitBound (grammar : Grammar) : Parser (List Code) := do
  let before ← optionalList (atWord "for") (binder grammar)
  let _ ← optionalMark "~"
  let _ ← optionalWord "const"
  let maybe ← optionalMark "?"
  let between ← optionalList (fun tokens => maybe && atWord "for" tokens) (binder grammar)
  let path ← withCall grammar (← pathExpr grammar false)
  pure (before ++ between ++ path.code)

/-- A bound of a type: the code inside it, and whether it is a trait. -/
def typeBound (grammar : Grammar) : Parser (List Code × Bool) := do
  if ← at? atLifetime then
    lifetime
    pure ([], false)
  else if ← at? (atWord "use") then
    word "use"
    mark "<"
    let _ ← separated (atMark ">") "," do
      if ← at? atLifetime then lifetime else let _ ← anyWord
    mark ">"
    pure ([], false)
  else if ← at? (atGroup .paren) then
    pure (← inside .paren (traitBound grammar), true)
  else
    pure (← traitBound grammar, true)

/-- Generic arguments behind the name of a method. -/
def turbofish (grammar : Grammar) : Parser (List Code) := do
  require (← at? (atMark "::"))
  pure (codeOfArguments (← genericArguments grammar))

/-- A path that may start from a type in angle brackets. -/
def qualifiedPath (grammar : Grammar) (inExpr : Bool) : Parser QualifiedPath := do
  if ← at? (atMark "<") then
    mark "<"
    let self ← grammar.type true
    let trait ← optional (atWord "as") do
      word "as"
      pathExpr grammar false
    mark ">"
    mark "::"
    let rest ← chain "::" (fun _ => true) (segment grammar inExpr)
    let path :=
      match trait, rest with
      | some trait, first :: rest => trait.extend first rest
      | _, rest => ⟨true, rest.dropLast, rest.getLastD (.plain "")⟩
    pure ⟨some self.code, path⟩
  else
    pure ⟨none, ← pathExpr grammar inExpr⟩

/-! ## Bounds and clauses of declarations -/

/-- Several bounds, by the code inside them.  One of them has to be a trait. -/
def traitBounds (grammar : Grammar) (sums : Bool) : Parser (List Code) := do
  let bounds ←
    if sums then
      chain "+" atBound (typeBound grammar)
    else
      pure [← typeBound grammar]
  require (bounds.any Prod.snd)
  pure (bounds.flatMap Prod.fst)

/-- The end of a `where` clause or of the bounds in one. -/
def atClauseEnd : Look :=
  Look.any [atEnd, atGroup .brace, atMark ",", atMark ";", atColon, atMark "="]

/-- One condition of a `where` clause. -/
def condition (grammar : Grammar) : Parser (List Code) := do
  if ← at? (atLifetime.and (second (atMark ":"))) then
    lifetimeBounds atClauseEnd
    pure []
  else
    let before ← optionalList (atWord "for") (binder grammar)
    let type ← grammar.type true
    mark ":"
    pure (before ++ type.code ++ (← boundsUpTo grammar atClauseEnd))

/-- A `where` clause, if there is one.  An empty clause is not written again. -/
def whereClause (grammar : Grammar) : Parser (List Code) := do
  if ← at? (atWord "where") then
    if ← at? (second atClauseEnd) then
      unwritten (word "where")
      pure []
    else
      word "where"
      pure (← chain "," atClauseEnd.not (condition grammar)).flatten
  else
    pure []

/-! ## Types -/

/-- The language of a foreign function, if given. -/
def foreign : Parser Unit := do
  if ← optionalWord "extern" then
    if ← at? atString then
      let _ ← literal

/-- An input of a function type. -/
def functionTypeInput (grammar : Grammar) : Parser (List Code) := do
  let before := codeOfAttributes (← outerAttributes grammar)
  if ← at? (atMark "...") then
    mark "..."
    pure before
  else
    if ← at? ((atWord "mut").and (second (atWord "self"))) then
      word "mut"
    if ← at? ((atAnyWord.and (second (atMark ":"))).and (second (atMark "::")).not) then
      let _ ← anyWord
      mark ":"
    if ← at? (atMark "...") then
      mark "..."
      pure before
    else
      pure (before ++ (← grammar.type true).code)

/-- A function type, by the code inside it. -/
def functionType (grammar : Grammar) : Parser (List Code) := do
  let _ ← optionalWord "unsafe"
  foreign
  word "fn"
  let inputs ← inside .paren (commaList (functionTypeInput grammar))
  let result ← output grammar false
  pure (inputs.flatten ++ (result.map TypeExpr.code).getD [])

/-- Further bounds of a trait object, each behind a plus. -/
def furtherBounds (grammar : Grammar) : Parser (List Code) := do
  let bounds ← whileAt (atMark "+") do
    mark "+"
    pure (← typeBound grammar).1
  pure bounds.flatten

/-- The inside of parentheses around a type. -/
inductive ParenType where
  | tuple (elements : List TypeExpr)
  /-- One type; `isBound` tells whether it can be a bound. -/
  | one (type : TypeExpr) (isBound : Bool)
  /-- A bound with a question mark. -/
  | maybe (code : List Code)

/-- What is inside parentheses in a type. -/
def parenType (grammar : Grammar) : Parser ParenType := do
  let start ← tokens
  if atEnd start then
    pure (.tuple [])
  else if atLifetime start then
    pure (.one (.other (← traitBounds grammar true)) false)
  else if atMark "?" start then
    pure (.maybe (← typeBound grammar).1)
  else
    let first ← grammar.type true
    if ← at? (atMark ",") then
      mark ","
      pure (.tuple (first :: (← commaList (grammar.type true))))
    else
      let isFunction := start.any fun token => atWord "fn" [token]
      let isBound := match first with
        | .path _ _ _ => true
        | .other _ => atWord "for" start && !isFunction
        | _ => false
      pure (.one first isBound)

/-- A type that begins with a parenthesis. -/
def afterParen (grammar : Grammar) (sums : Bool) : Parser TypeExpr := do
  match ← inside .paren (parenType grammar) with
  | .tuple elements => pure (.tuple elements)
  | .maybe code => pure (.other (code ++ (← furtherBounds grammar)))
  | .one type isBound =>
      if sums && isBound && (← at? (atMark "+")) then
        pure (.other (type.code ++ (← furtherBounds grammar)))
      else
        pure (.paren type)

/-- A type that begins with a path. -/
def pathType (grammar : Grammar) (sums general : Bool) : Parser TypeExpr := do
  let found ← qualifiedPath grammar false
  let path ← withCalls grammar found.path
  match found.self with
  | some self => pure (.associated (self ++ path.code) path.last.name)
  | none =>
      if path.isPlain && (← at? ((atMark "!").and (atMark "!=").not)) then
        mark "!"
        let _ ← anyGroup
        pure (.other [])
      else if sums && (← at? (atMark "+")) then
        mark "+"
        let bounds ← optionalList atBound do
          pure ((← chain "+" atBound (typeBound grammar)).flatMap Prod.fst)
        pure (.other (path.code ++ bounds))
      else if general then
        pure (.other path.code)
      else
        pure (.path path.absolute path.outer path.last)

/-- At the beginning of a path. -/
def atPath : Look :=
  Look.any [atPathName, atMark "::", atMark "<"]

/-- A type, on one level of nesting. -/
def typeExpr (grammar : Grammar) (sums : Bool) : Parser TypeExpr := do
  let general ← at? (atWord "for")
  let before ← optionalList (atWord "for") (binder grammar)
  let start ← tokens
  let atFunction := atWords ["fn", "unsafe", "extern"]
  if general then
    require (atFunction start || atPathName start)
  if atGroup .paren start then
    afterParen grammar sums
  else if atFunction start then
    pure (.other (before ++ (← functionType grammar)))
  else if atPath start then
    match ← pathType grammar sums general with
    | .other inner => pure (.other (before ++ inner))
    | type => pure type
  else if atWord "dyn" start then
    word "dyn"
    let _ ← optionalMark "*"
    pure (.other (← traitBounds grammar sums))
  else if atWord "impl" start then
    word "impl"
    pure (.other (← traitBounds grammar sums))
  else if atGroup .bracket start then
    inside .bracket do
      let element ← grammar.type true
      if ← optionalMark ";" then
        pure (.array element (← grammar.expr true).code)
      else
        pure (.slice element)
  else if atMark "*" start then
    mark "*"
    if ← at? (atWord "const") then word "const" else word "mut"
    pure (.pointer (← grammar.type false))
  else if atMark "&" start then
    mark "&"
    if ← at? atLifetime then lifetime
    let _ ← optionalWord "mut"
    pure (.pointer (← grammar.type false))
  else if atMark "!" start && !atMark "!=" start then
    mark "!"
    pure (.other [])
  else if atWord "_" start then
    word "_"
    pure (.other [])
  else if atLifetime start then
    pure (.other (← traitBounds grammar sums))
  else
    reject

end Parser

end NativeScript.Source
