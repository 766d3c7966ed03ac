import NativeScript.Source.Grammar.Statement

/-!
# Reading items

Structs, functions, `impl` blocks and modules are read for what they declare,
all other items for the code inside them.  An item that the language only
reserves, such as a function without a body, is read but holds nothing.
-/

namespace NativeScript.Source.Parser

open Look

/-! ## Visibility -/

/-- Who may use an item. -/
inductive Visibility where
  | inherited
  | restricted
  | everyone
deriving DecidableEq

/-- Whether a group holds just the name of a surrounding module. -/
def atModuleGroup : Look
  | .group .paren [.word name] :: _ => ["crate", "self", "super"].contains name
  | _ => false

/-- Whether a group holds the path of a module. -/
def atPathGroup : Look
  | .group .paren tokens :: _ => atWord "in" tokens
  | _ => false

/-- The visibility in front of an item. -/
def visibility : Parser Visibility := do
  if ← optionalWord "pub" then
    if ← at? atModuleGroup then
      let _ ← anyGroup
      pure .restricted
    else if ← at? atPathGroup then
      inside .paren do
        word "in"
        let _ ← plainPath
      pure .restricted
    else
      pure .everyone
  else
    pure .inherited

/-- The tokens behind the visibility of an item. -/
def pastVisibility : Parser (Visibility × List Token) := fun cursor =>
  (visibility cursor).map fun (found, ahead) => ((found, ahead.rest), cursor)

/-! ## Functions -/

/-- The head of a function. -/
structure Signature where
  name : String
  heading : List Code
  inputs : List Input
  extra : List Code
  output : Option TypeExpr

/-- The code inside the head of a function. -/
def Signature.code (head : Signature) : List Code :=
  head.heading ++ head.inputs.flatMap Input.code ++ head.extra ++
    (head.output.map TypeExpr.code).getD []

/-- The tokens without a word at their start. -/
def dropWord (word : String) (tokens : List Token) : List Token :=
  if atWord word tokens then past tokens else tokens

/-- At the head of a function. -/
def atSignature (safe : Bool) : Look := fun tokens =>
  let tokens := dropWord "async" (dropWord "const" tokens)
  let tokens :=
    if safe && atWord "safe" tokens then past tokens else dropWord "unsafe" tokens
  let tokens :=
    if atWord "extern" tokens then
      if second atString tokens then past (past tokens) else past tokens
    else
      tokens
  atWord "fn" tokens

/-- The receiver of a method, by the code inside it. -/
def receiver (grammar : Grammar) : Parser (List Code) := do
  let byReference ← optionalMark "&"
  if byReference && (← at? atLifetime) then lifetime
  let _ ← optionalWord "mut"
  word "self"
  if !byReference && (← at? (atMark ":")) then
    mark ":"
    pure (← grammar.type true).code
  else
    pure []

/-- A parameter, or the code inside a variable tail of parameters. -/
def parameter (grammar : Grammar) (before : List Code) : Parser (Input ⊕ List Code) := do
  if ← at? (atName.and (second (atMark "<"))) then
    pure (.inl (.typed none before (← grammar.type true)))
  else
    let pattern ← grammar.pattern
    mark ":"
    if ← optionalMark "..." then
      pure (.inr (before ++ pattern.code))
    else
      pure (.inl (.typed pattern.binding (before ++ pattern.code) (← grammar.type true)))

/-- An input of a function, or the code inside a variable tail of inputs. -/
def input (grammar : Grammar) : Parser (Input ⊕ List Code) := do
  let before := codeOfAttributes (← outerAttributes grammar)
  if ← optionalMark "..." then
    pure (.inr before)
  else
    (do pure (.inl (.receiver (before ++ (← receiver grammar))))) <|> parameter grammar before

/-- The input that was read, unless it is a variable tail. -/
def asInput? : Input ⊕ List Code → Option Input
  | .inl found => some found
  | .inr _ => none

/-- The code of a variable tail. -/
def asExtra : Input ⊕ List Code → List Code
  | .inl _ => []
  | .inr code => code

/-- The inputs of a function.  Only the first can be a receiver and only the
last a variable tail. -/
def inputs (grammar : Grammar) : Parser (List Input × List Code) := do
  let found ← commaList (input grammar)
  let inputs := found.filterMap asInput?
  require (found.dropLast.all fun item => (asInput? item).isSome)
  require ((inputs.drop 1).all fun item => !item.isReceiver)
  pure (inputs, found.flatMap asExtra)

/-- The head of a function. -/
def signature (grammar : Grammar) : Parser Signature := do
  let _ ← optionalWord "const"
  let _ ← optionalWord "async"
  if !(← optionalWord "safe") then
    let _ ← optionalWord "unsafe"
  foreign
  word "fn"
  let name ← identifier
  let parameters ← generics grammar
  let (inputs, extra) ← inside .paren (inputs grammar)
  let output ← output grammar true
  let clause ← whereClause grammar
  pure ⟨name, parameters ++ clause, inputs, extra, output⟩

/-- The body of a function, with the attributes at its start. -/
def functionBody (grammar : Grammar) : Parser (List Attribute × List Code) :=
  inside .brace do
    let attributes ← innerAttributes grammar
    pure (attributes, ← statements grammar)

/-- A function from its head and its body. -/
def functionOf (attributes : List Attribute) (isPublic : Bool) (head : Signature)
    (body : List Attribute × List Code) : Function where
  attributes := attributes ++ body.1
  isPublic := isPublic
  name := head.name
  heading := head.heading
  inputs := head.inputs
  extra := head.extra
  output := head.output
  body := body.2

/-- A function, or its head alone. -/
def functionDecl (grammar : Grammar) (attributes : List Attribute) (isPublic : Bool) :
    Parser (Option Function) := do
  let head ← signature grammar
  if ← optionalMark ";" then
    pure none
  else
    pure (some (functionOf attributes isPublic head (← functionBody grammar)))

/-! ## Structs, enumerations and unions -/

/-- At the fields that a field without a name stands for. -/
def atNestedFields : Look :=
  (atWord "struct").or ((atWord "union").and (second (atGroup .brace)))

/-- A named field.  One without a name may stand for further fields, which
`nested` reads and which hold nothing. -/
def namedField (grammar : Grammar) (nested : Parser Fields) : Parser Field := do
  let attributes ← outerAttributes grammar
  let isPublic := (← visibility) == .everyone
  let isUnnamed ← at? (atWord "_")
  let name ← if isUnnamed then anyWord else identifier
  mark ":"
  if isUnnamed && (← at? atNestedFields) then
    let _ ← anyWord
    let _ ← nested
    pure ⟨attributes, isPublic, name, .other []⟩
  else
    pure ⟨attributes, isPublic, name, ← grammar.type true⟩

/-- A numbered field. -/
def numberedField (grammar : Grammar) : Parser TupleField := do
  let attributes ← outerAttributes grammar
  let _ ← visibility
  pure ⟨attributes, ← grammar.type true⟩

/-- Named fields in braces, down to `depth` nested groups. -/
def namedFieldsFrom (grammar : Grammar) : Nat → Parser Fields
  | 0 => reject
  | depth + 1 => do
      let nested := namedFieldsFrom grammar depth
      pure (.named (← inside .brace (commaList (namedField grammar nested))))

/-- Named fields in braces. -/
def namedFields (grammar : Grammar) : Parser Fields := do
  namedFieldsFrom grammar (Token.countAll (← tokens) + 1)

/-- Numbered fields in parentheses. -/
def numberedFields (grammar : Grammar) : Parser Fields := do
  pure (.numbered (← inside .paren (commaList (numberedField grammar))))

/-- A struct. -/
def structDecl (grammar : Grammar) (attributes : List Attribute) : Parser Struct := do
  word "struct"
  let name ← identifier
  let parameters ← generics grammar
  let hasClause ← at? (atWord "where")
  let before ← whereClause grammar
  if !hasClause && (← at? (atGroup .paren)) then
    let fields ← numberedFields grammar
    let clause ← whereClause grammar
    mark ";"
    pure ⟨attributes, name, parameters ++ clause, fields⟩
  else if ← at? (atGroup .brace) then
    pure ⟨attributes, name, parameters ++ before, ← namedFields grammar⟩
  else
    mark ";"
    pure ⟨attributes, name, parameters ++ before, .none⟩

/-- A variant of an enumeration, by the code inside it. -/
def variantDecl (grammar : Grammar) : Parser (List Code) := do
  let before := codeOfAttributes (← outerAttributes grammar)
  let _ ← visibility
  let _ ← identifier
  let fields ←
    if ← at? (atGroup .brace) then namedFields grammar
    else if ← at? (atGroup .paren) then numberedFields grammar
    else pure .none
  let value ← optionalList (atMark "=") do
    mark "="
    pure [(← grammar.expr true).code]
  pure (before ++ fields.code ++ value)

/-- An enumeration, by the code inside it. -/
def enumDecl (grammar : Grammar) : Parser (List Code) := do
  word "enum"
  let _ ← identifier
  let parameters ← generics grammar
  let clause ← whereClause grammar
  let variants ← inside .brace (commaList (variantDecl grammar))
  pure (parameters ++ clause ++ variants.flatten)

/-- A union, by the code inside it. -/
def unionDecl (grammar : Grammar) : Parser (List Code) := do
  word "union"
  let _ ← identifier
  let parameters ← generics grammar
  let clause ← whereClause grammar
  pure (parameters ++ clause ++ (← namedFields grammar).code)

/-! ## Constants, types and imports -/

/-- A constant, by the code inside it.  Parameters are only reserved for
constants, and so is a missing value. -/
def constantDecl (grammar : Grammar) : Parser (List Code) := do
  word "const"
  let _ ← if ← at? (atWord "_") then anyWord else identifier
  let isGeneral ← at? (atMark "<")
  let _ ← generics grammar
  mark ":"
  let type ← grammar.type true
  let value ← optional (atMark "=") do
    mark "="
    pure (← grammar.expr true).code
  let hasClause ← at? (atWord "where")
  let _ ← whereClause grammar
  mark ";"
  pure <|
    if isGeneral || hasClause then []
    else match value with
      | some value => type.code ++ [value]
      | none => []

/-- A constant of a trait, which may lack its value. -/
def traitConstant (grammar : Grammar) : Parser (List Code) := do
  word "const"
  let _ ← if ← at? (atWord "_") then anyWord else identifier
  let isGeneral ← at? (atMark "<")
  let _ ← generics grammar
  mark ":"
  let type ← grammar.type true
  let value ← optionalList (atMark "=") do
    mark "="
    pure [(← grammar.expr true).code]
  let hasClause ← at? (atWord "where")
  let _ ← whereClause grammar
  mark ";"
  pure (if isGeneral || hasClause then [] else type.code ++ value)

/-- A static variable, by the code inside it. -/
def staticDecl (grammar : Grammar) : Parser (List Code) := do
  word "static"
  let _ ← optionalWord "mut"
  let _ ← identifier
  if ← optionalMark "=" then
    let _ ← grammar.expr true
    mark ";"
    pure []
  else
    mark ":"
    let type ← grammar.type true
    if ← optionalMark ";" then
      pure []
    else
      mark "="
      let value ← grammar.expr true
      mark ";"
      pure (type.code ++ [value.code])

/-- The declaration of a type name. -/
structure TypeDecl where
  heading : List Code
  /-- The code inside its bounds, if there is a colon. -/
  bounds : Option (List Code)
  /-- The type it stands for, if given. -/
  definition : Option TypeExpr

/-- The code of a declaration that gives a type and no bounds. -/
def TypeDecl.definitionCode (decl : TypeDecl) : List Code :=
  match decl.bounds, decl.definition with
  | none, some type => decl.heading ++ type.code
  | _, _ => []

/-- The declaration of a type name.  The flags tell where a `where` clause may
stand: before or after the definition. -/
def typeDecl (grammar : Grammar) (clauseBefore clauseAfter : Bool) : Parser TypeDecl := do
  word "type"
  let _ ← identifier
  let parameters ← generics grammar
  let stop := Look.any [atWord "where", atMark "=", atMark ";"]
  let bounds ← optional (atMark ":") do
    mark ":"
    boundsUpTo grammar stop
  let before ← optionalList (fun _ => clauseBefore) (whereClause grammar)
  let definition ← optional (atMark "=") do
    mark "="
    grammar.type true
  let after ← optionalList (fun _ => clauseAfter) (whereClause grammar)
  mark ";"
  pure ⟨parameters ++ before ++ after, bounds, definition⟩

/-- The name of an imported thing, or that of a module it is imported from. -/
def importName : Parser Unit := do
  require (← at? (atName.or (atWords ["super", "self", "crate", "try"])))
  let _ ← anyWord

/-- What an import names, down to `depth` nested groups. -/
def importTree : Nat → Parser Unit
  | 0 => reject
  | depth + 1 => do
      if ← at? (atMark "*") then
        mark "*"
      else if ← at? (atGroup .brace) then
        let _ ← inside .brace (commaList do
          let _ ← optionalMark "::"
          importTree depth)
      else
        importName
        if ← at? (atMark "::") then
          mark "::"
          importTree depth
        else if ← optionalWord "as" then
          if ← at? (atWord "_") then word "_" else let _ ← identifier

/-- An import. -/
def importDecl : Parser Unit := do
  word "use"
  let _ ← optionalMark "::"
  importTree (Token.countAll (← tokens) + 1)
  mark ";"

/-- An import of a whole library. -/
def libraryDecl : Parser Unit := do
  word "extern"
  word "crate"
  let _ ← if ← at? (atWord "self") then anyWord else identifier
  if ← optionalWord "as" then
    if ← at? (atWord "_") then word "_" else let _ ← identifier
  mark ";"

/-! ## Macros -/

/-- A macro call as an item, which ends with a semicolon unless it is in
braces. -/
def macroItem (named : Bool) : Parser Unit := do
  let _ ← plainPath
  mark "!"
  if named then
    if ← at? (atName.or (atWord "try")) then
      let _ ← anyWord
  let (delimiter, _) ← anyGroup
  if delimiter != .brace then mark ";"

/-- The definition of a macro by a function. -/
def macroDecl : Parser Unit := do
  word "macro"
  let _ ← identifier
  if ← at? (atGroup .paren) then
    let _ ← anyGroup
  require (← at? (atGroup .brace))
  let _ ← anyGroup

/-- At the path of a macro call. -/
def atMacroPath : Look :=
  Look.any [atName, atWords ["self", "super", "crate"], atMark "::"]

/-! ## Traits -/

/-- A member of a trait, by the code inside it. -/
def traitMember (grammar : Grammar) : Parser (List Code) := do
  let before := codeOfAttributes (← outerAttributes grammar)
  let visible := (← visibility) != .inherited
  let isDefault ← optionalWord "default"
  let next ← tokens
  let isPlain := !visible && !isDefault
  let code ←
    if atSignature false next then
      let head ← signature grammar
      if ← optionalMark ";" then
        pure head.code
      else
        let (attributes, body) ← functionBody grammar
        pure (codeOfAttributes attributes ++ head.code ++ body)
    else if atWord "const" next then
      traitConstant grammar
    else if atWord "type" next then
      let decl ← typeDecl grammar false true
      pure (decl.heading ++ decl.bounds.getD [] ++ (decl.definition.map TypeExpr.code).getD [])
    else if isPlain && atMacroPath next then
      macroItem false
      pure []
    else
      reject
  pure (if isPlain then before ++ code else [])

/-- The rest of a trait after its name and parameters. -/
def traitRest (grammar : Grammar) (parameters : List Code) : Parser (List Code) := do
  let bounds ← optionalList (atMark ":") do
    mark ":"
    boundsUpTo grammar ((atWord "where").or (atGroup .brace))
  let clause ← whereClause grammar
  inside .brace do
    let before := codeOfAttributes (← innerAttributes grammar)
    let members ← whileAt atEnd.not (traitMember grammar)
    pure (before ++ parameters ++ clause ++ bounds ++ members.flatten)

/-- A trait, or another name for bounds, by the code inside it. -/
def traitDecl (grammar : Grammar) : Parser (List Code) := do
  let marked := (← optionalWord "unsafe")
  let automatic ← optionalWord "auto"
  word "trait"
  let _ ← identifier
  let parameters ← generics grammar
  if !marked && !automatic && (← at? (atMark "=")) then
    mark "="
    let bounds ← boundsUpTo grammar ((atWord "where").or (atMark ";"))
    let clause ← whereClause grammar
    mark ";"
    pure (parameters ++ clause ++ bounds)
  else
    traitRest grammar parameters

/-! ## Foreign items -/

/-- A foreign item, by the code inside it. -/
def foreignMember (grammar : Grammar) : Parser (List Code) := do
  let before := codeOfAttributes (← outerAttributes grammar)
  let visible := (← visibility) != .inherited
  let next ← tokens
  let atStatic := (atWord "static").or ((atWords ["unsafe", "safe"]).and (second (atWord "static")))
  if atSignature true next then
    let head ← signature grammar
    if ← at? (atGroup .brace) then
      let _ ← functionBody grammar
      pure []
    else
      mark ";"
      pure (before ++ head.code)
  else if atStatic next then
    if !atWord "static" next then
      let _ ← anyWord
    word "static"
    let _ ← optionalWord "mut"
    let _ ← identifier
    mark ":"
    let type ← grammar.type true
    let hasValue ← optionalMark "="
    if hasValue then
      let _ ← grammar.expr true
    mark ";"
    pure (if hasValue then [] else before ++ type.code)
  else if atWord "type" next then
    let decl ← typeDecl grammar true true
    pure (if decl.bounds.isSome || decl.definition.isSome then [] else before ++ decl.heading)
  else if !visible && atMacroPath next then
    macroItem false
    pure before
  else
    reject

/-- A group of foreign items, by the code inside it. -/
def foreignDecl (grammar : Grammar) : Parser (List Code) := do
  let _ ← optionalWord "unsafe"
  require (← at? (atWord "extern"))
  foreign
  inside .brace do
    let attributes ← innerAttributes grammar
    let members ← whileAt atEnd.not (foreignMember grammar)
    pure (codeOfAttributes attributes ++ members.flatten)

/-! ## Implementations -/

/-- A member of an `impl` block. -/
def implMember (grammar : Grammar) : Parser Member := do
  let attributes ← outerAttributes grammar
  let before := codeOfAttributes attributes
  let visible ← visibility
  let atDefault := (atWord "default").and (second (atMark "!")).not
  let isDefault ← at? atDefault
  if isDefault then word "default"
  let next ← tokens
  if atSignature false next then
    match ← functionDecl grammar attributes (visible == .everyone) with
    | some decl => pure (.function decl)
    | none => pure (.other [])
  else if atWord "const" next then
    let code ← constantDecl grammar
    pure (.other (if code.isEmpty then [] else before ++ code))
  else if atWord "type" next then
    let code := (← typeDecl grammar false true).definitionCode
    pure (.other (if code.isEmpty then [] else before ++ code))
  else if visible == .inherited && !isDefault && atMacroPath next then
    macroItem false
    pure (.other before)
  else
    reject

/-- An `impl` block, or nothing for one that the language only reserves. -/
def implDecl (grammar : Grammar) (attributes : List Attribute) (visible : Bool) :
    Parser Item := do
  let _ ← optionalWord "default"
  let _ ← optionalWord "unsafe"
  word "impl"
  let parameters ← optionalList atParameters (generics grammar)
  let isConstant ← at? ((atWord "const").or ((atMark "?").and (second (atWord "const"))))
  if isConstant then
    let _ ← optionalMark "?"
    word "const"
  let negative ← at? ((atMark "!").and (second (atGroup .brace)).not)
  if negative then mark "!"
  let first ← grammar.type true
  let target ← optional (atWord "for") do
    word "for"
    grammar.type true
  require (!negative || target.isSome)
  let ofTrait := match first with
    | .path _ _ _ => true
    | _ => false
  let clause ← whereClause grammar
  let (own, members) ← inside .brace do
    let own ← innerAttributes grammar
    pure (own, ← whileAt atEnd.not (implMember grammar))
  let heading := parameters ++ clause
  if visible || isConstant then
    pure (.other [])
  else
    match target with
    | none => pure (.implementation ⟨attributes ++ own, heading, first, members⟩)
    | some owner =>
        if ofTrait then
          pure (.implementation ⟨attributes ++ own, heading ++ first.code, owner, members⟩)
        else
          pure (.other [])

/-! ## Items -/

/-- A module.  One without a body has no items. -/
def moduleDecl (grammar : Grammar) (attributes : List Attribute) : Parser Item := do
  let _ ← optionalWord "unsafe"
  word "mod"
  let _ ← if ← at? (atWord "try") then anyWord else identifier
  if ← optionalMark ";" then
    pure (.module attributes [])
  else
    inside .brace do
      let own ← innerAttributes grammar
      let items ← whileAt atEnd.not do
        let attributes ← outerAttributes grammar
        grammar.item attributes
      pure (.module (attributes ++ own) items)

/-- An item behind its attributes, on one level of nesting. -/
def itemDecl (grammar : Grammar) (attributes : List Attribute) : Parser Item := do
  let (visible, next) ← pastVisibility
  let before := codeOfAttributes attributes
  let one (word : String) : Bool := atWord word next
  let two (look : Look) : Bool := second look next
  let atTrait := (atWord "trait").or ((atWord "auto").and (second (atWord "trait")))
  if atSignature false next then
    let _ ← visibility
    match ← functionDecl grammar attributes (visible == .everyone) with
    | some decl => pure (.function decl)
    | none => pure (.other [])
  else if one "extern" && two (atWord "crate") then
    let _ ← visibility
    libraryDecl
    pure (.other before)
  else if one "extern" || (one "unsafe" && two (atWord "extern")) then
    require (visible == .inherited)
    pure (.other (before ++ (← foreignDecl grammar)))
  else if one "use" then
    let _ ← visibility
    importDecl
    pure (.other before)
  else if one "static" then
    let _ ← visibility
    let code ← staticDecl grammar
    pure (.other (if code.isEmpty then [] else before ++ code))
  else if one "const" then
    let _ ← visibility
    let code ← constantDecl grammar
    pure (.other (if code.isEmpty then [] else before ++ code))
  else if one "mod" || (one "unsafe" && two (atWord "mod")) then
    let _ ← visibility
    moduleDecl grammar attributes
  else if one "type" then
    let _ ← visibility
    let code := (← typeDecl grammar true false).definitionCode
    pure (.other (if code.isEmpty then [] else before ++ code))
  else if one "struct" then
    let _ ← visibility
    pure (.struct (← structDecl grammar attributes))
  else if one "enum" then
    let _ ← visibility
    pure (.other (before ++ (← enumDecl grammar)))
  else if one "union" && two atName then
    let _ ← visibility
    pure (.other (before ++ (← unionDecl grammar)))
  else if atTrait next || (one "unsafe" && two atTrait) then
    let _ ← visibility
    pure (.other (before ++ (← traitDecl grammar)))
  else if one "impl" || (one "unsafe" && two (atWord "impl")) ||
      (one "default" && !two (atMark "!")) then
    let _ ← visibility
    implDecl grammar attributes (visible != .inherited)
  else if one "macro" then
    let _ ← visibility
    macroDecl
    pure (.other [])
  else if visible == .inherited && atMacroPath next then
    macroItem true
    pure (.other before)
  else
    reject

end NativeScript.Source.Parser
