import NativeScript.Source.Token

/-!
# Syntax trees

A unit of source text is read into the declarations that a scan looks at:
structs, functions, and the functions of `impl` blocks, with modules flattened
later.  Code is kept as far as a scan can tell it apart: literals of strings and
records, calls, lists, and for all other code the code inside it, from left to
right.
-/

namespace NativeScript.Source

/-! ## Code -/

/-- A path as a name: its segments without their generic arguments. -/
structure Path where
  /-- Whether a `::` stands in front. -/
  absolute : Bool
  /-- The segments before the last one. -/
  outer : List String
  last : String
  /-- Whether no segment has arguments. -/
  plain : Bool
deriving DecidableEq

namespace Path

/-- The path of one identifier. -/
def ofName (name : String) : Path := ⟨false, [], name, true⟩

/-- Whether a path is just this identifier. -/
def isName (path : Path) (name : String) : Bool :=
  !path.absolute && path.outer.isEmpty && path.plain && path.last == name

/-- The first segment of a path. -/
def first (path : Path) : String :=
  path.outer.headD path.last

end Path

/-- Code, as far as a scan tells it apart.  Lists of code stand in the order of
the text. -/
inductive Code where
  /-- A string literal, by the text it stands for. -/
  | text (value : String)
  /-- A name, with the code among its generic arguments. -/
  | name (path : Path) (inner : List Code)
  /-- A record literal: the code before its fields, the fields, which are named
  or numbered, and the record that the remaining fields come from.  The code of
  the attributes of a field stands before it, as fields without a name. -/
  | record (path : Path) (inner : List Code) (fields : List (Option String × Code))
      (rest : List Code)
  /-- A call of a function. -/
  | call (function : Code) (arguments : List Code)
  /-- A call of a method, with the code among its generic arguments. -/
  | methodCall (receiver : Code) (method : String) (inner arguments : List Code)
  /-- Code in parentheses, behind a reference or behind attributes; `before` is
  the code of the attributes. -/
  | enclosed (before : List Code) (inner : Code)
  /-- A list of elements, each with its text. -/
  | list (elements : List (String × Code))
  /-- A list made by the `vec` macro: the texts of its elements, unless its
  arguments are no list of elements. -/
  | macroList (elements : Option (List String))
  /-- Code inside an `impl` block for the type named `owner`. -/
  | owned (owner : Option String) (inner : List Code)
  /-- Any other code. -/
  | other (inner : List Code)

instance : Inhabited Code := ⟨.other []⟩

/-- A record literal where it stands: inside an `impl` block for `owner`, if in
any. -/
structure RecordLiteral where
  owner : Option String
  path : Path
  fields : List (Option String × Code)

namespace Code

mutual

/-- The record literals in a piece of code, each before those inside it. -/
def records (owner : Option String) : Code → List RecordLiteral
  | text _ => []
  | name _ inner => recordsAll owner inner
  | record path inner fields rest =>
      ⟨owner, path, fields⟩ ::
        (recordsAll owner inner ++ recordsFields owner fields ++ recordsAll owner rest)
  | call function arguments => function.records owner ++ recordsAll owner arguments
  | methodCall receiver _ inner arguments =>
      receiver.records owner ++ recordsAll owner inner ++ recordsAll owner arguments
  | enclosed before inner => recordsAll owner before ++ inner.records owner
  | list elements => recordsElements owner elements
  | macroList _ => []
  | owned innerOwner inner => recordsAll innerOwner inner
  | other inner => recordsAll owner inner

/-- The record literals in a sequence of code. -/
def recordsAll (owner : Option String) : List Code → List RecordLiteral
  | [] => []
  | code :: codes => code.records owner ++ recordsAll owner codes

/-- The record literals in the values of fields. -/
def recordsFields (owner : Option String) : List (Option String × Code) → List RecordLiteral
  | [] => []
  | (_, value) :: fields => value.records owner ++ recordsFields owner fields

/-- The record literals in the elements of a list. -/
def recordsElements (owner : Option String) : List (String × Code) → List RecordLiteral
  | [] => []
  | (_, element) :: elements => element.records owner ++ recordsElements owner elements

end

/-- Code with the code of attributes in front. -/
def withAttributes (before : List Code) (code : Code) : Code :=
  if before.isEmpty then
    code
  else
    match code with
    | record path inner fields rest => record path (before ++ inner) fields rest
    | code => enclosed before code

end Code

/-! ## Types -/

mutual

/-- A type as it is written. -/
inductive TypeExpr where
  /-- A path, by the segments before the last one and the last one. -/
  | path (absolute : Bool) (outer : List Segment) (last : Segment)
  /-- A type named through another, such as `<T as Trait>::Item`. -/
  | associated (inner : List Code) (last : String)
  /-- A raw pointer or a reference. -/
  | pointer (pointee : TypeExpr)
  | paren (inner : TypeExpr)
  | slice (element : TypeExpr)
  | array (element : TypeExpr) (length : Code)
  | tuple (elements : List TypeExpr)
  /-- Any other type, by the code inside it. -/
  | other (inner : List Code)

/-- A segment of a path. -/
inductive Segment where
  | plain (name : String)
  | generic (name : String) (arguments : List Argument)
  /-- A segment with arguments in parentheses, by the code inside them. -/
  | callable (name : String) (inner : List Code)

/-- A generic argument. -/
inductive Argument where
  | type (type : TypeExpr)
  /-- A lifetime, a constant or a constraint, by the code inside it. -/
  | other (inner : List Code)

end

instance : Inhabited TypeExpr := ⟨.other []⟩

/-- The name of a segment. -/
def Segment.name : Segment → String
  | plain name => name
  | generic name _ => name
  | callable name _ => name

/-- Whether a segment has no arguments. -/
def Segment.isPlain : Segment → Bool
  | plain _ => true
  | _ => false

mutual

/-- The code inside a type. -/
def TypeExpr.code : TypeExpr → List Code
  | .path _ outer last => codeOfSegments outer ++ last.code
  | .associated inner _ => inner
  | .pointer pointee => pointee.code
  | .paren inner => inner.code
  | .slice element => element.code
  | .array element length => element.code ++ [length]
  | .tuple elements => codeOfTypes elements
  | .other inner => inner

/-- The code inside a segment. -/
def Segment.code : Segment → List Code
  | .plain _ => []
  | .generic _ arguments => codeOfArguments arguments
  | .callable _ inner => inner

/-- The code inside a generic argument. -/
def Argument.code : Argument → List Code
  | .type type => type.code
  | .other inner => inner

/-- The code inside segments, from left to right. -/
def codeOfSegments : List Segment → List Code
  | [] => []
  | segment :: segments => segment.code ++ codeOfSegments segments

/-- The code inside generic arguments, from left to right. -/
def codeOfArguments : List Argument → List Code
  | [] => []
  | argument :: arguments => argument.code ++ codeOfArguments arguments

/-- The code inside types, from left to right. -/
def codeOfTypes : List TypeExpr → List Code
  | [] => []
  | type :: types => type.code ++ codeOfTypes types

end

/-! ## Declarations -/

/-- What follows the path of an attribute. -/
inductive AttributeContent where
  | bare
  | list (tokens : List Token)
  | value (value : Code)

/-- An attribute. -/
structure Attribute where
  path : Path
  content : AttributeContent

/-- The code inside an attribute.  A plain string holds none. -/
def Attribute.code (item : Attribute) : List Code :=
  match item.content with
  | .value (.text _) => []
  | .value value => [value]
  | _ => []

/-- The code inside attributes, from left to right. -/
def codeOfAttributes (attributes : List Attribute) : List Code :=
  attributes.flatMap Attribute.code

/-- A field of a struct with named fields. -/
structure Field where
  attributes : List Attribute
  isPublic : Bool
  name : String
  type : TypeExpr

/-- A field of a struct whose fields are numbered. -/
structure TupleField where
  attributes : List Attribute
  type : TypeExpr

/-- The fields of a struct. -/
inductive Fields where
  | named (fields : List Field)
  | numbered (fields : List TupleField)
  | none

/-- The types of all fields, in order. -/
def Fields.types : Fields → List TypeExpr
  | named fields => fields.map Field.type
  | numbered fields => fields.map TupleField.type
  | none => []

/-- The code inside fields. -/
def Fields.code : Fields → List Code
  | named fields => fields.flatMap fun field => codeOfAttributes field.attributes ++ field.type.code
  | numbered fields =>
      fields.flatMap fun field => codeOfAttributes field.attributes ++ field.type.code
  | none => []

/-- The declaration of a struct.  `heading` is the code of its generic
parameters. -/
structure Struct where
  attributes : List Attribute
  name : String
  heading : List Code
  fields : Fields

/-- The code inside a struct. -/
def Struct.code (decl : Struct) : List Code :=
  codeOfAttributes decl.attributes ++ decl.heading ++ decl.fields.code

/-- An input of a function. -/
inductive Input where
  /-- The receiver of a method, by the code inside it. -/
  | receiver (inner : List Code)
  /-- A parameter: the name it binds, if its pattern is a plain binding, the
  code inside the pattern, and its type. -/
  | typed (binding : Option String) (inner : List Code) (type : TypeExpr)

/-- Whether an input is the receiver of a method. -/
def Input.isReceiver : Input → Bool
  | receiver _ => true
  | typed _ _ _ => false

/-- The code inside an input. -/
def Input.code : Input → List Code
  | receiver inner => inner
  | typed _ inner type => inner ++ type.code

/-- The declaration of a function.  `heading` is the code of its generic
parameters, and `extra` the code of a variable tail of inputs. -/
structure Function where
  attributes : List Attribute
  isPublic : Bool
  name : String
  heading : List Code
  inputs : List Input
  extra : List Code
  output : Option TypeExpr
  body : List Code

/-- Whether the first input of a function is a receiver. -/
def Function.hasReceiver (decl : Function) : Bool :=
  (decl.inputs.head?.map Input.isReceiver).getD false

/-- The code inside a function. -/
def Function.code (decl : Function) : List Code :=
  codeOfAttributes decl.attributes ++ decl.heading ++ decl.inputs.flatMap Input.code ++
    decl.extra ++ (decl.output.map TypeExpr.code).getD [] ++ decl.body

/-- A member of an `impl` block. -/
inductive Member where
  | function (decl : Function)
  | other (inner : List Code)

/-- The code inside a member. -/
def Member.code : Member → List Code
  | function decl => decl.code
  | other inner => inner

/-- An `impl` block.  `heading` is the code between its attributes and its own
type. -/
structure Implementation where
  attributes : List Attribute
  heading : List Code
  owner : TypeExpr
  members : List Member

/-- The last name of a type that is a path. -/
def TypeExpr.name? : TypeExpr → Option String
  | .path _ _ last => some last.name
  | .associated _ last => some last
  | .paren inner => inner.name?
  | _ => none

/-- The code inside an `impl` block. -/
def Implementation.code (decl : Implementation) : Code :=
  .owned decl.owner.name? <|
    codeOfAttributes decl.attributes ++ decl.heading ++ decl.owner.code ++
      decl.members.flatMap Member.code

/-- An item of a unit. -/
inductive Item where
  | struct (decl : Struct)
  | function (decl : Function)
  | implementation (decl : Implementation)
  /-- A module; one that is declared without a body has no items. -/
  | module (attributes : List Attribute) (items : List Item)
  /-- Any other item, by the code inside it. -/
  | other (inner : List Code)

mutual

/-- The code inside an item. -/
def Item.code : Item → List Code
  | .struct decl => decl.code
  | .function decl => decl.code
  | .implementation decl => [decl.code]
  | .module attributes items => codeOfAttributes attributes ++ codeOfItems items
  | .other inner => inner

/-- The code inside items, from left to right. -/
def codeOfItems : List Item → List Code
  | [] => []
  | item :: items => item.code ++ codeOfItems items

end

/-- A unit of source text: the attributes of the unit itself, and its items. -/
structure SourceUnit where
  attributes : List Attribute
  items : List Item

/-- The code inside a unit. -/
def SourceUnit.code (unit : SourceUnit) : List Code :=
  codeOfAttributes unit.attributes ++ codeOfItems unit.items

/-- The record literals in a unit, each before those inside it. -/
def SourceUnit.records (unit : SourceUnit) : List RecordLiteral :=
  Code.recordsAll none unit.code

end NativeScript.Source
