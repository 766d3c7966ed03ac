import NativeScript.Source.Tree

/-!
# Declarations of a unit

A scan sees a unit as the structs and the functions in it, in the order of the
text.  Modules only group declarations, and a function of an `impl` block
remembers the name of the type that the block is for.
-/

namespace NativeScript.Source

/-- A function, and the name of the type that its `impl` block is for. -/
structure OwnedFunction where
  owner : Option String
  decl : Function

/-- The functions among the members of an `impl` block. -/
def Implementation.functions (block : Implementation) : List OwnedFunction :=
  block.members.filterMap fun
    | .function decl => some ⟨block.owner.name?, decl⟩
    | .other _ => none

mutual

/-- The structs that an item declares. -/
def Item.structs : Item → List Struct
  | .struct decl => [decl]
  | .module _ items => structsOfItems items
  | .function _ => []
  | .implementation _ => []
  | .other _ => []

/-- The structs that items declare, in order. -/
def structsOfItems : List Item → List Struct
  | [] => []
  | item :: items => item.structs ++ structsOfItems items

end

mutual

/-- The functions that an item declares. -/
def Item.functions : Item → List OwnedFunction
  | .function decl => [⟨none, decl⟩]
  | .implementation block => block.functions
  | .module _ items => functionsOfItems items
  | .struct _ => []
  | .other _ => []

/-- The functions that items declare, in order. -/
def functionsOfItems : List Item → List OwnedFunction
  | [] => []
  | item :: items => item.functions ++ functionsOfItems items

end

/-- The structs of a unit. -/
def SourceUnit.structs (unit : SourceUnit) : List Struct :=
  structsOfItems unit.items

/-- The functions of a unit. -/
def SourceUnit.functions (unit : SourceUnit) : List OwnedFunction :=
  functionsOfItems unit.items

/-- The types that one written result stands for: a tuple gives each of its
elements. -/
def TypeExpr.spread : TypeExpr → List TypeExpr
  | .tuple elements => elements
  | .paren inner => inner.spread
  | type => [type]

/-- The types of the results of a function. -/
def Function.results (decl : Function) : List TypeExpr :=
  match decl.output with
  | none => []
  | some type => type.spread

end NativeScript.Source
