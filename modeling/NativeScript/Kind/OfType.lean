import NativeScript.Kind.Basic
import NativeScript.Source.Tree

/-!
# The kind of a type

Not every type has a kind.  Plain paths are names; pointers, references and
boxes are pointers; slices, arrays and growable lists are arrays; the usual
containers of pairs are maps.  A part without a kind, inside a type that has one,
counts as the generic pointer.
-/

namespace NativeScript

/-- The kind of a plain path, by the segments before the last one and the last
one. -/
def Kind.ofPath (outer : List String) (last : String) : Kind :=
  match outer with
  | [] => named last
  | first :: spaces => qualified (spaces.foldl qualified (named first)) last

/-- The containers of elements in a row. -/
def Kind.arrayContainers : List String := ["Vec", "VecDeque"]

/-- The containers of keys and their values. -/
def Kind.mapContainers : List String := ["HashMap", "BTreeMap", "FxHashMap", "IndexMap"]

/-- The kind of a container, by its name and the kinds of its type arguments.
Further arguments of a map do not count. -/
def Kind.ofContainer? (name : String) : List Kind → Option Kind
  | [] => none
  | [inner] =>
      if name = "Box" then some (pointer inner)
      else if arrayContainers.contains name then some (array inner)
      else none
  | key :: value :: _ =>
      if mapContainers.contains name then some (map key value) else none

namespace Source

mutual

/-- The kind of a type, if it has one. -/
def TypeExpr.kind? : TypeExpr → Option Kind
  | .path _ outer last =>
      if outer.all Segment.isPlain then last.kindWithin? (outer.map Segment.name) else none
  | .pointer pointee => some (.pointer (pointee.kind?.getD .genericPointer))
  | .paren inner => inner.kind?
  | .slice element => some (.array (element.kind?.getD .genericPointer))
  | .array element _ => some (.array (element.kind?.getD .genericPointer))
  | .associated _ _ => none
  | .tuple _ => none
  | .other _ => none

/-- The kind of a path that ends in this segment, by the segments before it. -/
def Segment.kindWithin? (outer : List String) : Segment → Option Kind
  | .plain name => some (.ofPath outer name)
  | .generic name arguments => Kind.ofContainer? name (kindsOfArguments arguments)
  | .callable _ _ => none

/-- The kinds of the types among generic arguments. -/
def kindsOfArguments : List Argument → List Kind
  | [] => []
  | argument :: arguments => argument.kinds ++ kindsOfArguments arguments

/-- The kind of a generic argument, if it is a type. -/
def Argument.kinds : Argument → List Kind
  | .type type => [type.kind?.getD .genericPointer]
  | .other _ => []

end

/-- The kind of a type, or another one in its place. -/
def TypeExpr.kindOr (type : TypeExpr) (fallback : Kind) : Kind :=
  type.kind?.getD fallback

end Source

end NativeScript
