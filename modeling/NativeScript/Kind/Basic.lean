/-!
# Kinds

A kind is the canonical name of a type, independent of how the type was spelled:
a plain name, a name inside a namespace, or a pointer, an array or a map built
from other kinds.

A kind is written as a text: `*Player`, `ArrayType[u8]`, `MapType[str]i64`,
`godot.Node`.  Reading that text back is the subject of `Kind.Reader`.
-/

namespace NativeScript

/-- The canonical name of a type. -/
inductive Kind where
  | named (name : String)
  | pointer (pointee : Kind)
  | array (element : Kind)
  | map (key value : Kind)
  | qualified (space : Kind) (member : String)
deriving DecidableEq

namespace Kind

/-- The written form of a kind. -/
def render : Kind → String
  | named name => name
  | pointer pointee => "*" ++ pointee.render
  | array element => "ArrayType[" ++ element.render ++ "]"
  | map key value => "MapType[" ++ key.render ++ "]" ++ value.render
  | qualified space member => space.render ++ "." ++ member

/-! ## The engine's own names -/

/-- The namespace that holds the value types of the engine. -/
def bindingSpace : String := "gdnative"

/-- A member of the binding namespace. -/
def binding (member : String) : Kind :=
  qualified (named bindingSpace) member

/-- The kind of a pointee, element or entry that has no kind of its own. -/
def genericPointer : Kind := binding "Pointer"

/-- The kind of a returned value that has no kind of its own: a value that is
boxed already. -/
def variant : Kind := binding "Variant"

/-! ## Questions about a kind -/

/-- The last name of a plain or qualified name. -/
def tailName? : Kind → Option String
  | named name => some name
  | qualified _ member => some member
  | _ => none

/-- The outermost namespace of a qualified name. -/
def rootSpace? : Kind → Option String
  | qualified (named name) _ => some name
  | qualified space _ => space.rootSpace?
  | _ => none

/-- Whether a kind is the bare name `member`, or `member` inside the namespace
that is written `space`. -/
def isMemberOf (space member : String) : Kind → Bool
  | named name => name == member
  | qualified outer name => name == member && outer.render == space
  | _ => false

/-- What a pointer points to. -/
def pointee? : Kind → Option Kind
  | pointer pointee => some pointee
  | _ => none

/-- Whether a kind is a pointer to a type whose last name is `name`. -/
def isPointerTo (name : String) (kind : Kind) : Bool :=
  (kind.pointee?.bind tailName?) == some name

/-- Whether a kind is an array. -/
def isArray : Kind → Bool
  | array _ => true
  | _ => false

/-- Whether a kind is a map. -/
def isMap : Kind → Bool
  | map _ _ => true
  | _ => false

/-- A kind without the pointers around it. -/
def stripPointers : Kind → Kind
  | pointer pointee => pointee.stripPointers
  | kind => kind

/-- The name that stands for the class under discussion. -/
def selfName : String := "Self"

/-- A kind with the class put in place of the bare name `Self`, everywhere in
it. -/
def replaceSelf (owner : String) : Kind → Kind
  | named name => named (if name = selfName then owner else name)
  | pointer pointee => pointer (pointee.replaceSelf owner)
  | array element => array (element.replaceSelf owner)
  | map key value => map (key.replaceSelf owner) (value.replaceSelf owner)
  | qualified space member => qualified (space.replaceSelf owner) member

end Kind

end NativeScript
