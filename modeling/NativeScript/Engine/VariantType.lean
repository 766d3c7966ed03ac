import NativeScript.Engine.Tag

/-!
# Value types

The engine tags every boxed value with one of these types.
-/

namespace NativeScript.Engine

/-- The type tag of a boxed value. -/
inductive VariantType where
  | nil
  | bool
  | int
  | real
  | string
  | vector2
  | rect2
  | vector3
  | transform2D
  | plane
  | quat
  | aabb
  | basis
  | transform
  | color
  | nodePath
  | rid
  | object
  | dictionary
  | array
  | poolByteArray
  | poolIntArray
  | poolRealArray
  | poolStringArray
  | poolVector2Array
  | poolVector3Array
  | poolColorArray
deriving DecidableEq

namespace VariantType

/-- Every value, in the order of the engine's numbers. -/
def all : List VariantType := [
    .nil, .bool, .int, .real, .string, .vector2, .rect2, .vector3, .transform2D, .plane, .quat,
    .aabb, .basis, .transform, .color, .nodePath, .rid, .object, .dictionary, .array,
    .poolByteArray, .poolIntArray, .poolRealArray, .poolStringArray, .poolVector2Array,
    .poolVector3Array, .poolColorArray
  ]

/-- The name of a value, as tags spell it. -/
def name : VariantType → String
  | nil => "Nil"
  | bool => "Bool"
  | int => "Int"
  | real => "Real"
  | string => "String"
  | vector2 => "Vector2"
  | rect2 => "Rect2"
  | vector3 => "Vector3"
  | transform2D => "Transform2D"
  | plane => "Plane"
  | quat => "Quat"
  | aabb => "Aabb"
  | basis => "Basis"
  | transform => "Transform"
  | color => "Color"
  | nodePath => "NodePath"
  | rid => "Rid"
  | object => "Object"
  | dictionary => "Dictionary"
  | array => "Array"
  | poolByteArray => "PoolByteArray"
  | poolIntArray => "PoolIntArray"
  | poolRealArray => "PoolRealArray"
  | poolStringArray => "PoolStringArray"
  | poolVector2Array => "PoolVector2Array"
  | poolVector3Array => "PoolVector3Array"
  | poolColorArray => "PoolColorArray"

/-- The number of a value on the side of the engine. -/
def code (value : VariantType) : Nat :=
  all.idxOf value

/-- The value with a given number. -/
def ofCode? (code : Nat) : Option VariantType :=
  all[code]?

/-- The names under which tags look a value up. -/
def entries : List (String × VariantType) :=
  all.map (fun value => (value.name, value))

/-- The value that a tag names. -/
def ofTag? (text : String) : Option VariantType :=
  Tag.find? "VariantType" entries text

/-- The accepted tags, in lower case. -/
def tagNames : List String :=
  all.map (fun value => Tag.lowerName value.name)

instance : Inhabited VariantType := ⟨.nil⟩

end VariantType

end NativeScript.Engine
