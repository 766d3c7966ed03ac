import NativeScript.Engine.VariantType
import NativeScript.Kind.Basic

/-!
# Conversion tables

Arguments arrive as boxed values and results leave as boxed values.  From a kind
alone these tables tell which accessor opens the box of an argument, which
constructor boxes a result, and as which type a property is declared.  Every
kind has an answer.
-/

namespace NativeScript

open Engine (VariantType)

/-- The family of scalars or engine values that a plain name belongs to. -/
inductive Builtin where
  | bool
  | byte
  | int
  | uint
  | real
  | string
  /-- A value that is boxed already. -/
  | variant
  /-- A value type of the engine. -/
  | value (type : VariantType)
deriving DecidableEq

namespace Builtin

/-- The names of the scalar families. -/
def families : List (Builtin × List String) := [
    (bool, ["bool", "Bool"]),
    (byte, ["u8", "uint8", "Uint8T"]),
    (int, ["i8", "i16", "i32", "i64", "i128", "isize", "int", "int8", "int16", "int32", "int64",
      "Int", "Int64T", "SignedChar"]),
    (uint, ["u16", "u32", "u64", "u128", "usize", "uint", "uint16", "uint32", "uint64", "Uint",
      "Uint32T", "Uint64T"]),
    (real, ["f32", "f64", "float32", "float64", "Float", "Double", "Real"]),
    (string, ["String", "string", "str", "Char", "WcharT"]),
    (variant, ["Variant"])
  ]

/-- The family of a name: a scalar by its exact name, otherwise an engine value
by any spelling of its tag. -/
def ofName? (name : String) : Option Builtin :=
  match families.find? (·.2.contains name) with
  | some (family, _) => some family
  | none => (VariantType.ofTag? name).map value

/-- The family of a plain name, or of a member of the binding namespace. -/
def ofKind? : Kind → Option Builtin
  | .named name => ofName? name
  | .qualified (.named space) member =>
      if space = Kind.bindingSpace then ofName? member else none
  | _ => none

end Builtin

/-- Whether a kind is a floating-point scalar. -/
def Kind.isFloat (kind : Kind) : Bool :=
  Builtin.ofKind? kind == some .real

/-! ## Opening the box of an argument -/

/-- How an argument is taken out of its box. -/
inductive Accessor where
  | bool
  | uint
  | int
  | real
  | string
  | vector2
  | vector3
  | rect2
  | transform2D
  | plane
  | quat
  | aabb
  | basis
  | transform
  | color
  | nodePath
  | rid
  | object
  | dictionary
  | array
  | poolByteArray
  | poolIntArray
  | poolRealArray
  | poolStringArray
  | poolVector2Array
  | poolVector3Array
  | poolColorArray
  /-- The argument stays in its box. -/
  | raw
deriving DecidableEq

namespace Accessor

/-- The name of an accessor and the method that it calls on the box. -/
def names : Accessor → String × String
  | bool => ("Bool", "as_bool")
  | uint => ("Uint", "as_uint")
  | int => ("Int", "as_int")
  | real => ("Real", "as_real")
  | string => ("String", "as_string")
  | vector2 => ("Vector2", "as_vector2")
  | vector3 => ("Vector3", "as_vector3")
  | rect2 => ("Rect2", "as_rect2")
  | transform2D => ("Transform2D", "as_transform2d")
  | plane => ("Plane", "as_plane")
  | quat => ("Quat", "as_quat")
  | aabb => ("Aabb", "as_aabb")
  | basis => ("Basis", "as_basis")
  | transform => ("Transform", "as_transform")
  | color => ("Color", "as_color")
  | nodePath => ("NodePath", "as_node_path")
  | rid => ("Rid", "as_rid")
  | object => ("Object", "as_object")
  | dictionary => ("Dictionary", "as_dictionary")
  | array => ("Array", "as_array")
  | poolByteArray => ("PoolByteArray", "as_pool_byte_array")
  | poolIntArray => ("PoolIntArray", "as_pool_int_array")
  | poolRealArray => ("PoolRealArray", "as_pool_real_array")
  | poolStringArray => ("PoolStringArray", "as_pool_string_array")
  | poolVector2Array => ("PoolVector2Array", "as_pool_vector2_array")
  | poolVector3Array => ("PoolVector3Array", "as_pool_vector3_array")
  | poolColorArray => ("PoolColorArray", "as_pool_color_array")
  | raw => ("Raw", "clone")

/-- The name of an accessor. -/
def name (accessor : Accessor) : String := accessor.names.1

/-- The method of the box that an accessor calls. -/
def methodName (accessor : Accessor) : String := accessor.names.2

/-- The accessor of an engine value.  An object and the empty value are both
taken out as objects. -/
def ofType : VariantType → Accessor
  | .nil => object
  | .bool => bool
  | .int => int
  | .real => real
  | .string => string
  | .vector2 => vector2
  | .rect2 => rect2
  | .vector3 => vector3
  | .transform2D => transform2D
  | .plane => plane
  | .quat => quat
  | .aabb => aabb
  | .basis => basis
  | .transform => transform
  | .color => color
  | .nodePath => nodePath
  | .rid => rid
  | .object => object
  | .dictionary => dictionary
  | .array => array
  | .poolByteArray => poolByteArray
  | .poolIntArray => poolIntArray
  | .poolRealArray => poolRealArray
  | .poolStringArray => poolStringArray
  | .poolVector2Array => poolVector2Array
  | .poolVector3Array => poolVector3Array
  | .poolColorArray => poolColorArray

/-- The accessor of a family. -/
def ofBuiltin : Builtin → Accessor
  | .bool => bool
  | .byte => uint
  | .int => int
  | .uint => uint
  | .real => real
  | .string => string
  | .variant => raw
  | .value type => ofType type

/-- The accessor of an array, by the kind of its elements. -/
def ofElement (element : Kind) : Accessor :=
  match Builtin.ofKind? element.stripPointers with
  | some .byte => poolByteArray
  | some .int => poolIntArray
  | some .uint => poolIntArray
  | some .real => poolRealArray
  | some .string => poolStringArray
  | some (.value .vector2) => poolVector2Array
  | some (.value .vector3) => poolVector3Array
  | some (.value .color) => poolColorArray
  | _ => array

/-- The accessor of a kind.  Whatever is neither a scalar, an engine value nor a
collection is taken out as an object. -/
def ofKind (kind : Kind) : Accessor :=
  match kind.stripPointers with
  | .array element => ofElement element
  | .map _ _ => dictionary
  | stripped => ((Builtin.ofKind? stripped).map ofBuiltin).getD object

end Accessor

/-! ## Boxing a result -/

/-- How the results of a method are put into one box. -/
inductive Boxing where
  | bool
  | uint
  | int
  | real
  | string
  /-- Two floating-point results in one vector. -/
  | vector2
  /-- Three floating-point results in one vector. -/
  | vector3
  /-- The result is taken to be boxed already. -/
  | raw
deriving DecidableEq

namespace Boxing

/-- The name of a boxing. -/
def name : Boxing → String
  | bool => "Bool"
  | uint => "Uint"
  | int => "Int"
  | real => "Real"
  | string => "String"
  | vector2 => "Vector2"
  | vector3 => "Vector3"
  | raw => "Raw"

/-- The boxing of one result.  A pointer is boxed like what it points to. -/
def ofResult (result : Kind) : Boxing :=
  match Builtin.ofKind? result.stripPointers with
  | some .bool => bool
  | some .byte => uint
  | some .uint => uint
  | some .int => int
  | some .real => real
  | some .string => string
  | _ => raw

/-- The boxing of all results of a method.  Two or three of them make a vector
when every one is a floating-point scalar. -/
def ofResults : List Kind → Boxing
  | [result] => ofResult result
  | [x, y] => if x.isFloat && y.isFloat then vector2 else raw
  | [x, y, z] => if x.isFloat && y.isFloat && z.isFloat then vector3 else raw
  | _ => raw

/-- The expression that boxes `value`. -/
def expression (boxing : Boxing) (value : String) : String :=
  match boxing with
  | bool => "Variant::Bool(" ++ value ++ ")"
  | uint => "Variant::Uint(" ++ value ++ " as u64)"
  | int => "Variant::Int(" ++ value ++ " as i64)"
  | real => "Variant::Real(" ++ value ++ " as f64)"
  | string => "Variant::String(" ++ value ++ ".to_string())"
  | vector2 => "Variant::Vector2([" ++ value ++ ".0 as f64, " ++ value ++ ".1 as f64])"
  | vector3 =>
      "Variant::Vector3([" ++ value ++ ".0 as f64, " ++ value ++ ".1 as f64, " ++ value ++
        ".2 as f64])"
  | raw => value

end Boxing

/-! ## The declared type of a property -/

/-- The type of an array, by the kind of its elements. -/
def arrayType (element : Kind) : VariantType :=
  match Accessor.ofElement element with
  | .poolByteArray => .poolByteArray
  | .poolIntArray => .poolIntArray
  | .poolRealArray => .poolRealArray
  | .poolStringArray => .poolStringArray
  | .poolVector2Array => .poolVector2Array
  | .poolVector3Array => .poolVector3Array
  | .poolColorArray => .poolColorArray
  | _ => .array

/-- The type of a family. -/
def Builtin.type : Builtin → VariantType
  | bool => .bool
  | byte => .int
  | int => .int
  | uint => .int
  | real => .real
  | string => .string
  | variant => .nil
  | value type => type

/-- The type as which a property of this kind is declared. -/
def Kind.declaredType (kind : Kind) : VariantType :=
  match kind.stripPointers with
  | .array element => arrayType element
  | .map _ _ => .dictionary
  | stripped => ((Builtin.ofKind? stripped).map Builtin.type).getD .object

end NativeScript
