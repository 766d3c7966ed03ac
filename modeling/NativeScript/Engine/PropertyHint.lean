import NativeScript.Engine.Tag

/-!
# Property hints

A hint tells the editor how to present a property.  Each hint has a number on the
side of the engine and a name in field tags.
-/

namespace NativeScript.Engine

/-- How the editor presents a property. -/
inductive PropertyHint where
  | none
  | range
  | expRange
  | enum
  | expEasing
  | length
  | spriteFrame
  | keyAccel
  | flags
  | layers2dRender
  | layers2dPhysics
  | layers3dRender
  | layers3dPhysics
  | file
  | dir
  | globalFile
  | globalDir
  | resourceType
  | multilineText
  | placeholderText
  | colorNoAlpha
  | imageCompressLossy
  | imageCompressLossless
  | objectId
  | typeString
  | nodePathToEditedNode
  | methodOfVariantType
  | methodOfBaseType
  | methodOfInstance
  | methodOfScript
  | propertyOfVariantType
  | propertyOfBaseType
  | propertyOfInstance
  | propertyOfScript
  | objectTooBig
  | nodePathValidTypes
deriving DecidableEq

namespace PropertyHint

/-- Every value, in the order of the engine's numbers. -/
def all : List PropertyHint := [
    .none, .range, .expRange, .enum, .expEasing, .length, .spriteFrame, .keyAccel, .flags,
    .layers2dRender, .layers2dPhysics, .layers3dRender, .layers3dPhysics, .file, .dir,
    .globalFile, .globalDir, .resourceType, .multilineText, .placeholderText, .colorNoAlpha,
    .imageCompressLossy, .imageCompressLossless, .objectId, .typeString, .nodePathToEditedNode,
    .methodOfVariantType, .methodOfBaseType, .methodOfInstance, .methodOfScript,
    .propertyOfVariantType, .propertyOfBaseType, .propertyOfInstance, .propertyOfScript,
    .objectTooBig, .nodePathValidTypes
  ]

/-- The name of a value, as tags spell it. -/
def name : PropertyHint → String
  | none => "None"
  | range => "Range"
  | expRange => "ExpRange"
  | enum => "Enum"
  | expEasing => "ExpEasing"
  | length => "Length"
  | spriteFrame => "SpriteFrame"
  | keyAccel => "KeyAccel"
  | flags => "Flags"
  | layers2dRender => "Layers2dRender"
  | layers2dPhysics => "Layers2dPhysics"
  | layers3dRender => "Layers3dRender"
  | layers3dPhysics => "Layers3dPhysics"
  | file => "File"
  | dir => "Dir"
  | globalFile => "GlobalFile"
  | globalDir => "GlobalDir"
  | resourceType => "ResourceType"
  | multilineText => "MultilineText"
  | placeholderText => "PlaceholderText"
  | colorNoAlpha => "ColorNoAlpha"
  | imageCompressLossy => "ImageCompressLossy"
  | imageCompressLossless => "ImageCompressLossless"
  | objectId => "ObjectId"
  | typeString => "TypeString"
  | nodePathToEditedNode => "NodePathToEditedNode"
  | methodOfVariantType => "MethodOfVariantType"
  | methodOfBaseType => "MethodOfBaseType"
  | methodOfInstance => "MethodOfInstance"
  | methodOfScript => "MethodOfScript"
  | propertyOfVariantType => "PropertyOfVariantType"
  | propertyOfBaseType => "PropertyOfBaseType"
  | propertyOfInstance => "PropertyOfInstance"
  | propertyOfScript => "PropertyOfScript"
  | objectTooBig => "ObjectTooBig"
  | nodePathValidTypes => "NodePathValidTypes"

/-- The number of a value on the side of the engine. -/
def code (value : PropertyHint) : Nat :=
  all.idxOf value

/-- The value with a given number. -/
def ofCode? (code : Nat) : Option PropertyHint :=
  all[code]?

/-- The names under which tags look a value up. -/
def entries : List (String × PropertyHint) :=
  all.map (fun value => (value.name, value))

/-- The value that a tag names. -/
def ofTag? (text : String) : Option PropertyHint :=
  Tag.find? "PropertyHint" entries text

/-- The accepted tags, in lower case. -/
def tagNames : List String :=
  all.map (fun value => Tag.lowerName value.name)

instance : Inhabited PropertyHint := ⟨.none⟩

end PropertyHint

end NativeScript.Engine
