import NativeScript.Engine.PropertyHint
import NativeScript.Engine.PropertyUsage
import NativeScript.Engine.RpcMode
import NativeScript.Native.Callback
import NativeScript.Native.Error

/-!
# Properties

A property without accessors of its own is read and written through a slot.  The
slot belongs to the property and not to an instance: all instances of a class see
the same value, and so do all copies of the property.
-/

namespace NativeScript.Native

open Engine (PropertyHint PropertyUsage RpcMode Variant VariantType)

/-- What the engine is told about a property. -/
structure PropertyAttributes where
  rset : RpcMode := default
  type : VariantType := default
  hint : PropertyHint := default
  hintString : String := ""
  usage : PropertyUsage := default
  defaultValue : Variant := .nil

/-- A property that is ready to be registered. -/
structure Property where
  className : String
  name : String
  attributes : PropertyAttributes
  setter : Option SetCallback := none
  getter : Option GetCallback := none
  slot : SlotId

/-! ## Attributes from tags -/

/-- The value that a tag names; the empty tag names the default. -/
def ofTagOr {α : Type} [Inhabited α] (ofTag? : String → Option α)
    (unknown : String → RegistrationError) (tag : String) : Except RegistrationError α :=
  if tag.isEmpty then
    .ok default
  else
    match ofTag? tag with
    | some value => .ok value
    | none => .error (unknown tag)

/-- The attributes that tags describe.  Of several tags without a meaning the
hint is reported before the usage, and the usage before the mode. -/
def PropertyAttributes.ofTags (hint hintString usage rset : String) :
    Except RegistrationError PropertyAttributes := do
  let hint ← ofTagOr PropertyHint.ofTag? .unknownHint hint
  let usage ← ofTagOr PropertyUsage.ofTag? .unknownUsage usage
  let rset ← ofTagOr RpcMode.ofTag? .unknownRpcMode rset
  pure { hint, hintString, usage, rset }

namespace Property

/-! ## Accessors -/

/-- The text that belongs to the generic accessors of a property. -/
def data (property : Property) : String :=
  property.className ++ "::" ++ property.name

/-- The generic setter of a property. -/
def genericSetter (property : Property) : SetCallback :=
  ⟨property.data, .slot property.slot⟩

/-- The generic getter of a property. -/
def genericGetter (property : Property) : GetCallback :=
  ⟨property.data, .slot property.slot⟩

/-- The accessors under which a property is registered: its own ones if it has
both, generic ones if it has neither. -/
def accessors (property : Property) : Except RegistrationError (SetCallback × GetCallback) :=
  match property.setter, property.getter with
  | some setter, some getter => .ok (setter, getter)
  | none, none => .ok (property.genericSetter, property.genericGetter)
  | _, _ => .error (.incompleteAccessors property.className property.name)

end Property

end NativeScript.Native
