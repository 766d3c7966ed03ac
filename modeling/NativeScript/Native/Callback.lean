import NativeScript.Engine.Variant
import NativeScript.Text.Quoted

/-!
# Callbacks

What is registered with the engine is a callback together with a text that the
engine hands back on every call.  A callback is either generic, and then acts on
the live instances or on the slot of a property, or supplied by the author of the
class.  Of a supplied callback only its answer is known; that it ran is recorded
where it is called.
-/

namespace NativeScript.Native

open Engine (Variant)

/-- A handle to an object that the engine owns. -/
structure Object where
  id : UInt64
deriving DecidableEq

/-- The text that stands for an object as the key of its instance. -/
def Object.key (object : Object) : String :=
  toString object.id.toNat

/-- What all instances of a registered class share. -/
structure ClassInfo where
  name : String
  base : String
  tool : Bool := false
deriving DecidableEq

/-! ## The kinds of callbacks -/

/-- How an instance is made. -/
inductive CreateBody where
  /-- Record a live instance of the class under the key of the object. -/
  | generic (info : ClassInfo)
  /-- Answer with the text that identifies the instance from now on. -/
  | supplied (answer : Object → String → String)

/-- The callback that makes an instance. -/
structure CreateCallback where
  data : String
  body : CreateBody

/-- How an instance is disposed of. -/
inductive DestroyBody where
  /-- Forget the live instance; the class is named in the report. -/
  | generic (className : String)
  | supplied

/-- The callback that disposes of an instance. -/
structure DestroyCallback where
  data : String
  body : DestroyBody

/-- A method, from the object, the callback's text, the text of the instance and
the arguments. -/
structure MethodCallback where
  data : String
  answer : Object → String → String → List Variant → Variant

/-- The number of a property slot. -/
abbrev SlotId := Nat

/-- How a property is written. -/
inductive SetBody where
  | slot (id : SlotId)
  | supplied

/-- The callback that writes a property. -/
structure SetCallback where
  data : String
  body : SetBody

/-- How a property is read. -/
inductive GetBody where
  | slot (id : SlotId)
  | supplied (answer : Object → String → String → Variant)

/-- The callback that reads a property. -/
structure GetCallback where
  data : String
  body : GetBody

/-! ## Descriptions -/

/-- The description of a callback: its sort and the text that belongs to it. -/
def describe (sort data : String) : String :=
  sort ++ " \x7b method_data: " ++ Text.quoted data ++ ", .. \x7d"

/-- The description of a callback that makes an instance. -/
def CreateCallback.description (callback : CreateCallback) : String :=
  describe "InstanceCreateFunc" callback.data

/-- The description of a callback that disposes of an instance. -/
def DestroyCallback.description (callback : DestroyCallback) : String :=
  describe "InstanceDestroyFunc" callback.data

/-- The description of a callback of a method. -/
def MethodCallback.description (callback : MethodCallback) : String :=
  describe "InstanceMethod" callback.data

/-- The description of a callback that writes a property. -/
def SetCallback.description (callback : SetCallback) : String :=
  describe "InstancePropertySet" callback.data

/-- The description of a callback that reads a property. -/
def GetCallback.description (callback : GetCallback) : String :=
  describe "InstancePropertyGet" callback.data

end NativeScript.Native
