import NativeScript.Native.Property

/-!
# Classes and their registration

A class is registered by a list of calls to the engine: one for the class itself,
then one for each of its methods, properties and signals, in the order of their
declaration.  The accessors of all properties are settled first, so that a class
that is refused makes no call at all.
-/

namespace NativeScript.Native

open Engine (PropertyHint PropertyUsage RpcMode Variant VariantType)

/-- A method that is ready to be registered. -/
structure Method where
  className : String
  name : String
  mode : RpcMode := default
  callback : MethodCallback

/-- A method under the name by which scripts call it, which is also the text that
belongs to its callback. -/
def Method.named (className name : String)
    (answer : Object → String → String → List Variant → Variant) : Method where
  className
  name
  callback := ⟨name, answer⟩

/-- A declared argument of a signal. -/
structure SignalArgument where
  name : String
  type : VariantType := default
  hint : PropertyHint := default
  hintString : String := ""
  usage : PropertyUsage := default
  defaultValue : Variant := .nil

/-- A signal that is ready to be registered. -/
structure Signal where
  className : String
  name : String
  arguments : List SignalArgument := []
  defaults : List Variant := []

/-- A class that is ready to be registered. -/
structure Class where
  info : ClassInfo
  maker : Option CreateCallback := none
  disposer : Option DestroyCallback := none
  methods : List Method := []
  properties : List Property := []
  signals : List Signal := []

/-! ## Calls to the engine -/

/-- A call that registers something with the engine. -/
inductive Call where
  /-- Register a class; `tool` tells whether it runs inside the editor as well. -/
  | registerClass (tool : Bool) (name base : String) (create : CreateCallback)
      (destroy : DestroyCallback)
  | registerMethod (method : Method)
  | registerProperty (className path : String) (attributes : PropertyAttributes)
      (set : SetCallback) (get : GetCallback)
  | registerSignal (signal : Signal)

namespace Class

/-- A class without members. -/
def named (name base : String) : Class where
  info := ⟨name, base, false⟩

/-- A class with its tool flag set.  Callbacks made before keep the old flag. -/
def withTool (nativeClass : Class) (tool : Bool) : Class :=
  { nativeClass with info := { nativeClass.info with tool } }

/-- The constructor that records live instances of a class as it is now. -/
def genericConstructor (nativeClass : Class) : CreateCallback :=
  ⟨nativeClass.info.name, .generic nativeClass.info⟩

/-- The destructor that forgets live instances. -/
def genericDestructor (nativeClass : Class) : DestroyCallback :=
  ⟨nativeClass.info.name, .generic nativeClass.info.name⟩

/-- The first property of a name. -/
def findProperty? (nativeClass : Class) (name : String) : Option Property :=
  nativeClass.properties.find? (·.name == name)

/-- The call that registers a class itself, with generic callbacks in place of
missing ones. -/
def headCall (nativeClass : Class) : Call :=
  .registerClass nativeClass.info.tool nativeClass.info.name nativeClass.info.base
    (nativeClass.maker.getD nativeClass.genericConstructor)
    (nativeClass.disposer.getD nativeClass.genericDestructor)

/-- The call that registers a property, once its accessors are settled. -/
def propertyCall (property : Property) (accessors : SetCallback × GetCallback) : Call :=
  .registerProperty property.className property.name property.attributes accessors.1 accessors.2

/-- The calls that register properties; the first property without settled
accessors refuses them all. -/
def propertyCalls : List Property → Except RegistrationError (List Call)
  | [] => .ok []
  | property :: properties =>
      match property.accessors with
      | .error error => .error error
      | .ok accessors => (propertyCalls properties).map (propertyCall property accessors :: ·)

/-- The calls that register a class. -/
def calls (nativeClass : Class) : Except RegistrationError (List Call) :=
  (propertyCalls nativeClass.properties).map fun properties =>
    nativeClass.headCall :: nativeClass.methods.map .registerMethod ++ properties ++
      nativeClass.signals.map .registerSignal

end Class

end NativeScript.Native
