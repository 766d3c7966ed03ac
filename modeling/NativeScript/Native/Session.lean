import NativeScript.Native.Class
import NativeScript.Native.Instances
import NativeScript.Report

/-!
# Sessions

A session is what lasts between calls: the registrations the engine has received,
the live instances, and the values in the slots of properties.  Every operation
takes a session to the next one; what it reports, and the supplied callbacks it
runs, are kept in order.
-/

namespace NativeScript.Native

open Engine (Variant)

/-! ## Events -/

/-- What a session reports. -/
inductive Event where
  | genericConstructor (info : ClassInfo) (key : String)
  | genericDestructor (className key : String)
  | registeringClass (info : ClassInfo)
  | registeringMethod (className method : String)
  | registeringProperty (className property : String)
  | registeringSignal (className signal : String)
  | genericSet (property : String)
  | genericGet (property : String)
deriving DecidableEq

/-- The wording of an event. -/
def Event.report : Event → Report
  | genericConstructor info key =>
      .progress "generic constructor" [
        ("class", .text info.name), ("base", .text info.base), ("id", .text key)]
  | genericDestructor className key =>
      .progress "generic destructor" [("class", .text className), ("id", .text key)]
  | registeringClass info =>
      .progress "registering class" [
        ("class", .text info.name), ("base", .text info.base), ("tool", .flag info.tool)]
  | registeringMethod className method =>
      .progress "registering method" [("class", .text className), ("method", .text method)]
  | registeringProperty className property =>
      .progress "registering property" [
        ("class", .text className), ("property", .text property)]
  | registeringSignal className signal =>
      .progress "registering signal" [("class", .text className), ("signal", .text signal)]
  | genericSet property => .progress "generic property set" [("property", .text property)]
  | genericGet property => .progress "generic property get" [("property", .text property)]

/-- What is reported before a call to the engine. -/
def Call.event : Call → Event
  | registerClass tool name base _ _ => .registeringClass ⟨name, base, tool⟩
  | registerMethod method => .registeringMethod method.className method.name
  | registerProperty className path _ _ _ => .registeringProperty className path
  | registerSignal signal => .registeringSignal signal.className signal.name

/-- A run of a supplied callback: the object, the text of the callback and the
text of the instance that it got. -/
inductive SuppliedRun where
  | create (object : Object) (data : String)
  | destroy (object : Object) (data user : String)
  | set (object : Object) (data user : String) (value : Variant)
  | get (object : Object) (data user : String)

/-! ## The state -/

/-- What lasts between calls. -/
structure Session where
  /-- The registrations that the engine has received. -/
  calls : List Call := []
  instances : Instances := .empty
  /-- The values in the slots of properties, by the numbers of the slots. -/
  slots : List Variant := []
  /-- The runs of supplied callbacks. -/
  runs : List SuppliedRun := []
  events : List Event := []

namespace Session

/-- Report an event. -/
def tell (session : Session) (event : Event) : Session :=
  { session with events := session.events ++ [event] }

/-- Record a run of a supplied callback. -/
def ran (session : Session) (run : SuppliedRun) : Session :=
  { session with runs := session.runs ++ [run] }

/-! ## Slots -/

/-- The value in a slot. -/
def slotValue (session : Session) (id : SlotId) : Variant :=
  session.slots[id]?.getD .nil

/-- Put a value into a slot. -/
def setSlot (session : Session) (id : SlotId) (value : Variant) : Session :=
  { session with slots := session.slots.set id value }

/-! ## Properties -/

/-- Make a property from its tags, with a slot of its own. -/
def newProperty (session : Session) (className name hint hintString usage rset : String) :
    Except RegistrationError (Property × Session) :=
  (PropertyAttributes.ofTags hint hintString usage rset).map fun attributes =>
    ({ className, name, attributes, slot := session.slots.length },
      { session with slots := session.slots ++ [.nil] })

/-- A property with a default value, which is also put into its slot. -/
def withDefault (session : Session) (property : Property) (value : Variant) :
    Property × Session :=
  ({ property with attributes := { property.attributes with defaultValue := value } },
    session.setSlot property.slot value)

/-- The value in the slot of a property. -/
def propertyValue (session : Session) (property : Property) : Variant :=
  session.slotValue property.slot

/-! ## Registration -/

/-- Register a class with the engine. -/
def register (session : Session) (nativeClass : Class) : Except RegistrationError Session :=
  nativeClass.calls.map fun calls =>
    { session with
      calls := session.calls ++ calls
      events := session.events ++ calls.map Call.event }

/-! ## Calls from the engine -/

/-- Make an instance; the answer identifies it from now on. -/
def create (session : Session) (callback : CreateCallback) (object : Object) :
    String × Session :=
  match callback.body with
  | .generic info =>
      let told := session.tell (.genericConstructor info object.key)
      (object.key, { told with instances := told.instances.insert object.key info })
  | .supplied answer => (answer object callback.data, session.ran (.create object callback.data))

/-- Dispose of an instance. -/
def destroy (session : Session) (callback : DestroyCallback) (object : Object)
    (user : String) : Session :=
  match callback.body with
  | .generic className =>
      let told := session.tell (.genericDestructor className user)
      { told with instances := told.instances.remove user }
  | .supplied => session.ran (.destroy object callback.data user)

/-- Call a method. -/
def invoke (callback : MethodCallback) (object : Object) (user : String)
    (arguments : List Variant) : Variant :=
  callback.answer object callback.data user arguments

/-- Write a property. -/
def set (session : Session) (callback : SetCallback) (object : Object) (user : String)
    (value : Variant) : Session :=
  match callback.body with
  | .slot id => (session.tell (.genericSet callback.data)).setSlot id value
  | .supplied => session.ran (.set object callback.data user value)

/-- Read a property. -/
def get (session : Session) (callback : GetCallback) (object : Object) (user : String) :
    Variant × Session :=
  match callback.body with
  | .slot id => (session.slotValue id, session.tell (.genericGet callback.data))
  | .supplied answer =>
      (answer object callback.data user, session.ran (.get object callback.data user))

end Session

end NativeScript.Native
