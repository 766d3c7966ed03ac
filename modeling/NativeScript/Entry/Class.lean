import NativeScript.Entry.Member
import NativeScript.Scan.Error

/-!
# Registered classes

An entry collects what a scan finds of one class.  Constructor and destructor
can be set once, and a field binds at most one signal; methods and properties
are appended.
-/

namespace NativeScript.Entry

/-- A class that is to be registered, and everything bound to it. -/
structure Class where
  name : String
  /-- The engine class it extends, empty if none was found. -/
  base : String := ""
  exposedAs : Option String := none
  /-- Whether the class runs inside the editor as well. -/
  tool : Bool := false
  maker : Option Constructor := none
  disposer : Option Destructor := none
  methods : List Method := []
  properties : List Property := []
  signals : List Signal := []
deriving DecidableEq

namespace Class

/-! ## Names -/

/-- The name under which a class is registered: its alias, or its own name. -/
def registeredName (entry : Class) : String :=
  entry.exposedAs.getD entry.name

/-- The name of the generated function that prepares a class. -/
def initFunction (entry : Class) : String :=
  Entry.initFunction entry.name

/-! ## Binding members -/

/-- Bind the constructor of a class that has none. -/
def setConstructor (entry : Class) (maker : Constructor) : Except ScanError Class :=
  match entry.maker with
  | some first =>
      .error (.duplicateLifecycle .constructor entry.name first.function maker.function)
  | none => .ok { entry with maker := some maker }

/-- Bind the destructor of a class that has none. -/
def setDestructor (entry : Class) (disposer : Destructor) : Except ScanError Class :=
  match entry.disposer with
  | some first =>
      .error (.duplicateLifecycle .destructor entry.name first.function disposer.function)
  | none => .ok { entry with disposer := some disposer }

/-- Append a method. -/
def addMethod (entry : Class) (method : Method) : Class :=
  { entry with methods := entry.methods ++ [method] }

/-- Append a property. -/
def addProperty (entry : Class) (property : Property) : Class :=
  { entry with properties := entry.properties ++ [property] }

/-- Whether a signal is bound to a field. -/
def bindsField (entry : Class) (field : String) : Bool :=
  entry.signals.any (·.field == field)

/-- The class with a signal bound to its field, if the field has none yet. -/
def addSignal? (entry : Class) (signal : Signal) : Option Class :=
  if entry.bindsField signal.field then
    none
  else
    some { entry with signals := entry.signals ++ [signal] }

/-- Bind a signal to its field, unless the field has one already. -/
def addSignal (entry : Class) (signal : Signal) : Class :=
  (entry.addSignal? signal).getD entry

theorem name_of_addSignal?_eq_some {entry bound : Class} {signal : Signal}
    (isBound : entry.addSignal? signal = some bound) : bound.name = entry.name := by
  unfold addSignal? at isBound
  split at isBound
  · cases isBound
  · cases isBound
    rfl

theorem addSignal_of_taken {entry : Class} {signal : Signal}
    (taken : entry.bindsField signal.field = true) : entry.addSignal signal = entry := by
  simp [addSignal, addSignal?, taken]

theorem addSignal_of_free {entry : Class} {signal : Signal}
    (free : entry.bindsField signal.field = false) :
    entry.addSignal signal = { entry with signals := entry.signals ++ [signal] } := by
  simp [addSignal, addSignal?, free]

/-! ## Looking members up -/

/-- The first method of a name. -/
def findMethod? (entry : Class) (name : String) : Option Method :=
  entry.methods.find? (·.name == name)

/-- The first property of a name. -/
def findProperty? (entry : Class) (name : String) : Option Property :=
  entry.properties.find? (·.name == name)

/-- The first signal of a name. -/
def findSignal? (entry : Class) (name : String) : Option Signal :=
  entry.signals.find? (·.name == name)

/-! ## Summary -/

/-- The first line of a summary. -/
def headline (entry : Class) : String :=
  "class " ++ entry.name ++ (if entry.base.isEmpty then "" else "(" ++ entry.base ++ ")") ++
    (match entry.exposedAs with
      | some exposed => " as " ++ exposed
      | none => "") ++
    (if entry.tool then " [tool]" else "")

/-- A titled group of lines, left out when there are none. -/
def group (title : String) (lines : List String) : List String :=
  if lines.isEmpty then [] else ("    " ++ title ++ ":") :: lines.map ("        " ++ ·)

/-- The lines of a summary. -/
def summaryLines (entry : Class) : List String :=
  [entry.headline] ++
  group "properties" (entry.properties.map fun property =>
    property.name ++ ": " ++ property.kind.render ++ " (hint " ++ property.hint.name ++
      ", usage " ++ property.usage.render ++ ")") ++
  (entry.maker.toList.map fun maker => "    constructor: " ++ maker.signature) ++
  (entry.disposer.toList.map fun disposer => "    destructor: " ++ disposer.signature) ++
  group "methods" (entry.methods.map Method.signature) ++
  group "signals" (entry.signals.map fun signal => "signal " ++ signal.name)

/-- A summary of a class and its members, a line each. -/
def summary (entry : Class) : String :=
  String.join (entry.summaryLines.map (· ++ "\n"))

end Class

end NativeScript.Entry
