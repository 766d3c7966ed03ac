import NativeScript.Conversion
import NativeScript.Engine.PropertyHint
import NativeScript.Engine.PropertyUsage
import NativeScript.Engine.RpcMode
import NativeScript.Entry.Name

/-!
# Members of a registered class

What a scan finds of one class: its constructor and destructor, its methods with
their parameters and results, its properties and its signals.
-/

namespace NativeScript.Entry

open Engine (PropertyHint PropertyUsage RpcMode VariantType)

/-! ## Lifecycle functions -/

/-- The function that makes an instance of a class. -/
structure Constructor where
  className : String
  function : String
  /-- The kind of its result. -/
  result : Kind
deriving DecidableEq

/-- The head of a constructor's declaration. -/
def Constructor.signature (entry : Constructor) : String :=
  "fn " ++ entry.function ++ "() -> " ++ entry.result.render

/-- The function that disposes of an instance of a class. -/
structure Destructor where
  className : String
  function : String
deriving DecidableEq

/-- The head of a destructor's declaration. -/
def Destructor.signature (entry : Destructor) : String :=
  "fn " ++ entry.function ++ "()"

/-! ## Methods -/

/-- A parameter of a method. -/
structure Parameter where
  name : String
  kind : Kind
deriving DecidableEq

/-- A method of a class. -/
structure Method where
  className : String
  name : String
  exposedAs : Option String := none
  parameters : List Parameter := []
  results : List Kind := []
deriving DecidableEq

namespace Method

/-- The name under which the engine calls a method: its alias, or the name made
from the declared one. -/
def engineName (method : Method) : String :=
  method.exposedAs.getD (hookName method.name)

/-- The parameters of a method as text. -/
def parametersText (method : Method) : String :=
  ", ".intercalate (method.parameters.map fun parameter =>
    parameter.name ++ ": " ++ parameter.kind.render)

/-- The results of a method as text, in parentheses if there are several. -/
def resultsText (method : Method) : String :=
  match method.results with
  | [] => ""
  | [result] => result.render
  | results => "(" ++ ", ".intercalate (results.map Kind.render) ++ ")"

/-- The head of a method's declaration. -/
def signature (method : Method) : String :=
  let head := "fn " ++ method.name ++ "(" ++ method.parametersText ++ ")"
  if method.resultsText.isEmpty then head else head ++ " -> " ++ method.resultsText

/-- How a method is called. -/
def call (method : Method) : String :=
  method.name ++ "(" ++ ", ".intercalate (method.parameters.map Parameter.name) ++ ")"

/-- How the results of a method are boxed. -/
def boxing (method : Method) : Boxing :=
  Boxing.ofResults method.results

end Method

/-! ## Properties and signals -/

/-- A property of a class, with what its field tags say about it. -/
structure Property where
  className : String
  name : String
  exposedAs : Option String := none
  kind : Kind
  type : VariantType := kind.declaredType
  hint : PropertyHint := default
  hintString : String := ""
  usage : PropertyUsage := default
  rset : RpcMode := default
  /-- The name of its own reading function. -/
  getter : Option String := none
  /-- The name of its own writing function. -/
  setter : Option String := none
deriving DecidableEq

namespace Property

/-- The name under which a property is registered. -/
def registeredName (property : Property) : String :=
  property.exposedAs.getD property.name

/-- Whether a property has a reading or a writing function of its own. -/
def hasAccessors (property : Property) : Bool :=
  property.getter.isSome || property.setter.isSome

end Property

/-- A signal of a class, bound to a field by the literal that fills the field.
The arguments are kept as text. -/
structure Signal where
  name : String
  field : String
  arguments : List String := []
  defaults : List String := []
deriving DecidableEq

end NativeScript.Entry
