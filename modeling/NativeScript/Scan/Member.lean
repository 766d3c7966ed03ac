import NativeScript.Entry.Class
import NativeScript.Scan.Basic
import NativeScript.Scan.FieldTags
import NativeScript.Scan.Marker
import NativeScript.Scan.Shape
import NativeScript.Scan.SignalLiteral

/-!
# Members of a class

From every unit of a package a class takes the functions that are marked as its
constructor or destructor, the functions of its `impl` blocks that are public or
exported, and its signal literals.  Its properties are the fields of the struct
that carries the register marker.
-/

namespace NativeScript.Scan

open Entry (Method Parameter Property Signal)
open Source (Field Function Input OwnedFunction SourceUnit Struct TypeExpr)

/-! ## Constructor and destructor -/

/-- Bind a function as the constructor of a class, if a marker says so. -/
def bindConstructor (config : Config) (function : OwnedFunction) (entry : Entry.Class) :
    Scan Entry.Class := do
  let lines := docLines function.decl.attributes
  let targets ← ofExcept (lifecycleTargets config .constructor lines)
  if targets.contains entry.name then
    let maker ← ofExcept (asConstructor entry.name function)
    tell (.foundLifecycle .constructor entry.name maker.function)
    ofExcept (entry.setConstructor maker)
  else
    pure entry

/-- Bind a function as the destructor of a class, if a marker says so. -/
def bindDestructor (config : Config) (function : OwnedFunction) (entry : Entry.Class) :
    Scan Entry.Class := do
  let lines := docLines function.decl.attributes
  let targets ← ofExcept (lifecycleTargets config .destructor lines)
  if targets.contains entry.name then
    let disposer ← ofExcept (asDestructor entry.name function)
    tell (.foundLifecycle .destructor entry.name disposer.function)
    ofExcept (entry.setDestructor disposer)
  else
    pure entry

/-! ## Methods -/

/-- A parameter of a method of a class, or what is wrong with it. -/
def readParameter (className method : String) (binding : Option String) (type : TypeExpr) :
    Except Event Parameter :=
  match binding with
  | none => .error (.patternParameter className method)
  | some name =>
      match type.kind? with
      | none => .error (.kindlessParameter className method name)
      | some kind => .ok ⟨name, kind.replaceSelf className⟩

/-- An input of a method of a class, unless it is the receiver. -/
def readInput? (className method : String) : Input → Option (Except Event Parameter)
  | .receiver _ => none
  | .typed binding _ type => some (readParameter className method binding type)

/-- The inputs of a method of a class, without the receiver. -/
def readInputs (className : String) (decl : Function) : List (Except Event Parameter) :=
  decl.inputs.filterMap (readInput? className decl.name)

/-- The value of an outcome, if it has one. -/
def value? {ε α : Type} : Except ε α → Option α
  | .ok value => some value
  | .error _ => none

/-- The error of an outcome, if it has one. -/
def error? {ε α : Type} : Except ε α → Option ε
  | .ok _ => none
  | .error error => some error

/-- A function as a method of a class. -/
def asMethod (className : String) (exposedAs : Option String) (decl : Function) : Method where
  className
  name := decl.name
  exposedAs
  parameters := (readInputs className decl).filterMap value?
  results := decl.results.map fun type => (type.kindOr .variant).replaceSelf className

/-- Whether a function has a receiver and belongs to a class. -/
def isMethodOf (className : String) (function : OwnedFunction) : Bool :=
  function.decl.hasReceiver && function.owner == some className

/-- Bind a function as a method of a class, if it is one and is public or
exported. -/
def bindMethod (config : Config) (function : OwnedFunction) (entry : Entry.Class) :
    Scan Entry.Class := do
  if isMethodOf entry.name function then
    let export? ← ofExcept (exportMarker? config function.decl.attributes)
    if function.decl.isPublic || export?.isSome then
      let exposedAs := export?.bind MarkerWords.exposedAs
      tellAll ((readInputs entry.name function.decl).filterMap error?)
      tell (.foundMethod entry.name function.decl.name)
      pure (entry.addMethod (asMethod entry.name exposedAs function.decl))
    else
      pure entry
  else
    pure entry

/-- Bind a function as whatever it is to a class. -/
def bindFunction (config : Config) (entry : Entry.Class) (function : OwnedFunction) :
    Scan Entry.Class := do
  let entry ← bindConstructor config function entry
  let entry ← bindDestructor config function entry
  bindMethod config function entry

/-! ## Signals -/

/-- Bind a signal to its field, unless the field has one. -/
def bindSignal (entry : Entry.Class) (signal : Signal) : Scan Entry.Class := do
  match entry.addSignal? signal with
  | none => pure entry
  | some bound =>
      tell (.foundSignal entry.name signal.name)
      pure bound

/-- Bind the signal literals of a class in a unit. -/
def bindSignals (config : Config) (entry : Entry.Class) (unit : SourceUnit) : Scan Entry.Class := do
  let literals := signalLiterals config entry.name unit
  tellAll (literals.flatMap (SignalLiteral.warnings entry.name))
  (literals.filterMap SignalLiteral.signal?).foldlM bindSignal entry

/-- Bind what a unit holds of a class. -/
def bindUnit (config : Config) (entry : Entry.Class) (unit : SourceUnit) : Scan Entry.Class := do
  let entry ← unit.functions.foldlM (bindFunction config) entry
  bindSignals config entry unit

/-! ## Properties -/

/-- Whether a type is a path into the framework namespace. -/
def isFrameworkType (config : Config) : TypeExpr → Bool
  | .path _ (first :: _) _ => first.name == config.frameworkSpace
  | _ => false

/-- The index of the base field of a struct: the first one that is typed by a
path into the framework namespace. -/
def baseIndex? (config : Config) (decl : Struct) : Option Nat :=
  decl.fields.types.findIdx? (isFrameworkType config)

/-- The engine class that a struct extends, empty if it has no base field. -/
def baseName (config : Config) (decl : Struct) : String :=
  ((decl.fields.types.find? (isFrameworkType config)).bind TypeExpr.name?).getD ""

/-- The named fields of a struct, without the base field. -/
def candidateFields (config : Config) (decl : Struct) : List Field :=
  match decl.fields with
  | .named fields =>
      match baseIndex? config decl with
      | some index => fields.eraseIdx index
      | none => fields
  | _ => []

/-- The property that a field of a class declares, if it declares one. -/
def readProperty (config : Config) (className : String) (field : Field) :
    Scan (Option Property) := do
  let tags ← ofExcept <|
    FieldTags.ofAttributes config.tagAttribute className field.name field.attributes
  if tags.ignored then
    pure none
  else
    match field.type.kind? with
    | none => do
        tell (.kindlessField className field.name)
        pure none
    | some kind =>
        if kind.isMemberOf config.bindingSpace config.signalType then
          pure none
        else do
          let export? ← ofExcept (exportMarker? config field.attributes)
          if field.isPublic || export?.isSome then
            let property ← ofExcept <| tags.apply {
              className
              name := field.name
              exposedAs := export?.bind MarkerWords.exposedAs
              kind }
            tell (.foundProperty className field.name kind)
            pure (some property)
          else
            pure none

/-- The properties that the fields of a struct declare. -/
def readProperties (config : Config) (className : String) (decl : Struct) :
    Scan (List Property) := do
  let found ← (candidateFields config decl).mapM (readProperty config className)
  pure (found.filterMap id)

end NativeScript.Scan
