import NativeScript.Proofs.Placement
import NativeScript.Proofs.Warning

/-!
# The methods of scanned classes

A class takes its methods from the functions of its `impl` blocks, wherever in a package these
stand: those that have a receiver and are public or exported.  The inputs of such a function
are walked in order, and each one but the receiver gives a parameter or a warning.  Its
results keep their order and their number.
-/

namespace NativeScript.Scan

open Entry (Method Parameter)
open Source (Function Input MemberAt OwnedFunction SourceUnit TypeExpr functionAt_some_iff
  inOrder_functions)

/-! ## Inputs -/

/-- What the inputs of a method of a class give, in order: a receiver gives nothing, a plain
binding whose type has a kind gives a parameter, and any other input a warning. -/
inductive InputsGive (className method : String) :
    List Input → List Parameter → List Event → Prop
  | nil : InputsGive className method [] [] []
  | receiver {inputs : List Input} {parameters : List Parameter} {warnings : List Event}
      (inner : List Source.Code) (rest : InputsGive className method inputs parameters warnings) :
      InputsGive className method (.receiver inner :: inputs) parameters warnings
  | parameter {inputs : List Input} {parameters : List Parameter} {warnings : List Event}
      {type : TypeExpr} {kind : Kind} (name : String) (inner : List Source.Code)
      (isKind : type.kind? = some kind)
      (rest : InputsGive className method inputs parameters warnings) :
      InputsGive className method (.typed (some name) inner type :: inputs)
        (⟨name, kind.replaceSelf className⟩ :: parameters) warnings
  | pattern {inputs : List Input} {parameters : List Parameter} {warnings : List Event}
      (inner : List Source.Code) (type : TypeExpr)
      (rest : InputsGive className method inputs parameters warnings) :
      InputsGive className method (.typed none inner type :: inputs) parameters
        (.patternParameter className method :: warnings)
  | kindless {inputs : List Input} {parameters : List Parameter} {warnings : List Event}
      {type : TypeExpr} (name : String) (inner : List Source.Code) (noKind : type.kind? = none)
      (rest : InputsGive className method inputs parameters warnings) :
      InputsGive className method (.typed (some name) inner type :: inputs) parameters
        (.kindlessParameter className method name :: warnings)

namespace InputsGive

variable {className method : String} {inputs : List Input} {parameters : List Parameter}
  {warnings : List Event}

/-- Every input but the receiver gives one parameter or one warning. -/
theorem length_add_length (gives : InputsGive className method inputs parameters warnings) :
    parameters.length + warnings.length =
      (inputs.filter fun input => !input.isReceiver).length := by
  induction gives with
  | nil => rfl
  | receiver inner _ ih => exact ih
  | parameter name inner _ _ ih | pattern inner type _ ih | kindless name inner _ _ ih =>
      rw [List.filter_cons_of_pos rfl, List.length_cons, List.length_cons, ← ih]
      omega

/-- What is read of inputs is what they give. -/
theorem read (className method : String) (inputs : List Input) :
    InputsGive className method inputs
      ((inputs.filterMap (readInput? className method)).filterMap value?)
      ((inputs.filterMap (readInput? className method)).filterMap error?) := by
  induction inputs with
  | nil => exact .nil
  | cons input inputs ih =>
      rw [List.filterMap_cons]
      cases input with
      | receiver inner => exact .receiver inner ih
      | typed binding inner type =>
          cases binding with
          | none => exact .pattern inner type ih
          | some name =>
              rw [readInput?, readParameter]
              cases found : type.kind? with
              | none => exact .kindless name inner found ih
              | some kind => exact .parameter name inner found ih

end InputsGive

/-! ## Results -/

/-- The types that one written result spreads out to: the elements of a tuple, also of one in
parentheses, or else the type itself. -/
inductive SpreadsTo : TypeExpr → List TypeExpr → Prop
  | tuple (elements : List TypeExpr) : SpreadsTo (.tuple elements) elements
  | paren {inner : TypeExpr} {types : List TypeExpr} (spreads : SpreadsTo inner types) :
      SpreadsTo (.paren inner) types
  | single {type : TypeExpr} (noTuple : ∀ elements, type ≠ .tuple elements)
      (noParen : ∀ inner, type ≠ .paren inner) : SpreadsTo type [type]

theorem spreadsTo_spread (type : TypeExpr) : SpreadsTo type type.spread := by
  cases type with
  | tuple elements => exact .tuple elements
  | paren inner => exact .paren (spreadsTo_spread inner)
  | _ =>
      apply SpreadsTo.single
      · intro elements same
        cases same
      · intro inner same
        cases same

/-- The types of the results of a function: none without a written result. -/
inductive ResultTypes : Option TypeExpr → List TypeExpr → Prop
  | none : ResultTypes none []
  | some {type : TypeExpr} {types : List TypeExpr} (spreads : SpreadsTo type types) :
      ResultTypes (some type) types

theorem resultTypes_results (decl : Function) : ResultTypes decl.output decl.results := by
  unfold Function.results
  cases decl.output with
  | none => exact .none
  | some type => exact .some (spreadsTo_spread type)

/-- The kind that a type becomes as a result of a method of a class: its own, with the class in
place of `Self`, or that of a boxed value if it has none. -/
inductive ResultKind (className : String) (type : TypeExpr) : Kind → Prop
  | resolved {kind : Kind} (isKind : type.kind? = some kind) :
      ResultKind className type (kind.replaceSelf className)
  | boxed (noKind : type.kind? = none) : ResultKind className type .variant

theorem resultKind_kindOr (className : String) (type : TypeExpr) :
    ResultKind className type ((type.kindOr .variant).replaceSelf className) := by
  unfold TypeExpr.kindOr
  cases found : type.kind? with
  | none => exact .boxed found
  | some kind => exact .resolved found

/-- Results keep their order and their number. -/
theorem forall₂_resultKind (className : String) (types : List TypeExpr) :
    List.Forall₂ (ResultKind className) types
      (types.map fun type => (type.kindOr .variant).replaceSelf className) := by
  induction types with
  | nil => exact .nil
  | cons type types ih => exact .cons (resultKind_kindOr className type) ih

/-! ## Methods -/

/-- A function that is a method where it is a member of an `impl` block: it has a receiver, and
it is public or exported. -/
structure IsExposed (config : Config) (decl : Function) : Prop where
  receiver : ∃ inner rest, decl.inputs = .receiver inner :: rest
  admitted : decl.isPublic = true ∨ HasMarker config "export" decl.attributes

theorem isExposed_iff {config : Config} {decl : Function} :
    IsExposed config decl ↔
      decl.hasReceiver = true ∧ isAdmitted config decl.isPublic decl.attributes = true := by
  rw [isAdmitted_iff]
  constructor
  · rintro ⟨⟨inner, rest, isInputs⟩, admitted⟩
    refine ⟨?_, admitted⟩
    rw [Function.hasReceiver, isInputs]
    rfl
  · rintro ⟨hasReceiver, admitted⟩
    refine ⟨?_, admitted⟩
    unfold Function.hasReceiver at hasReceiver
    cases isInputs : decl.inputs with
    | nil =>
        rw [isInputs] at hasReceiver
        cases hasReceiver
    | cons input rest =>
        rw [isInputs] at hasReceiver
        cases input with
        | receiver inner => exact ⟨inner, rest, rfl⟩
        | typed binding inner type => cases hasReceiver

/-- A method of a class, and the warnings about it, are what a function declares. -/
structure IsReadFrom (config : Config) (className : String) (decl : Function) (method : Method)
    (warnings : List Event) : Prop where
  sameClass : method.className = className
  sameName : method.name = decl.name
  sameAlias : method.exposedAs = exportAlias? config decl.attributes
  inputs : InputsGive className decl.name decl.inputs method.parameters warnings
  count : method.parameters.length + warnings.length =
    (decl.inputs.filter fun input => !input.isReceiver).length
  results : ∃ types, ResultTypes decl.output types ∧
    List.Forall₂ (ResultKind className) types method.results

theorem isReadFrom_asMethod (config : Config) (className : String) (decl : Function) :
    IsReadFrom config className decl
      (asMethod className (exportAlias? config decl.attributes) decl)
      (inputWarnings className decl) := by
  have inputs := InputsGive.read className decl.name decl.inputs
  exact {
    sameClass := rfl
    sameName := rfl
    sameAlias := rfl
    inputs
    count := inputs.length_add_length
    results := ⟨decl.results, resultTypes_results decl, forall₂_resultKind className decl.results⟩ }

/-- A method of a class stands at a place of a package: it is an exposed member of an `impl`
block for the class. -/
def ExposedMemberAt (config : Config) (units : List SourceUnit) (className : String)
    (place : List Nat ×ₗ Nat) (decl : Function) : Prop :=
  MemberAt units className place decl ∧ IsExposed config decl

/-- The method of a class that a function is, if it is one, and the warnings about it. -/
def method? (config : Config) (className : String) (function : OwnedFunction) :
    Option (Method × List Event) :=
  if isMethodOf className function &&
      isAdmitted config function.decl.isPublic function.decl.attributes then
    some (asMethod className (exportAlias? config function.decl.attributes) function.decl,
      inputWarnings className function.decl)
  else
    none

theorem method?_isSome_iff {config : Config} {className : String} {function : OwnedFunction} :
    (method? config className function).isSome = true ↔
      function.owner = some className ∧ IsExposed config function.decl := by
  rw [isExposed_iff, method?, isMethodOf]
  constructor
  · intro isMethod
    split at isMethod
    · rename_i passes
      simp only [Bool.and_eq_true, beq_iff_eq] at passes
      exact ⟨passes.1.2, passes.1.1, passes.2⟩
    · cases isMethod
  · rintro ⟨isOwner, hasReceiver, admitted⟩
    rw [hasReceiver, isOwner, admitted]
    simp

theorem isReadFrom_of_method?_eq_some {config : Config} {className : String}
    {function : OwnedFunction} {read : Method × List Event}
    (isMethod : method? config className function = some read) :
    IsReadFrom config className function.decl read.1 read.2 := by
  unfold method? at isMethod
  split at isMethod
  · obtain rfl := Option.some.inj isMethod
    exact isReadFrom_asMethod config className function.decl
  · cases isMethod

/-- The methods of a class are those of the exposed members of its `impl` blocks, in their
order. -/
theorem exists_exposedMembers (config : Config) (units : List SourceUnit) (className : String) :
    ∃ exposed, InOrder (ExposedMemberAt config units className) exposed ∧
      List.Forall₂ (fun decl read => IsReadFrom config className decl read.1 read.2) exposed
        ((units.flatMap SourceUnit.functions).filterMap (method? config className)) := by
  have isRead (function : OwnedFunction) (_ : function ∈ units.flatMap SourceUnit.functions)
      (read : Method × List Event) :
      method? config className function = some read →
        IsReadFrom config className function.decl read.1 read.2 :=
    isReadFrom_of_method?_eq_some
  rcases (inOrder_functions units).exists_forall₂ isRead with ⟨exposed, places, reads⟩
  refine ⟨exposed.map OwnedFunction.decl, ?_, List.forall₂_map_left_iff.mpr reads⟩
  rw [← List.filterMap_eq_map]
  apply (places.filterMap _).congr
  intro place decl
  constructor
  · rintro ⟨⟨owner, other⟩, ⟨stands, isMethod⟩, same⟩
    obtain rfl := Option.some.inj same
    rcases method?_isSome_iff.mp isMethod with ⟨rfl, exposed⟩
    exact ⟨functionAt_some_iff.mp stands, exposed⟩
  · rintro ⟨stands, exposed⟩
    exact ⟨⟨some className, decl⟩,
      ⟨functionAt_some_iff.mpr stands, method?_isSome_iff.mpr ⟨rfl, exposed⟩⟩, rfl⟩

theorem map_fst_filterMap_method? (config : Config) (className : String)
    (functions : List OwnedFunction) :
    (functions.filterMap (method? config className)).map Prod.fst =
      methodsOf config className functions := by
  rw [methodsOf, List.map_filterMap, ← List.filterMap_eq_map, List.filterMap_filter]
  apply congrArg (List.filterMap · functions)
  funext function
  unfold method?
  split <;> rfl

theorem flatMap_snd_filterMap_method? (config : Config) (className : String)
    (functions : List OwnedFunction) :
    (functions.filterMap (method? config className)).flatMap Prod.snd =
      functions.flatMap (methodWarnings config className) := by
  rw [List.filterMap_eq_flatMap_toList, List.flatMap_assoc]
  apply congrArg (List.flatMap · functions)
  funext function
  unfold method? methodWarnings
  split
  · simp
  · rfl

/-! ## Scanned classes -/

/-- The methods of a class of a scanned package are those of the exposed members of its `impl`
blocks, in the order of their places.  With each of them come the warnings about its inputs,
and these are all the warnings about parameters of the class. -/
theorem package_methods {config : Config} {units : List SourceUnit} {registry : Registry}
    (isOk : (package config units).outcome = .ok registry) :
    ∀ entry ∈ registry.classes,
      ∃ exposed reads,
        InOrder (ExposedMemberAt config units entry.name) exposed ∧
        List.Forall₂ (fun decl read => IsReadFrom config entry.name decl read.1 read.2)
          exposed reads ∧
        entry.methods = reads.map Prod.fst ∧
        (package config units).events.filter (warnsOf .parameter entry.name) =
          reads.flatMap Prod.snd := by
  intro entry member
  rcases (package_exact config units registry).mp isOk with ⟨_, rfl⟩
  rw [classes_ofClasses] at member
  rcases List.mem_map.mp member with ⟨decl, isClass, rfl⟩
  have told := filter_events_package isOk isClass .parameter
  rw [filter_parameter_classWarnings] at told
  rcases exists_exposedMembers config units decl.name with ⟨exposed, places, isRead⟩
  refine ⟨exposed, _, places, isRead, ?_, ?_⟩
  · exact (map_fst_filterMap_method? config decl.name _).symm
  · exact told.trans (flatMap_snd_filterMap_method? config decl.name _).symm

/-- A unit with a class and its `impl` block: a method with inputs and results that have no
kind, a private function, and one without a receiver. -/
def liftUnit : SourceUnit where
  attributes := []
  items := [
    .struct ⟨[docComment "godot::register"], "Lift", [], .none⟩,
    .implementation {
      attributes := []
      heading := []
      owner := .path false [] (.plain "Lift")
      members := [
        .function {
          attributes := []
          isPublic := true
          name := "climb"
          heading := []
          inputs := [
            .receiver [],
            .typed none [] (.tuple []),
            .typed (some "speed") [] (.path false [] (.plain "f64")),
            .typed (some "hook") [] (.other [])]
          extra := []
          output := some (.paren (.tuple [.other [], .path false [] (.plain "Self")]))
          body := [] },
        .function ⟨[], false, "creak", [], [.receiver []], [], none, []⟩,
        .function ⟨[], true, "build", [], [], [], none, []⟩] }]

/-- A unit with a module in which one more `impl` block for the class stands, with an exported
function, and one for another type. -/
def shaftUnit : SourceUnit where
  attributes := []
  items := [.module [] [
    .implementation {
      attributes := []
      heading := []
      owner := .path false [.plain "crate"] (.plain "Lift")
      members := [
        .function ⟨[docComment "godot::export as meets"], false, "meet", [],
          [.receiver [], .typed (some "other") [] (.pointer (.path false [] (.plain "Self")))],
          [], none, []⟩] },
    .implementation {
      attributes := []
      heading := []
      owner := .path false [] (.plain "Shaft")
      members := [.function ⟨[], true, "echo", [], [.receiver []], [], none, []⟩] }]]

/-- The class with the methods of both units. -/
def liftClass : Entry.Class where
  name := "Lift"
  methods := [
    { className := "Lift", name := "climb"
      parameters := [⟨"speed", .named "f64"⟩]
      results := [.variant, .named "Lift"] },
    { className := "Lift", name := "meet", exposedAs := some "meets"
      parameters := [⟨"other", .pointer (.named "Lift")⟩] }]

/-- The methods come from both units, and two inputs of the first one are warned of. -/
theorem package_methods_lift :
    (package {} [liftUnit, shaftUnit]).outcome = .ok (.ofClasses [liftClass]) ∧
    (package {} [liftUnit, shaftUnit]).events.filter (warnsOf .parameter "Lift") =
      [.patternParameter "Lift" "climb", .kindlessParameter "Lift" "climb" "hook"] ∧
    ∃ exposed reads,
      InOrder (ExposedMemberAt {} [liftUnit, shaftUnit] "Lift") exposed ∧
      List.Forall₂ (fun decl read => IsReadFrom {} "Lift" decl read.1 read.2) exposed reads ∧
      liftClass.methods = reads.map Prod.fst ∧
      (package {} [liftUnit, shaftUnit]).events.filter (warnsOf .parameter "Lift") =
        reads.flatMap Prod.snd := by
  have isOk : (package {} [liftUnit, shaftUnit]).outcome = .ok (.ofClasses [liftClass]) := rfl
  exact ⟨isOk, rfl, package_methods isOk liftClass List.mem_cons_self⟩

end NativeScript.Scan
