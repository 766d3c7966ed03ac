import Mathlib.Logic.ExistsUnique
import NativeScript.Proofs.Acceptance

/-!
# Constructors and destructors of scanned classes

A class has a constructor exactly if one function of the package is named as its
constructor, however many lines of that function say so, and a destructor likewise.
Functions are told apart by their places, so two of the same text are two.  What is
bound has the shape that its marker promises.
-/

namespace NativeScript.Scan

open Entry (Constructor Destructor)
open Source (OwnedFunction SourceUnit Struct)

/-! ## What a class is bound to -/

/-- A function at a place is named as a lifecycle function of a class. -/
structure NamedAt (config : Config) (lifecycle : Lifecycle) (className : String)
    (functions : List OwnedFunction) (place : Nat) (function : OwnedFunction) : Prop where
  found : functions[place]? = some function
  names : NamesClass config lifecycle className function.decl.attributes

/-- A slot is filled exactly if one function is named for it, and then by what this
function gives; it is empty exactly if no function is named. -/
structure SlotExact {α : Type} (named : Nat → OwnedFunction → Prop) (slot : Option α)
    (gives : OwnedFunction → α → Prop) : Prop where
  isSome_iff : slot.isSome = true ↔ ∃! place, ∃ function, named place function
  eq_none_iff : slot = none ↔ ∀ place function, ¬ named place function
  bound : ∀ value, slot = some value → ∀ place function, named place function →
    gives function value

/-- A constructor of a class is made of a function that takes nothing and returns one
pointer to the class. -/
structure GivesConstructor (className : String) (function : OwnedFunction)
    (maker : Constructor) : Prop where
  ofClass : maker.className = className
  ofFunction : maker.function = function.decl.name
  noReceiver : function.decl.hasReceiver = false
  noInputs : function.decl.inputs = []
  result : ∃ type, function.decl.results = [type] ∧ maker.result = resultKind function.owner type
  pointer : maker.result = .pointer (.named className) ∨
    ∃ space, maker.result = .pointer (.qualified space className)

/-- A destructor of a class is made of a function that takes and returns nothing. -/
structure GivesDestructor (className : String) (function : OwnedFunction)
    (disposer : Destructor) : Prop where
  ofClass : disposer.className = className
  ofFunction : disposer.function = function.decl.name
  noReceiver : function.decl.hasReceiver = false
  noInputs : function.decl.inputs = []
  noResults : function.decl.results = []

/-- The lifecycle functions of a class are those that markers name. -/
structure LifecycleExact (config : Config) (functions : List OwnedFunction)
    (entry : Entry.Class) : Prop where
  maker : SlotExact (NamedAt config .constructor entry.name functions) entry.maker
    (GivesConstructor entry.name)
  disposer : SlotExact (NamedAt config .destructor entry.name functions) entry.disposer
    (GivesDestructor entry.name)

/-! ## The shape of what is bound -/

theorem isPointerTo_iff {kind : Kind} {name : String} :
    kind.isPointerTo name = true ↔
      kind = .pointer (.named name) ∨ ∃ space, kind = .pointer (.qualified space name) := by
  cases kind with
  | pointer pointee => cases pointee <;> simp [Kind.isPointerTo, Kind.pointee?, Kind.tailName?]
  | _ => simp [Kind.isPointerTo, Kind.pointee?]

theorem hasReceiver_of_inputs_eq_nil {decl : Source.Function} (empty : decl.inputs = []) :
    decl.hasReceiver = false := by
  simp [Source.Function.hasReceiver, empty]

theorem givesConstructor_of_hasShape {className : String} {function : OwnedFunction}
    (shape : HasShape className function .constructor) :
    GivesConstructor className function (constructorOf className function) := by
  rcases shape with ⟨noInputs, type, results, isPointer⟩
  have result : (constructorOf className function).result = resultKind function.owner type := by
    simp [constructorOf, results]
  exact {
    ofClass := rfl
    ofFunction := rfl
    noReceiver := hasReceiver_of_inputs_eq_nil noInputs
    noInputs
    result := ⟨type, results, result⟩
    pointer := by rwa [result, ← isPointerTo_iff] }

theorem givesDestructor_of_hasShape {className : String} {function : OwnedFunction}
    (shape : HasShape className function .destructor) :
    GivesDestructor className function (destructorOf className function) where
  ofClass := rfl
  ofFunction := rfl
  noReceiver := hasReceiver_of_inputs_eq_nil shape.1
  noInputs := shape.1
  noResults := shape.2

/-! ## One place -/

variable {config : Config} {lifecycle : Lifecycle} {className : String}
  {functions : List OwnedFunction}

/-- Functions no two of which are named. -/
def NamedOnce (config : Config) (lifecycle : Lifecycle) (className : String)
    (functions : List OwnedFunction) : Prop :=
  functions.Pairwise fun first second =>
    ¬ (NamesClass config lifecycle className first.decl.attributes ∧
      NamesClass config lifecycle className second.decl.attributes)

theorem NamedAt.mem_named {place : Nat} {function : OwnedFunction}
    (namedAt : NamedAt config lifecycle className functions place function) :
    function ∈ named config lifecycle className functions := by
  unfold named
  simpa [List.mem_filter] using ⟨List.mem_of_getElem? namedAt.found, namedAt.names⟩

theorem exists_namedAt {function : OwnedFunction}
    (member : function ∈ named config lifecycle className functions) :
    ∃ place, NamedAt config lifecycle className functions place function := by
  rcases List.mem_filter.mp member with ⟨inside, names⟩
  rcases List.mem_iff_getElem?.mp inside with ⟨place, found⟩
  exact ⟨place, found, of_decide_eq_true names⟩

/-- If no two functions are named, those that are named stand at one place. -/
theorem NamedOnce.place_eq (once : NamedOnce config lifecycle className functions)
    {first second : Nat} {function other : OwnedFunction}
    (namedFirst : NamedAt config lifecycle className functions first function)
    (namedSecond : NamedAt config lifecycle className functions second other) :
    first = second := by
  rcases List.getElem?_eq_some_iff.mp namedFirst.found with ⟨insideFirst, rfl⟩
  rcases List.getElem?_eq_some_iff.mp namedSecond.found with ⟨insideSecond, rfl⟩
  have apart := List.pairwise_iff_getElem.mp once
  rcases Nat.lt_trichotomy first second with before | same | after
  · exact absurd ⟨namedFirst.names, namedSecond.names⟩ (apart _ _ _ _ before)
  · exact same
  · exact absurd ⟨namedSecond.names, namedFirst.names⟩ (apart _ _ _ _ after)

/-- If no two functions are named, the first one that is named fills the slot. -/
theorem NamedOnce.slotExact (once : NamedOnce config lifecycle className functions) {α : Type}
    {make : OwnedFunction → α} {gives : OwnedFunction → α → Prop}
    (fits : ∀ function ∈ functions,
      NamesClass config lifecycle className function.decl.attributes →
      gives function (make function)) :
    SlotExact (NamedAt config lifecycle className functions)
      ((named config lifecycle className functions).map make).head? gives := by
  cases candidates : named config lifecycle className functions with
  | nil =>
      have unnamed : ∀ place function,
          ¬ NamedAt config lifecycle className functions place function := by
        intro place function namedAt
        have member := namedAt.mem_named
        rw [candidates] at member
        cases member
      exact {
        isSome_iff := by
          simp only [List.map_nil, List.head?_nil, Option.isSome_none, Bool.false_eq_true,
            false_iff]
          rintro ⟨place, ⟨function, namedAt⟩, _⟩
          exact unnamed place function namedAt
        eq_none_iff := iff_of_true rfl unnamed
        bound := by simp }
  | cons function rest =>
      rcases exists_namedAt (candidates ▸ List.mem_cons_self) with ⟨place, namedAt⟩
      exact {
        isSome_iff := by
          refine iff_of_true rfl ⟨place, ⟨function, namedAt⟩, ?_⟩
          rintro other ⟨_, namedToo⟩
          exact once.place_eq namedToo namedAt
        eq_none_iff := iff_of_false (by simp) fun unnamed => unnamed place function namedAt
        bound := by
          intro value isBound other function' namedToo
          obtain rfl := once.place_eq namedToo namedAt
          obtain rfl := Option.some.inj (namedToo.found.symm.trans namedAt.found)
          obtain rfl := Option.some.inj isBound
          exact fits _ (List.mem_of_getElem? namedAt.found) namedAt.names }

/-! ## Scanned classes -/

theorem lifecycleExact_classOf {contents : Contents} {decl : Struct}
    (sound : MembersSound config contents decl) :
    LifecycleExact config contents.functions (classOf config contents decl) where
  maker := by
    have once : NamedOnce config .constructor decl.name contents.functions :=
      sound.single .constructor
    exact once.slotExact fun function member names =>
      givesConstructor_of_hasShape (sound.shape function member .constructor names)
  disposer := by
    have once : NamedOnce config .destructor decl.name contents.functions :=
      sound.single .destructor
    exact once.slotExact fun function member names =>
      givesDestructor_of_hasShape (sound.shape function member .destructor names)

/-- Every class of a scanned package has the lifecycle functions that markers name, and
a package in which two functions are named as one for a registered class is refused. -/
theorem package_lifecycle (config : Config) (units : List SourceUnit) :
    (∀ registry, (package config units).outcome = .ok registry → ∀ entry ∈ registry.classes,
      LifecycleExact config (units.flatMap SourceUnit.functions) entry) ∧
    ∀ decl ∈ registered config (units.flatMap SourceUnit.structs),
      ∀ lifecycle first second function other, first ≠ second →
        NamedAt config lifecycle decl.name (units.flatMap SourceUnit.functions) first function →
        NamedAt config lifecycle decl.name (units.flatMap SourceUnit.functions) second other →
        ∃ error, (package config units).outcome = .error error := by
  constructor
  · intro registry isOk entry member
    rcases (package_exact config units registry).mp isOk with ⟨accepted, rfl⟩
    rw [classes_ofClasses] at member
    rcases List.mem_map.mp member with ⟨decl, isClass, rfl⟩
    exact lifecycleExact_classOf (accepted.members decl isClass)
  · intro decl isClass lifecycle first second function other apart namedFirst namedSecond
    cases outcome : (package config units).outcome with
    | error error => exact ⟨error, rfl⟩
    | ok registry =>
        rcases (package_exact config units registry).mp outcome with ⟨accepted, _⟩
        have once : NamedOnce config lifecycle decl.name (units.flatMap SourceUnit.functions) :=
          (accepted.members decl isClass).single lifecycle
        exact absurd (once.place_eq namedFirst namedSecond) apart

/-- A registered struct. -/
def lampStruct : Struct where
  attributes := [docComment "godot::register"]
  name := "Lamp"
  heading := []
  fields := .none

/-- An `impl` block for that struct with a function that returns a pointer to it and has
lines before it. -/
def lampMaker (name : String) (lines : List String) : Source.Item :=
  .implementation {
    attributes := []
    heading := []
    owner := .path false [] (.plain "Lamp")
    members := [.function {
      attributes := lines.map docComment
      isPublic := false
      name
      heading := []
      inputs := []
      extra := []
      output := some (.pointer (.path false [] (.plain "Self")))
      body := [] }] }

/-- A unit in which two lines name one function as the constructor. -/
def lampUnit : SourceUnit where
  attributes := []
  items := [
    .struct lampStruct,
    lampMaker "make" ["godot::constructor(Lamp)", "GODOT::Constructor ( Lamp )"]]

/-- A unit in which another function is named as the constructor. -/
def spareUnit : SourceUnit where
  attributes := []
  items := [lampMaker "spare" ["godot::constructor(Lamp)"]]

/-- The class with its constructor. -/
def lampClass : Entry.Class where
  name := "Lamp"
  maker := some ⟨"Lamp", "make", .pointer (.named "Lamp")⟩

/-- A function that is marked twice is bound once, and a second function is refused. -/
theorem package_lifecycle_lamp :
    (package {} [lampUnit]).outcome = .ok (.ofClasses [lampClass]) ∧
    LifecycleExact {} lampUnit.functions lampClass ∧
    ∃ error, (package {} [lampUnit, spareUnit]).outcome = .error error := by
  have isOk : (package {} [lampUnit]).outcome = .ok (.ofClasses [lampClass]) := rfl
  have isClass : lampStruct ∈ registered {} ([lampUnit, spareUnit].flatMap SourceUnit.structs) :=
    List.mem_cons_self
  refine ⟨isOk, (package_lifecycle {} [lampUnit]).1 _ isOk lampClass List.mem_cons_self, ?_⟩
  exact (package_lifecycle {} [lampUnit, spareUnit]).2 lampStruct isClass .constructor 0 1 _ _
    (by decide) ⟨rfl, by decide⟩ ⟨rfl, by decide⟩

end NativeScript.Scan
