import NativeScript.Proofs.Acceptance
import NativeScript.Proofs.Kind.OfType

/-!
# The kinds in a registry

A registry records the kinds of parameters, results, properties and constructors.  Each
of them is the kind of a type in the package, perhaps with a class in place of `Self`, so
it is canonical: its written form is read back as the very same kind.
-/

namespace NativeScript

namespace Entry

/-- The kinds that a method records. -/
def Method.kinds (method : Method) : List Kind :=
  method.parameters.map Parameter.kind ++ method.results

/-- The kinds that a class records: those of its constructor, its methods and its
properties. -/
def Class.kinds (entry : Class) : List Kind :=
  entry.maker.toList.map Constructor.result ++ entry.methods.flatMap Method.kinds ++
    entry.properties.map Property.kind

end Entry

namespace Source

/-! ## The names in a package -/

/-- The names in the declaration of a struct: its own, and those in the types of its
fields. -/
def Struct.names (decl : Struct) : List String :=
  decl.name :: namesOfTypes decl.fields.types

/-- The names in the type of an input. -/
def Input.names : Input → List String
  | receiver _ => []
  | typed _ _ type => type.names

/-- The names in the types of a function, with that of the type that its `impl` block is
for. -/
def OwnedFunction.names (function : OwnedFunction) : List String :=
  function.owner.toList ++ function.decl.inputs.flatMap Input.names ++
    (function.decl.output.map TypeExpr.names).getD []

theorem identifiers_of_mem_namesOfTypes {types : List TypeExpr}
    (identifiers : Identifiers (namesOfTypes types)) {type : TypeExpr} (member : type ∈ types) :
    Identifiers type.names := by
  induction types with
  | nil => cases member
  | cons first types ih =>
      rw [namesOfTypes, identifiers_append_iff] at identifiers
      rcases List.mem_cons.mp member with rfl | later
      · exact identifiers.1
      · exact ih identifiers.2 later

/-- A result of a function is written in its output. -/
theorem identifiers_of_mem_spread {output type : TypeExpr} (identifiers : Identifiers output.names)
    (member : type ∈ output.spread) : Identifiers type.names := by
  fun_induction TypeExpr.spread output with
  | case1 elements => exact identifiers_of_mem_namesOfTypes identifiers member
  | case2 inner ih => exact ih identifiers member
  | case3 output => rwa [List.mem_singleton.mp member]

end Source

namespace Scan

open Entry (Constructor Method Parameter Property)
open Source (Field Function Identifiers Input OwnedFunction SourceUnit Struct TypeExpr)

/-- The names that a scan may record in kinds. -/
def Contents.names (contents : Contents) : List String :=
  contents.structs.flatMap Struct.names ++ contents.functions.flatMap OwnedFunction.names

/-- A list of names from several sources. -/
theorem identifiers_of_mem_flatMap {α : Type} {items : List α} {names : α → List String}
    (identifiers : Identifiers (items.flatMap names)) {item : α} (member : item ∈ items) :
    Identifiers (names item) := by
  intro name inside
  exact identifiers name (List.mem_flatMap.mpr ⟨item, member, inside⟩)

/-! ## The kinds of members -/

theorem identifiers_of_mem_results {function : OwnedFunction}
    (identifiers : Identifiers function.names) {type : TypeExpr}
    (member : type ∈ function.decl.results) : Identifiers type.names := by
  have ofOutput : Identifiers ((function.decl.output.map TypeExpr.names).getD []) :=
    (Source.identifiers_append_iff.mp identifiers).2
  unfold Function.results at member
  cases output : function.decl.output with
  | none =>
      rw [output] at member
      cases member
  | some written =>
      rw [output] at member ofOutput
      exact Source.identifiers_of_mem_spread ofOutput member

theorem canonical_resultKind {owner : Option String} (identifiers : Identifiers owner.toList)
    {type : TypeExpr} (ofType : Identifiers type.names) : (resultKind owner type).Canonical := by
  have canonical := type.canonical_kindOr ofType Kind.canonical_variant
  cases owner with
  | none => exact canonical
  | some owner => exact canonical.replaceSelf (identifiers owner List.mem_cons_self)

theorem canonical_constructorOf {function : OwnedFunction}
    (identifiers : Identifiers function.names) (className : String) :
    (constructorOf className function).result.Canonical := by
  have ofOwner : Identifiers function.owner.toList :=
    (Source.identifiers_append_iff.mp (Source.identifiers_append_iff.mp identifiers).1).1
  cases results : function.decl.results with
  | nil =>
      rw [constructorOf, results]
      exact Kind.canonical_variant
  | cons type types =>
      rw [constructorOf, results]
      have member : type ∈ function.decl.results := results ▸ List.mem_cons_self
      exact canonical_resultKind ofOwner (identifiers_of_mem_results identifiers member)

/-- A parameter has the kind of its type. -/
theorem canonical_of_readInput? {className method : String} (identifier : IsIdentifier className)
    {input : Input} (identifiers : Identifiers input.names) {parameter : Parameter}
    (read : readInput? className method input = some (.ok parameter)) :
    parameter.kind.Canonical := by
  cases input with
  | receiver inner => cases read
  | typed binding inner type =>
      cases binding with
      | none => cases read
      | some name =>
          cases found : type.kind? with
          | none => simp [readInput?, readParameter, found] at read
          | some kind =>
              simp only [readInput?, readParameter, found, Option.some.injEq,
                Except.ok.injEq] at read
              rw [← read]
              exact (type.canonical_of_kind? identifiers found).replaceSelf identifier

theorem value?_eq_some_iff {ε α : Type} {outcome : Except ε α} {value : α} :
    value? outcome = some value ↔ outcome = .ok value := by
  cases outcome <;> simp [value?]

theorem canonical_asMethod {className : String} (identifier : IsIdentifier className)
    {function : OwnedFunction} (identifiers : Identifiers function.names)
    (exposedAs : Option String) :
    ∀ kind ∈ (asMethod className exposedAs function.decl).kinds, kind.Canonical := by
  have ofInputs : Identifiers (function.decl.inputs.flatMap Input.names) :=
    (Source.identifiers_append_iff.mp (Source.identifiers_append_iff.mp identifiers).1).2
  rw [Method.kinds, List.forall_mem_append]
  constructor
  · intro kind member
    obtain ⟨parameter, isParameter, rfl⟩ := List.mem_map.mp member
    obtain ⟨outcome, isRead, isValue⟩ := List.mem_filterMap.mp isParameter
    obtain ⟨input, isInput, read⟩ := List.mem_filterMap.mp isRead
    rw [value?_eq_some_iff.mp isValue] at read
    exact canonical_of_readInput? identifier (identifiers_of_mem_flatMap ofInputs isInput) read
  · intro kind member
    obtain ⟨type, isResult, rfl⟩ := List.mem_map.mp member
    have ofType := identifiers_of_mem_results identifiers isResult
    exact (type.canonical_kindOr ofType Kind.canonical_variant).replaceSelf identifier

theorem kind?_of_property?_eq_some {config : Config} {className : String} {field : Field}
    {property : Property} (declares : property? config className field = some property) :
    field.type.kind? = some property.kind := by
  unfold property? at declares
  split at declares
  · cases declares
  · obtain ⟨kind, found, rest⟩ := Option.bind_eq_some_iff.mp declares
    split at rest
    · obtain rfl := Option.some.inj rest
      exact found
    · cases rest

theorem canonical_of_mem_propertiesOf {config : Config} {decl : Struct}
    (identifiers : Identifiers decl.names) {property : Property}
    (member : property ∈ propertiesOf config decl) : property.kind.Canonical := by
  have ofTypes : Identifiers (Source.namesOfTypes decl.fields.types) :=
    (Source.identifiers_cons_iff.mp identifiers).2
  obtain ⟨field, candidate, declares⟩ := List.mem_filterMap.mp member
  obtain ⟨fields, index, isNamed, found, _⟩ := mem_candidateFields_iff.mp candidate
  have isType : field.type ∈ decl.fields.types := by
    rw [isNamed]
    exact List.mem_map_of_mem (List.mem_of_getElem? found)
  exact field.type.canonical_of_kind? (Source.identifiers_of_mem_namesOfTypes ofTypes isType)
    (kind?_of_property?_eq_some declares)

/-! ## The kinds of a class -/

/-- What a class of a package with identifiers for names records is canonical. -/
theorem canonical_of_mem_kinds_classOf {config : Config} {contents : Contents} {decl : Struct}
    (identifiers : Identifiers contents.names) (isStruct : decl ∈ contents.structs) :
    ∀ kind ∈ (classOf config contents decl).kinds, kind.Canonical := by
  obtain ⟨ofStructs, ofFunctions⟩ := Source.identifiers_append_iff.mp identifiers
  have ofDecl : Identifiers decl.names := identifiers_of_mem_flatMap ofStructs isStruct
  have identifier : IsIdentifier decl.name := (Source.identifiers_cons_iff.mp ofDecl).1
  have ofFunction {function : OwnedFunction} (member : function ∈ contents.functions) :
      Identifiers function.names := identifiers_of_mem_flatMap ofFunctions member
  rw [Entry.Class.kinds, List.forall_mem_append, List.forall_mem_append]
  refine ⟨⟨?_, ?_⟩, ?_⟩
  · intro kind member
    obtain ⟨maker, bound, rfl⟩ := List.mem_map.mp member
    have isFirst : maker ∈ (makersOf config decl.name contents.functions).head? :=
      Option.mem_toList.mp bound
    obtain ⟨function, isNamed, rfl⟩ := List.mem_map.mp (List.mem_of_mem_head? isFirst)
    exact canonical_constructorOf (ofFunction (List.mem_of_mem_filter isNamed)) decl.name
  · intro kind member
    obtain ⟨method, bound, inside⟩ := List.mem_flatMap.mp member
    obtain ⟨function, isMethod, rfl⟩ := List.mem_map.mp bound
    exact canonical_asMethod identifier (ofFunction (List.mem_of_mem_filter isMethod)) _ kind
      inside
  · intro kind member
    obtain ⟨property, bound, rfl⟩ := List.mem_map.mp member
    exact canonical_of_mem_propertiesOf ofDecl bound

/-- The kind of a type is read back from its written form, before and after a class takes
the place of `Self` in it, and so is every kind in the registry of a scanned package. -/
theorem ofString_render_recorded :
    (∀ type : TypeExpr, Identifiers type.names → ∀ kind, type.kind? = some kind →
      Kind.ofString kind.render = .ok kind ∧
      ∀ owner, IsIdentifier owner →
        Kind.ofString (kind.replaceSelf owner).render = .ok (kind.replaceSelf owner)) ∧
    ∀ config units registry, Identifiers (Contents.ofUnits units).names →
      (package config units).outcome = .ok registry →
      ∀ entry ∈ registry.classes, ∀ kind ∈ entry.kinds, Kind.ofString kind.render = .ok kind := by
  constructor
  · intro type identifiers kind found
    have canonical := type.canonical_of_kind? identifiers found
    exact ⟨canonical.read_render, fun owner identifier =>
      (canonical.replaceSelf identifier).read_render⟩
  · intro config units registry identifiers isOk entry member kind recorded
    obtain ⟨_, rfl⟩ := (package_exact config units registry).mp isOk
    rw [classes_ofClasses] at member
    obtain ⟨decl, isClass, rfl⟩ := List.mem_map.mp member
    have isStruct := (mem_registered_iff.mp isClass).1
    exact (canonical_of_mem_kinds_classOf identifiers isStruct kind recorded).read_render

/-- A unit with a class whose members have kinds of every sort. -/
def crateUnit : SourceUnit where
  attributes := []
  items := [
    .struct {
      attributes := [docComment "godot::register"]
      name := "Crate"
      heading := []
      fields := .named [⟨[], true, "slots", .path false [.plain "std"]
        (.generic "HashMap" [
          .type (.pointer (.path false [] (.plain "str"))),
          .type (.slice (.path false [.plain "godot", .plain "nodes"] (.plain "Node2D")))])⟩] },
    .implementation {
      attributes := []
      heading := []
      owner := .path false [] (.plain "Crate")
      members := [.function {
        attributes := [docComment "godot::constructor(Crate)"]
        isPublic := false
        name := "make"
        heading := []
        inputs := []
        extra := []
        output := some (.path false [] (.generic "Box" [.type (.path false [] (.plain "Self"))]))
        body := [] }] }]

/-- The class, with a map of pointers to arrays of a name in two namespaces, and a pointer
in whose kind the class stands for `Self`. -/
def crateClass : Entry.Class where
  name := "Crate"
  maker := some ⟨"Crate", "make", .pointer (.named "Crate")⟩
  properties := [{
    className := "Crate"
    name := "slots"
    kind := .map (.pointer (.named "str"))
      (.array (.qualified (.qualified (.named "godot") "nodes") "Node2D")) }]

/-- Both kinds of the class are read back. -/
theorem ofString_render_recorded_crate :
    Identifiers (Contents.ofUnits [crateUnit]).names ∧
    (package {} [crateUnit]).outcome = .ok (.ofClasses [crateClass]) ∧
    (∀ kind ∈ crateClass.kinds, Kind.ofString kind.render = .ok kind) ∧
    Kind.ofString "*Self" = .ok (.pointer (.named "Self")) ∧
    Kind.ofString "*Crate" = .ok (.pointer (.named "Crate")) := by
  have identifiers : Identifiers (Contents.ofUnits [crateUnit]).names := by decide
  have isOk : (package {} [crateUnit]).outcome = .ok (.ofClasses [crateClass]) := rfl
  have ofResult := ofString_render_recorded.1
    (.path false [] (.generic "Box" [.type (.path false [] (.plain "Self"))])) (by decide)
    (.pointer (.named "Self")) rfl
  exact ⟨identifiers, isOk,
    ofString_render_recorded.2 {} [crateUnit] _ identifiers isOk crateClass List.mem_cons_self,
    ofResult.1, ofResult.2 "Crate" (by decide)⟩

end Scan

end NativeScript
