import NativeScript.Proofs.MemberTypes

/-!
# The namespace of the engine's value types

The conversion tables look at kinds alone.  The namespace whose members they know is a fixed
one: another namespace of value types, which a configuration may name, is none to them.  A
property, a parameter or a result typed by a member of a namespace is therefore converted as
what the member is in the fixed namespace if it stands in there, and as an unknown object if
it does not.
-/

namespace NativeScript

open Engine (VariantType)

/-! ## The entries of a kind -/

/-- What the conversion tables say of a kind: the type of a property, the accessor of a
parameter, and the boxing of a single result. -/
structure Conversions where
  type : VariantType
  accessor : Accessor
  boxing : Boxing
deriving DecidableEq

/-- The entries of a kind. -/
def Kind.conversions (kind : Kind) : Conversions :=
  ⟨kind.declaredType, .ofKind kind, .ofResults [kind]⟩

/-- The boxing of a result, by its family if it has one. -/
def Boxing.ofFamily : Option Builtin → Boxing
  | some .bool => bool
  | some .byte => uint
  | some .uint => uint
  | some .int => int
  | some .real => real
  | some .string => string
  | _ => raw

namespace Conversions

/-- The entries of a kind that the tables do not know. -/
def unknown : Conversions := ⟨.object, .object, .raw⟩

/-- The entries of a name, by its family if it has one. -/
def ofFamily (family : Option Builtin) : Conversions :=
  ⟨(family.map Builtin.type).getD .object, (family.map Accessor.ofBuiltin).getD .object,
    .ofFamily family⟩

/-- Objects have the entries of what is not known, and no other family has. -/
theorem ofFamily_eq_unknown_iff {family : Option Builtin} :
    ofFamily family = unknown ↔ family = none ∨ family = some (.value .object) := by
  constructor
  · intro isUnknown
    have isObject := congrArg Conversions.type isUnknown
    cases family with
    | none => exact Or.inl rfl
    | some family =>
        cases family with
        | value type => exact Or.inr (congrArg (some ∘ Builtin.value) isObject)
        | _ => cases isObject
  · rintro (rfl | rfl) <;> rfl

/-- The entries of a member of a namespace: those that it has in the fixed namespace if the
namespace is this one, or else those of what is not known. -/
def ofMember (space member : String) : Conversions :=
  if space = Kind.bindingSpace then (Kind.binding member).conversions else unknown

end Conversions

namespace Kind

theorem conversions_eq_ofFamily (space member : String) :
    (qualified (named space) member).conversions =
      .ofFamily (if space = bindingSpace then Builtin.ofName? member else none) :=
  rfl

theorem conversions_binding (member : String) :
    (binding member).conversions = .ofFamily (Builtin.ofName? member) := by
  rw [binding, conversions_eq_ofFamily, if_pos rfl]

theorem conversions_qualified (space member : String) :
    (qualified (named space) member).conversions = .ofMember space member := by
  rw [conversions_eq_ofFamily, Conversions.ofMember, conversions_binding]
  split <;> rfl

/-- A member of a namespace has the entries of the same member of the fixed one exactly if the
namespace is that, or the member is not known there or an object. -/
theorem conversions_qualified_eq_iff {space member : String} :
    (qualified (named space) member).conversions = (binding member).conversions ↔
      space = bindingSpace ∨ Builtin.ofName? member = none ∨
        Builtin.ofName? member = some (.value .object) := by
  rw [conversions_qualified, Conversions.ofMember, ← Conversions.ofFamily_eq_unknown_iff,
    ← conversions_binding]
  by_cases same : space = bindingSpace
  · simp [same]
  · simp [same, eq_comm]

end Kind

end NativeScript

namespace NativeScript.Scan

open Entry (Method Parameter Property)
open Source (Field Function SourceUnit TypeExpr)

/-! ## Members of a namespace in a package -/

/-- A type that is written as a member of a namespace. -/
def IsMemberType (space member : String) (type : TypeExpr) : Prop :=
  ∃ absolute, type = .path absolute [.plain space] (.plain member)

/-- What a name means inside a class. -/
def insideClass (className name : String) : String :=
  if name = Kind.selfName then className else name

theorem kind?_of_isMemberType {space member : String} {type : TypeExpr}
    (isMember : IsMemberType space member type) :
    type.kind? = some (.qualified (.named space) member) := by
  obtain ⟨absolute, rfl⟩ := isMember
  rfl

theorem methodKind_of_isMemberType {className space member : String} {type : TypeExpr}
    (isMember : IsMemberType space member type) :
    methodKind className type = .qualified (.named (insideClass className space)) member := by
  rw [methodKind, TypeExpr.kindOr, kind?_of_isMemberType isMember]
  rfl

/-- A property typed by a member of a namespace is declared as the tables say of it. -/
theorem type_of_isMemberType {config : Config} {className : String} {field : Field}
    {property : Property} (isDeclared : IsDeclaredBy config className field property)
    {space member : String} (isMember : IsMemberType space member field.type) :
    property.type = (Conversions.ofMember space member).type := by
  have isKind := Option.some.inj (isDeclared.kind.symm.trans (kind?_of_isMemberType isMember))
  rw [isDeclared.type, ← Kind.conversions_qualified, ← isKind]
  rfl

/-- A function that is a method takes the parameters and boxes the single result that are
typed by a member of a namespace as the tables say of it. -/
structure ConvertsMembers (function : Function) (method : Method) : Prop where
  parameters : List.Forall₂ (fun type parameter => ∀ space member,
      IsMemberType space member type →
        Accessor.ofKind parameter.kind =
          (Conversions.ofMember (insideClass method.className space) member).accessor)
    function.parameterTypes method.parameters
  result : ∀ type space member, function.results = [type] → IsMemberType space member type →
    method.boxing = (Conversions.ofMember (insideClass method.className space) member).boxing

theorem convertsMembers_asMethod (className : String) (exposedAs : Option String)
    (function : Function) : ConvertsMembers function (asMethod className exposedAs function) where
  parameters := by
    have kinds := map_kind_parameters_asMethod className exposedAs function
    rw [← List.forall₂_eq_eq_eq, List.forall₂_map_left_iff, List.forall₂_map_right_iff] at kinds
    refine (List.Forall₂.flip kinds).imp fun type parameter isKind space member isMember => ?_
    rw [isKind, methodKind_of_isMemberType isMember]
    exact congrArg Conversions.accessor (Kind.conversions_qualified _ member)
  result type space member isSingle isMember := by
    have kinds : (asMethod className exposedAs function).results = [methodKind className type] := by
      change function.results.map (methodKind className) = _
      rw [isSingle, List.map_singleton]
    rw [Method.boxing, kinds, methodKind_of_isMemberType isMember]
    exact congrArg Conversions.boxing (Kind.conversions_qualified _ member)

/-- The tables treat a member of a namespace like that of the fixed one exactly if the namespace
is this one, or if they do not tell the member from an unknown object.  The properties, the
parameters and the single results of a scanned class are converted by these tables, whatever
namespace is configured. -/
theorem package_conversions (config : Config) :
    (∀ space member, (Kind.qualified (.named space) member).conversions =
        (Kind.binding member).conversions ↔
      space = Kind.bindingSpace ∨ Builtin.ofName? member = none ∨
        Builtin.ofName? member = some (.value .object)) ∧
    ∀ units registry, (package config units).outcome = .ok registry →
      ∀ entry ∈ registry.classes, ∃ decl fields members,
        IsReadOf config units entry decl fields members ∧
        List.Forall₂ (fun field property => ∀ space member, IsMemberType space member field.type →
          property.type = (Conversions.ofMember space member).type) fields entry.properties ∧
        List.Forall₂ ConvertsMembers members entry.methods := by
  refine ⟨fun space member => Kind.conversions_qualified_eq_iff, ?_⟩
  intro units registry isOk entry isEntry
  obtain ⟨decl, fields, members, isRead⟩ := exists_isReadOf isOk isEntry
  refine ⟨decl, fields, members, isRead, ?_, ?_⟩
  · exact isRead.properties.imp fun field property isDeclared space member isMember =>
      type_of_isMemberType isDeclared isMember
  · rw [isRead.methods, List.forall₂_map_right_iff, List.forall₂_same]
    exact fun function _ => convertsMembers_asMethod _ _ function

/-- A configuration with a namespace of its own for value types. -/
def engineConfig : Config := { bindingSpace := "engine" }

/-- A unit with a class, whose field, parameter and result are typed by members of a
namespace. -/
def gaugeUnit (space : String) : SourceUnit where
  attributes := []
  items := [
    .struct ⟨[docComment "godot::register"], "Gauge", [], .named [
      ⟨[], true, "spot", .path false [.plain space] (.plain "Vector2")⟩]⟩,
    .implementation {
      attributes := []
      heading := []
      owner := plainType "Gauge"
      members := [.function {
        attributes := []
        isPublic := true
        name := "count"
        heading := []
        inputs := [
          .receiver [],
          .typed (some "step") [] (.path false [.plain space] (.plain "Int"))]
        extra := []
        output := some (.path false [.plain space] (.plain "Int"))
        body := [] }] }]

/-- The class, with the names of the namespace. -/
def gaugeClass (space : String) : Entry.Class where
  name := "Gauge"
  methods := [{
    className := "Gauge"
    name := "count"
    parameters := [⟨"step", .qualified (.named space) "Int"⟩]
    results := [.qualified (.named space) "Int"] }]
  properties := [
    { className := "Gauge", name := "spot", kind := .qualified (.named space) "Vector2" }]

/-- The fixed namespace is the one that counts also where another one is configured. -/
theorem package_conversions_gauge :
    (package engineConfig [gaugeUnit "gdnative"]).outcome =
      .ok (.ofClasses [gaugeClass "gdnative"]) ∧
    ∃ decl fields members,
      IsReadOf engineConfig [gaugeUnit "gdnative"] (gaugeClass "gdnative") decl fields members ∧
      List.Forall₂ (fun field property => ∀ space member, IsMemberType space member field.type →
          property.type = (Conversions.ofMember space member).type)
        fields (gaugeClass "gdnative").properties ∧
      List.Forall₂ ConvertsMembers members (gaugeClass "gdnative").methods := by
  have isOk : (package engineConfig [gaugeUnit "gdnative"]).outcome =
      .ok (.ofClasses [gaugeClass "gdnative"]) := rfl
  exact ⟨isOk, (package_conversions engineConfig).2 _ _ isOk _ List.mem_cons_self⟩

/-- A class that is typed by members of the configured namespace is not converted as if they
were those of the fixed one. -/
theorem exists_configured_conversions_ne :
    (package engineConfig [gaugeUnit engineConfig.bindingSpace]).outcome =
      .ok (.ofClasses [gaugeClass engineConfig.bindingSpace]) ∧
    (∃ property ∈ (gaugeClass engineConfig.bindingSpace).properties,
      property.kind = .qualified (.named engineConfig.bindingSpace) "Vector2" ∧
      property.type ≠ (Kind.binding "Vector2").declaredType) ∧
    ∃ method ∈ (gaugeClass engineConfig.bindingSpace).methods,
      (∃ parameter ∈ method.parameters,
        parameter.kind = .qualified (.named engineConfig.bindingSpace) "Int" ∧
        Accessor.ofKind parameter.kind ≠ .ofKind (.binding "Int")) ∧
      method.results = [.qualified (.named engineConfig.bindingSpace) "Int"] ∧
      method.boxing ≠ .ofResults [.binding "Int"] := by
  refine ⟨rfl, ⟨_, List.mem_cons_self, rfl, by decide⟩, _, List.mem_cons_self,
    ⟨_, List.mem_cons_self, rfl, by decide⟩, rfl, by decide⟩

end NativeScript.Scan
