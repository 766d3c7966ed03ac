import NativeScript.Proofs.Exposure
import NativeScript.Proofs.RecordedKinds
import NativeScript.Proofs.Signature

/-!
# The types that members are read from

Every kind in the members of a class is that of a type in the package.  A property has the
kind of the type of its field.  The parameters of a method have the kinds of those inputs of
its function that are plain bindings, and its results those of the results of the function,
all with the class in place of `Self`.
-/

namespace NativeScript.Source

/-- The type of an input that gives a parameter: a plain binding whose type has a kind. -/
def Input.parameterType? : Input → Option TypeExpr
  | typed (some _) _ type => if type.kind?.isSome then some type else none
  | _ => none

/-- The types of the inputs of a function that give parameters. -/
def Function.parameterTypes (decl : Function) : List TypeExpr :=
  decl.inputs.filterMap Input.parameterType?

end NativeScript.Source

namespace NativeScript.Scan

open Entry (Method Parameter Property)
open Source (Field Function Input OwnedFunction SourceUnit Struct TypeExpr functionAt_some_iff
  inOrder_functions)

/-! ## Methods -/

/-- The kind that a type is in a method of a class: its own, with the class in place of `Self`,
or that of a boxed value. -/
def methodKind (className : String) (type : TypeExpr) : Kind :=
  (type.kindOr .variant).replaceSelf className

theorem map_kind_parameters_asMethod (className : String) (exposedAs : Option String)
    (decl : Function) :
    (asMethod className exposedAs decl).parameters.map Parameter.kind =
      decl.parameterTypes.map (methodKind className) := by
  simp only [asMethod, readInputs, Function.parameterTypes, List.filterMap_filterMap,
    List.map_filterMap]
  apply congrArg (List.filterMap · decl.inputs)
  funext input
  cases input with
  | receiver inner => rfl
  | typed binding inner type =>
      cases binding with
      | none => rfl
      | some name =>
          cases found : type.kind? <;>
            simp [readInput?, readParameter, Input.parameterType?, methodKind, TypeExpr.kindOr,
              value?, found]

theorem kinds_asMethod (className : String) (exposedAs : Option String) (decl : Function) :
    (asMethod className exposedAs decl).kinds =
      (decl.parameterTypes ++ decl.results).map (methodKind className) := by
  rw [Method.kinds, map_kind_parameters_asMethod, List.map_append]
  rfl

/-- The methods of a class are its exposed members, in the order of their places. -/
theorem exists_members (config : Config) (units : List SourceUnit) (className : String) :
    ∃ members, InOrder (ExposedMemberAt config units className) members ∧
      methodsOf config className (units.flatMap SourceUnit.functions) =
        members.map fun member =>
          asMethod className (exportAlias? config member.attributes) member := by
  have inOrder := (inOrder_functions units).filter fun function =>
    isMethodOf className function &&
      isAdmitted config function.decl.isPublic function.decl.attributes
  refine ⟨_, (inOrder.filterMap (some ∘ OwnedFunction.decl)).congr ?_, ?_⟩
  · intro place member
    constructor
    · rintro ⟨⟨owner, other⟩, ⟨stands, passes⟩, same⟩
      obtain rfl := Option.some.inj same
      simp only [isMethodOf, Bool.and_eq_true, beq_iff_eq] at passes
      obtain ⟨⟨hasReceiver, rfl⟩, admitted⟩ := passes
      exact ⟨functionAt_some_iff.mp stands, isExposed_iff.mpr ⟨hasReceiver, admitted⟩⟩
    · rintro ⟨stands, exposed⟩
      obtain ⟨hasReceiver, admitted⟩ := isExposed_iff.mp exposed
      refine ⟨⟨some className, member⟩, ⟨functionAt_some_iff.mpr stands, ?_⟩, rfl⟩
      simp [isMethodOf, hasReceiver, admitted]
  · rw [List.filterMap_eq_map, List.map_map]
    rfl

/-! ## Classes -/

/-- All fields that are read for an accepted class can be read. -/
theorem Accepted.fieldSound {config : Config} {contents : Contents}
    (accepted : Accepted config contents) {decl : Struct}
    (isClass : decl ∈ registered config contents.structs) :
    ∀ field ∈ candidateFields config decl, FieldSound config field := by
  intro field isCandidate
  obtain ⟨fields, index, isNamed, isField, other⟩ := mem_candidateFields_iff.mp isCandidate
  exact (accepted.members decl isClass).fields fields index field isNamed isField other

/-- A class of a scanned package, with the one struct that begins it, those of its fields that
are properties, and the functions that are methods of the class. -/
structure IsReadOf (config : Config) (units : List SourceUnit) (entry : Entry.Class)
    (decl : Struct) (fields : List Field) (members : List Function) : Prop where
  begun : ∃ address, BegunAt config units entry.name address decl ∧
    ∀ other found, BegunAt config units entry.name other found → other = address ∧ found = decl
  exposed : InOrder (ExposedAt config decl) fields
  properties : List.Forall₂ (IsDeclaredBy config entry.name) fields entry.properties
  places : InOrder (ExposedMemberAt config units entry.name) members
  methods : entry.methods = members.map fun member =>
    asMethod entry.name (exportAlias? config member.attributes) member

theorem exists_isReadOf {config : Config} {units : List SourceUnit} {registry : Registry}
    (isOk : (package config units).outcome = .ok registry) {entry : Entry.Class}
    (member : entry ∈ registry.classes) :
    ∃ decl fields members, IsReadOf config units entry decl fields members := by
  obtain ⟨accepted, rfl⟩ := (package_exact config units registry).mp isOk
  rw [classes_ofClasses] at member
  obtain ⟨decl, isClass, rfl⟩ := List.mem_map.mp member
  obtain ⟨fields, exposed, properties⟩ := exists_exposed (accepted.fieldSound isClass)
  obtain ⟨members, places, methods⟩ := exists_members config units decl.name
  exact ⟨decl, fields, members, exists_begunAt accepted isClass, exposed, properties, places,
    methods⟩

end NativeScript.Scan
