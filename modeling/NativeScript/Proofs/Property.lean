import NativeScript.Proofs.FieldTags
import NativeScript.Proofs.Marker
import NativeScript.Proofs.Member
import NativeScript.Scan.Member

/-!
# What fields give to a class

Every named field of a class but the base field may declare a property.  It is
read in steps that each may end it: its tags, its kind, its export marker and,
for a field that is public or exported, the values of its tags.
-/

namespace NativeScript.Scan

open Entry (Property)
open Outcome (Exact)
open Source (Field Struct)

/-! ## One field -/

/-- What the tags of a field say. -/
def tagsOf (config : Config) (field : Field) : FieldTags :=
  FieldTags.attributesSay config.tagAttribute field.attributes

/-- Whether a field is kept from being a property. -/
def IsIgnored (config : Config) (field : Field) : Prop :=
  ∃ item ∈ field.attributes, FieldTags.IsKeepOut config.tagAttribute item

/-- Whether a kind is that of a signal. -/
def isSignalKind (config : Config) (kind : Kind) : Bool :=
  kind.isMemberOf config.bindingSpace config.signalType

/-- A field that is a property if it is public or exported: it is not kept out,
and its type has a kind that is not that of a signal. -/
def MayBeProperty (config : Config) (field : Field) : Prop :=
  ¬ IsIgnored config field ∧
    ∃ kind, field.type.kind? = some kind ∧ isSignalKind config kind = false

/-- A field that can be read: its tags can, and if it may be a property, so can
its export marker and the values of its tags. -/
structure FieldSound (config : Config) (field : Field) : Prop where
  tags : ∀ item ∈ field.attributes, FieldTags.AttributeReadable config.tagAttribute item
  exported : MayBeProperty config field → AliasReadable config "export" field.attributes
  values : MayBeProperty config field →
    field.isPublic = true ∨ HasMarker config "export" field.attributes →
    (tagsOf config field).ValuesKnown

/-- The property that a field declares, without what its tags say. -/
def plainProperty (config : Config) (className : String) (field : Field) (kind : Kind) :
    Property where
  className
  name := field.name
  exposedAs := exportAlias? config field.attributes
  kind

/-- The property that a field of a class declares, if it declares one. -/
def property? (config : Config) (className : String) (field : Field) : Option Property :=
  if (tagsOf config field).ignored then
    none
  else
    field.type.kind?.bind fun kind =>
      if !isSignalKind config kind && isAdmitted config field.isPublic field.attributes then
        some ((tagsOf config field).applied (plainProperty config className field kind))
      else
        none

/-- A field that may be a property is one if it is public or exported. -/
theorem readAdmitted_exact (config : Config) (className : String) (field : Field) (kind : Kind)
    (event : Event) :
    Exact
      (exportMarker? config field.attributes >>= fun export? =>
        (if field.isPublic || export?.isSome then do
          let property ← ofExcept <| (tagsOf config field).apply {
            className
            name := field.name
            exposedAs := export?.bind MarkerWords.exposedAs
            kind }
          tell event
          pure (some property)
        else
          pure none : Scan (Option Property)).outcome)
      (AliasReadable config "export" field.attributes ∧
        (isAdmitted config field.isPublic field.attributes = true →
          (tagsOf config field).ValuesKnown))
      (if isAdmitted config field.isPublic field.attributes then
        some ((tagsOf config field).applied (plainProperty config className field kind))
      else none) := by
  apply (markerWords?_exact config "export" field.attributes).bind
  intro readable
  change Exact
    (if isAdmitted config field.isPublic field.attributes then _ else _ : Scan _).outcome _ _
  by_cases admitted : isAdmitted config field.isPublic field.attributes = true
  · rw [if_pos admitted, if_pos admitted, outcome_bind]
    have exactTags := FieldTags.apply_exact (tagsOf config field)
      (plainProperty config className field kind)
    refine Exact.congr (exactTags.bind_ok rfl) ?_ fun _ => rfl
    simp [admitted]
  · rw [if_neg admitted, if_neg admitted]
    exact Exact.ok fun isAdmitted => absurd isAdmitted admitted

theorem fieldSound_iff {config : Config} {field : Field} :
    FieldSound config field ↔
      (∀ item ∈ field.attributes, FieldTags.AttributeReadable config.tagAttribute item) ∧
        (MayBeProperty config field →
          AliasReadable config "export" field.attributes ∧
            (isAdmitted config field.isPublic field.attributes = true →
              (tagsOf config field).ValuesKnown)) := by
  constructor
  · rintro ⟨tags, exported, values⟩
    exact ⟨tags, fun may => ⟨exported may, fun admitted => values may (isAdmitted_iff.mp admitted)⟩⟩
  · rintro ⟨tags, rest⟩
    exact ⟨tags, fun may => (rest may).1,
      fun may admitted => (rest may).2 (isAdmitted_iff.mpr admitted)⟩

theorem readProperty_exact (config : Config) (className : String) (field : Field) :
    Exact (readProperty config className field).outcome (FieldSound config field)
      (property? config className field) := by
  have exactTags := FieldTags.ofAttributes_exact config.tagAttribute className field.name
    field.attributes
  have ignored_iff : (tagsOf config field).ignored = true ↔ IsIgnored config field :=
    FieldTags.attributesSay_ignored_iff
  refine Exact.congr ?_ fieldSound_iff.symm fun _ => rfl
  unfold readProperty property?
  rw [outcome_bind]
  apply exactTags.bind
  intro readable
  change Exact (if (tagsOf config field).ignored then _ else _ : Scan _).outcome _ _
  by_cases ignored : (tagsOf config field).ignored = true
  · rw [if_pos ignored, if_pos ignored]
    exact Exact.ok fun may => absurd (ignored_iff.mp ignored) may.1
  · rw [if_neg ignored, if_neg ignored]
    have kept := mt ignored_iff.mpr ignored
    cases kindOf : field.type.kind? with
    | none => exact Exact.ok fun may => by simp [MayBeProperty, kindOf] at may
    | some kind =>
        change Exact (if isSignalKind config kind then _ else _ : Scan _).outcome _ _
        cases signal : isSignalKind config kind with
        | true =>
            simp only [signal, if_true, Option.bind_some]
            exact Exact.ok fun may => by simp [MayBeProperty, kindOf, signal] at may
        | false =>
            rw [if_neg Bool.false_ne_true, outcome_bind]
            have may : MayBeProperty config field := ⟨kept, kind, kindOf, signal⟩
            refine (readAdmitted_exact config className field kind _).congr ?_ fun _ => ?_
            · simp [may]
            · simp [signal]

/-! ## All fields -/

/-- The properties that the fields of a struct declare. -/
def propertiesOf (config : Config) (decl : Struct) : List Property :=
  (candidateFields config decl).filterMap (property? config decl.name)

/-- A field is read exactly if it is a named one and not the base field. -/
theorem mem_candidateFields_iff {config : Config} {decl : Struct} {field : Field} :
    field ∈ candidateFields config decl ↔
      ∃ fields index, decl.fields = .named fields ∧ fields[index]? = some field ∧
        baseIndex? config decl ≠ some index := by
  unfold candidateFields
  cases kind : decl.fields with
  | none => simp
  | numbered fields => simp
  | named fields =>
      cases base : baseIndex? config decl with
      | none => simp [List.mem_iff_getElem?]
      | some position =>
          constructor
          · intro member
            rcases List.mem_eraseIdx_iff_getElem?.mp member with ⟨index, other, found⟩
            exact ⟨fields, index, rfl, found, fun same => other (Option.some.inj same).symm⟩
          · rintro ⟨_, index, same, found, other⟩
            cases same
            refine List.mem_eraseIdx_iff_getElem?.mpr ⟨index, ?_, found⟩
            rintro rfl
            exact other rfl

theorem readProperties_exact (config : Config) (decl : Struct) :
    Exact (readProperties config decl.name decl).outcome
      (∀ field ∈ candidateFields config decl, FieldSound config field)
      (propertiesOf config decl) := by
  unfold readProperties propertiesOf
  rw [outcome_bind, outcome_mapM]
  have exactFields := Exact.mapM (candidateFields config decl) fun field _ =>
    readProperty_exact config decl.name field
  exact exactFields.bind_ok (by simp)

end NativeScript.Scan
