import NativeScript.Proofs.MemberTypes

/-!
# `Self` in recorded kinds

Outside of a class the name `Self` means nothing.  In the kinds of parameters and results the
class stands in its place, however deep it is nested.  The kind of a property is that of the
type of its field as it is written, so `Self` is in it exactly if it is in that type.
-/

namespace NativeScript.Kind

/-- A bare name stands somewhere in a kind: as the kind itself, or in what it points to, in its
elements, keys or values, or in its namespace. -/
def Mentions (name : String) : Kind → Prop
  | named other => other = name
  | pointer pointee => pointee.Mentions name
  | array element => element.Mentions name
  | map key value => key.Mentions name ∨ value.Mentions name
  | qualified space _ => space.Mentions name

/-- With a class in place of `Self`, a kind mentions the class instead, and every other name as
before. -/
theorem mentions_replaceSelf_iff {kind : Kind} {owner name : String} :
    (kind.replaceSelf owner).Mentions name ↔
      kind.Mentions selfName ∧ owner = name ∨ kind.Mentions name ∧ name ≠ selfName := by
  induction kind with
  | named other =>
      simp only [replaceSelf, Mentions]
      by_cases isSelf : other = selfName
      · rw [if_pos isSelf]
        constructor
        · exact fun same => Or.inl ⟨isSelf, same⟩
        · rintro (⟨_, same⟩ | ⟨same, notSelf⟩)
          · exact same
          · exact absurd (same ▸ isSelf) notSelf
      · rw [if_neg isSelf]
        constructor
        · exact fun same => Or.inr ⟨same, same ▸ isSelf⟩
        · rintro (⟨same, _⟩ | ⟨same, _⟩)
          · exact absurd same isSelf
          · exact same
  | pointer pointee ih => exact ih
  | array element ih => exact ih
  | map key value ihKey ihValue =>
      simp only [replaceSelf, Mentions, ihKey, ihValue, or_and_right]
      exact or_or_or_comm
  | qualified space member ih => exact ih

/-- A class that is itself not called `Self` leaves no `Self` behind. -/
theorem eq_selfName_of_mentions_replaceSelf {kind : Kind} {owner : String}
    (mentions : (kind.replaceSelf owner).Mentions selfName) : owner = selfName := by
  rcases mentions_replaceSelf_iff.mp mentions with ⟨_, same⟩ | ⟨_, notSelf⟩
  · exact same
  · exact absurd rfl notSelf

end NativeScript.Kind

namespace NativeScript.Scan

open Entry (Method Property)
open Source (Field SourceUnit TypeExpr)

/-- A name stands somewhere in the kind of a type. -/
def WritesName (name : String) (type : TypeExpr) : Prop :=
  ∃ kind, type.kind? = some kind ∧ kind.Mentions name

/-- Properties mention a name exactly if the types of the fields do that declare them. -/
theorem exists_property_mentions_iff {config : Config} {className name : String}
    {fields : List Field} {properties : List Property}
    (declared : List.Forall₂ (IsDeclaredBy config className) fields properties) :
    (∃ property ∈ properties, property.kind.Mentions name) ↔
      ∃ field ∈ fields, WritesName name field.type := by
  induction declared with
  | nil => simp
  | @cons field property fields properties isDeclared _ ih =>
      have sameKind : WritesName name field.type ↔ property.kind.Mentions name := by
        simp [WritesName, isDeclared.kind]
      simp only [List.mem_cons, exists_eq_or_imp, ih, sameKind]

/-- Where `Self` stands in a kind, at any depth, a class can be put in its place, and no other
name changes.  A class of a scanned package does so in all kinds of its methods, none of which
mentions `Self` then.  It does not in the kinds of its properties: one of them mentions `Self`
exactly if the type of an exposed field does. -/
theorem package_selfName (config : Config) :
    (∀ (kind : Kind) (owner name : String), (kind.replaceSelf owner).Mentions name ↔
      kind.Mentions Kind.selfName ∧ owner = name ∨ kind.Mentions name ∧ name ≠ Kind.selfName) ∧
    ∀ units registry, (package config units).outcome = .ok registry →
      ∀ entry ∈ registry.classes, ∃ decl fields members,
        IsReadOf config units entry decl fields members ∧
        entry.methods.map Method.kinds = (members.map fun member =>
          (member.parameterTypes ++ member.results).map (methodKind entry.name)) ∧
        (∀ method ∈ entry.methods, ∀ kind ∈ method.kinds,
          kind.Mentions Kind.selfName → entry.name = Kind.selfName) ∧
        ((∃ property ∈ entry.properties, property.kind.Mentions Kind.selfName) ↔
          ∃ field ∈ fields, WritesName Kind.selfName field.type) := by
  refine ⟨fun kind owner name => Kind.mentions_replaceSelf_iff, ?_⟩
  intro units registry isOk entry member
  obtain ⟨decl, fields, members, isRead⟩ := exists_isReadOf isOk member
  have recorded : entry.methods.map Method.kinds = members.map fun member =>
      (member.parameterTypes ++ member.results).map (methodKind entry.name) := by
    rw [isRead.methods, List.map_map]
    exact List.map_congr_left fun member _ => kinds_asMethod _ _ member
  refine ⟨decl, fields, members, isRead, recorded, ?_,
    exists_property_mentions_iff isRead.properties⟩
  intro method isMethod kind isKind mentions
  have isRecorded : method.kinds ∈ entry.methods.map Method.kinds := List.mem_map_of_mem isMethod
  rw [recorded] at isRecorded
  obtain ⟨function, _, same⟩ := List.mem_map.mp isRecorded
  rw [← same] at isKind
  obtain ⟨type, _, rfl⟩ := List.mem_map.mp isKind
  exact Kind.eq_selfName_of_mentions_replaceSelf mentions

/-- A unit with a class.  One of its fields and a method of it, in parameters and results,
name `Self` inside other types. -/
def linkUnit : SourceUnit where
  attributes := []
  items := [
    .struct ⟨[docComment "godot::register"], "Link", [], .named [
      ⟨[], true, "next", .pointer (plainType "Self")⟩,
      ⟨[], true, "size", plainType "i64"⟩]⟩,
    .implementation {
      attributes := []
      heading := []
      owner := plainType "Link"
      members := [.function {
        attributes := []
        isPublic := true
        name := "splice"
        heading := []
        inputs := [
          .receiver [],
          .typed (some "chain") [] (.slice (.pointer (plainType "Self"))),
          .typed (some "part") [] (.path false [.plain "Self"] (.plain "Part"))]
        extra := []
        output := some (.path false [] (.generic "HashMap" [
          .type (plainType "Self"), .type (.pointer (plainType "Self"))]))
        body := [] }] }]

/-- The class: its method is without `Self`, and its first property is not. -/
def linkClass : Entry.Class where
  name := "Link"
  methods := [{
    className := "Link"
    name := "splice"
    parameters := [
      ⟨"chain", .array (.pointer (.named "Link"))⟩,
      ⟨"part", .qualified (.named "Link") "Part"⟩]
    results := [.map (.named "Link") (.pointer (.named "Link"))] }]
  properties := [
    { className := "Link", name := "next", kind := .pointer (.named "Self") },
    { className := "Link", name := "size", kind := .named "i64" }]

/-- A property of the class mentions `Self` because the type of a field does. -/
theorem package_selfName_link :
    (package {} [linkUnit]).outcome = .ok (.ofClasses [linkClass]) ∧
    ∃ decl fields members,
      IsReadOf {} [linkUnit] linkClass decl fields members ∧
      linkClass.methods.map Method.kinds = (members.map fun member =>
        (member.parameterTypes ++ member.results).map (methodKind "Link")) ∧
      (∀ method ∈ linkClass.methods, ∀ kind ∈ method.kinds,
        kind.Mentions Kind.selfName → "Link" = Kind.selfName) ∧
      ((∃ property ∈ linkClass.properties, property.kind.Mentions Kind.selfName) ↔
        ∃ field ∈ fields, WritesName Kind.selfName field.type) := by
  have isOk : (package {} [linkUnit]).outcome = .ok (.ofClasses [linkClass]) := rfl
  exact ⟨isOk, (package_selfName {}).2 [linkUnit] _ isOk linkClass List.mem_cons_self⟩

/-- Not every kind in the methods and properties of a class is free of `Self`. -/
theorem exists_kind_mentions_selfName :
    ∃ units registry, (package {} units).outcome = .ok registry ∧
      ∃ entry ∈ registry.classes, entry.name ≠ Kind.selfName ∧
        ∃ kind ∈ entry.methods.flatMap Method.kinds ++ entry.properties.map Property.kind,
          kind.Mentions Kind.selfName :=
  ⟨[linkUnit], .ofClasses [linkClass], rfl, linkClass, List.mem_cons_self, by decide,
    .pointer (.named "Self"), by decide, rfl⟩

end NativeScript.Scan
