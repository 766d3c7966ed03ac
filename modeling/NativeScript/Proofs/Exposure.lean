import NativeScript.Proofs.Placement
import NativeScript.Proofs.Warning

/-!
# The properties of scanned classes

A class takes its properties from the fields of the one struct that carries its register
marker.  A field is passed over if it is the base field or kept out, if its type has no kind
or that of a signal, or if it is neither public nor exported; each other one is a property.
A field that is not passed over before its type is looked at, and whose type has no kind, is
warned of.
-/

namespace NativeScript.Scan

open Engine (PropertyHint PropertyUsage RpcMode)
open Entry (Property)
open Source (Field SourceUnit Struct StructAt TypeExpr inOrder_structs)

/-! ## The struct of a class -/

/-- The struct that begins a class stands at an address of a package. -/
structure BegunAt (config : Config) (units : List SourceUnit) (className : String)
    (address : List Nat) (decl : Struct) : Prop where
  stands : StructAt units address decl
  marked : HasMarker config "register" decl.attributes
  named : decl.name = className

/-- A class of a scanned package is begun by one struct, at one address. -/
theorem exists_begunAt {config : Config} {units : List SourceUnit}
    (accepted : Accepted config (.ofUnits units)) {decl : Struct}
    (isClass : decl ∈ registered config (units.flatMap SourceUnit.structs)) :
    ∃ address, BegunAt config units decl.name address decl ∧
      ∀ other found, BegunAt config units decl.name other found →
        other = address ∧ found = decl := by
  have inOrder := (inOrder_structs units).filter fun decl =>
    HasMarker config "register" decl.attributes
  rcases inOrder.unique accepted.names isClass with ⟨address, ⟨stands, marked⟩, only⟩
  refine ⟨address, ⟨stands, of_decide_eq_true marked, rfl⟩, ?_⟩
  rintro other found ⟨standsToo, markedToo, sameName⟩
  exact only other found ⟨standsToo, decide_eq_true markedToo⟩ sameName

/-! ## The fields that are read -/

/-- A path of several segments, the first of which is the framework namespace. -/
def IsFrameworkPath (config : Config) (type : TypeExpr) : Prop :=
  ∃ absolute first outer last,
    type = .path absolute (first :: outer) last ∧ first.name = config.frameworkSpace

theorem isFrameworkType_iff {config : Config} {type : TypeExpr} :
    isFrameworkType config type = true ↔ IsFrameworkPath config type := by
  constructor
  · intro isFramework
    unfold isFrameworkType at isFramework
    split at isFramework
    · rename_i absolute first outer last
      exact ⟨absolute, first, outer, last, rfl, eq_of_beq isFramework⟩
    · cases isFramework
  · rintro ⟨absolute, first, outer, last, rfl, sameName⟩
    exact beq_iff_eq.mpr sameName

/-- The base field: the first one that is typed by a path into the framework namespace. -/
structure IsBaseAt (config : Config) (fields : List Field) (place : Nat) : Prop where
  framework : ∃ field, fields[place]? = some field ∧ IsFrameworkPath config field.type
  first : ∀ earlier field, earlier < place → fields[earlier]? = some field →
    ¬ IsFrameworkPath config field.type

theorem baseIndex?_eq_some_iff {config : Config} {decl : Struct} {fields : List Field}
    (isNamed : decl.fields = .named fields) {place : Nat} :
    baseIndex? config decl = some place ↔ IsBaseAt config fields place := by
  rw [baseIndex?, isNamed, Source.Fields.types, List.findIdx?_eq_some_iff_getElem]
  simp only [List.length_map, List.getElem_map, isFrameworkType_iff]
  constructor
  · rintro ⟨inside, isFramework, earlierFail⟩
    refine ⟨⟨fields[place], List.getElem?_eq_getElem inside, isFramework⟩, ?_⟩
    intro earlier field before isField
    rcases List.getElem?_eq_some_iff.mp isField with ⟨_, rfl⟩
    exact earlierFail earlier before
  · rintro ⟨⟨field, isField, isFramework⟩, first⟩
    rcases List.getElem?_eq_some_iff.mp isField with ⟨inside, rfl⟩
    refine ⟨inside, isFramework, ?_⟩
    intro earlier before
    exact first earlier _ before (List.getElem?_eq_getElem (before.trans inside))

/-- A named field of a struct stands at a number and is not the base field. -/
def CandidateAt (config : Config) (decl : Struct) (place : Nat) (field : Field) : Prop :=
  ∃ fields, decl.fields = .named fields ∧ fields[place]? = some field ∧
    ¬ IsBaseAt config fields place

theorem candidateAt_iff {config : Config} {decl : Struct} {fields : List Field}
    (isNamed : decl.fields = .named fields) {place : Nat} {field : Field} :
    CandidateAt config decl place field ↔
      fields[place]? = some field ∧ baseIndex? config decl ≠ some place := by
  rw [Ne, baseIndex?_eq_some_iff isNamed]
  constructor
  · rintro ⟨others, isNamedToo, isField, notBase⟩
    rw [isNamed, Source.Fields.named.injEq] at isNamedToo
    subst isNamedToo
    exact ⟨isField, notBase⟩
  · rintro ⟨isField, notBase⟩
    exact ⟨fields, isNamed, isField, notBase⟩

theorem inOrder_candidateFields (config : Config) (decl : Struct) :
    InOrder (CandidateAt config decl) (candidateFields config decl) := by
  unfold candidateFields
  cases isFields : decl.fields with
  | named fields =>
      cases base : baseIndex? config decl with
      | none =>
          apply (InOrder.ofList fields).congr
          intro place field
          simp [candidateAt_iff isFields, base]
      | some index =>
          apply (InOrder.eraseIdx fields index).congr
          intro place field
          simp [candidateAt_iff isFields, base, eq_comm]
  | numbered fields | none =>
      apply InOrder.nil
      rintro place field ⟨others, isNamed, _⟩
      rw [isFields] at isNamed
      cases isNamed

/-! ## Properties -/

/-- A kind is that of a signal: the bare name of the signal type, or this name inside the
binding namespace. -/
def IsSignalKind (config : Config) (kind : Kind) : Prop :=
  kind = .named config.signalType ∨
    ∃ space, kind = .qualified space config.signalType ∧ space.render = config.bindingSpace

theorem isSignalKind_iff {config : Config} {kind : Kind} :
    isSignalKind config kind = true ↔ IsSignalKind config kind := by
  cases kind <;> simp [isSignalKind, Kind.isMemberOf, IsSignalKind]

/-- A field that is a property unless it is the base field: it is not kept out, its type has a
kind that is not that of a signal, and it is public or exported. -/
structure IsExposedField (config : Config) (field : Field) : Prop where
  kept : ¬ IsIgnored config field
  kind : ∃ kind, field.type.kind? = some kind ∧ ¬ IsSignalKind config kind
  admitted : field.isPublic = true ∨ HasMarker config "export" field.attributes

theorem tagsOf_ignored_iff {config : Config} {field : Field} :
    (tagsOf config field).ignored = true ↔ IsIgnored config field :=
  FieldTags.attributesSay_ignored_iff

theorem property?_isSome_iff {config : Config} {className : String} {field : Field} :
    (property? config className field).isSome = true ↔ IsExposedField config field := by
  unfold property?
  constructor
  · intro isProperty
    split at isProperty
    · cases isProperty
    · rename_i notIgnored
      rcases Option.isSome_iff_exists.mp isProperty with ⟨property, found⟩
      rcases Option.bind_eq_some_iff.mp found with ⟨kind, isKind, passes⟩
      split at passes
      · rename_i both
        rw [Bool.and_eq_true, Bool.not_eq_true', isAdmitted_iff] at both
        have notSignal := mt isSignalKind_iff.mpr (Bool.not_eq_true _ ▸ both.1)
        exact ⟨mt tagsOf_ignored_iff.mpr notIgnored, ⟨kind, isKind, notSignal⟩, both.2⟩
      · cases passes
  · rintro ⟨kept, ⟨kind, isKind, notSignal⟩, admitted⟩
    have noSignal := Bool.eq_false_iff.mpr (mt isSignalKind_iff.mp notSignal)
    rw [if_neg (mt tagsOf_ignored_iff.mp kept), isKind, Option.bind_some, noSignal,
      isAdmitted_iff.mpr admitted]
    rfl

/-- The value of a property that a tag with a closed set of values gives: what the text of
the tag names, or without the tag the default. -/
inductive Gives {α : Type} [Inhabited α] (ofTag? : String → Option α) :
    Option String → α → Prop
  | absent : Gives ofTag? none default
  | present {text : String} {value : α} (names : ofTag? text = some value) :
      Gives ofTag? (some text) value

theorem gives_of_known {α : Type} [Inhabited α] {ofTag? : String → Option α}
    {text? : Option String}
    (known : ∀ text, text? = some text → (ofTag? text).isSome = true) :
    Gives ofTag? text? ((text?.bind ofTag?).getD default) := by
  cases given : text? with
  | none => exact .absent
  | some text =>
      rcases Option.isSome_iff_exists.mp (known text given) with ⟨value, names⟩
      rw [Option.bind_some, names]
      exact .present names

/-- A property of a class is what a field declares: it has the name of the field, the alias
of the export marker and the kind of the type, and what the tags say or else the
defaults. -/
structure IsDeclaredBy (config : Config) (className : String) (field : Field)
    (property : Property) : Prop where
  className : property.className = className
  name : property.name = field.name
  exposedAs : property.exposedAs = exportAlias? config field.attributes
  kind : field.type.kind? = some property.kind
  type : property.type = property.kind.declaredType
  hint : Gives PropertyHint.ofTag? ((tagsOf config field).value? .hint) property.hint
  hintString : property.hintString = ((tagsOf config field).value? .hintString).getD ""
  usage : Gives PropertyUsage.ofTag? ((tagsOf config field).value? .usage) property.usage
  rset : Gives RpcMode.ofTag? ((tagsOf config field).value? .rset) property.rset
  getter : property.getter = (tagsOf config field).value? .getter
  setter : property.setter = (tagsOf config field).value? .setter

theorem isDeclaredBy_of_property?_eq_some {config : Config} {className : String} {field : Field}
    (sound : FieldSound config field) {property : Property}
    (isProperty : property? config className field = some property) :
    IsDeclaredBy config className field property := by
  have exposed := property?_isSome_iff.mp (Option.isSome_of_eq_some isProperty)
  rcases exposed.kind with ⟨kind, isKind, notSignal⟩
  have noSignal := Bool.eq_false_iff.mpr (mt isSignalKind_iff.mp notSignal)
  have known := sound.values ⟨exposed.kept, kind, isKind, noSignal⟩ exposed.admitted
  rw [property?, if_neg (mt tagsOf_ignored_iff.mp exposed.kept), isKind, Option.bind_some,
    noSignal, isAdmitted_iff.mpr exposed.admitted] at isProperty
  obtain rfl := Option.some.inj isProperty
  exact {
    className := rfl
    name := rfl
    exposedAs := rfl
    kind := isKind
    type := rfl
    hint := gives_of_known known.hint
    hintString := rfl
    usage := gives_of_known known.usage
    rset := gives_of_known known.rset
    getter := rfl
    setter := rfl }

/-- A field that is a property stands at a number in a struct. -/
def ExposedAt (config : Config) (decl : Struct) (place : Nat) (field : Field) : Prop :=
  CandidateAt config decl place field ∧ IsExposedField config field

/-- The properties of a struct are those of its exposed fields, in their order. -/
theorem exists_exposed {config : Config} {decl : Struct}
    (sound : ∀ field ∈ candidateFields config decl, FieldSound config field) :
    ∃ exposed, InOrder (ExposedAt config decl) exposed ∧
      List.Forall₂ (IsDeclaredBy config decl.name) exposed (propertiesOf config decl) := by
  have inOrder := inOrder_candidateFields config decl
  rcases inOrder.exists_forall₂ fun field isCandidate _ =>
    isDeclaredBy_of_property?_eq_some (sound field isCandidate) with ⟨exposed, places, declared⟩
  refine ⟨exposed, places.congr fun place field => ?_, declared⟩
  rw [property?_isSome_iff]
  rfl

/-! ## Fields without a kind -/

/-- A field without a kind stands at a number in a struct, and is neither the base field nor
kept out. -/
def KindlessAt (config : Config) (decl : Struct) (place : Nat) (field : Field) : Prop :=
  CandidateAt config decl place field ∧ ¬ IsIgnored config field ∧ field.type.kind? = none

theorem fieldWarning?_isSome_iff {config : Config} {className : String} {field : Field} :
    (fieldWarning? config className field).isSome = true ↔
      ¬ IsIgnored config field ∧ field.type.kind? = none := by
  rw [fieldWarning?, ← tagsOf_ignored_iff]
  cases (tagsOf config field).ignored <;> cases field.type.kind? <;> simp

theorem eq_of_fieldWarning?_eq_some {config : Config} {className : String} {field : Field}
    {event : Event} (isWarning : fieldWarning? config className field = some event) :
    .kindlessField className field.name = event := by
  unfold fieldWarning? at isWarning
  split at isWarning
  · cases isWarning
  · exact Option.some.inj isWarning

/-- The warnings of the fields of a struct are one for each field without a kind, in their
order. -/
theorem exists_kindless (config : Config) (decl : Struct) :
    ∃ kindless, InOrder (KindlessAt config decl) kindless ∧
      kindless.map (fun field => .kindlessField decl.name field.name) =
        fieldWarnings config decl := by
  have inOrder := inOrder_candidateFields config decl
  have isTold (field : Field) (_ : field ∈ candidateFields config decl) (event : Event) :
      fieldWarning? config decl.name field = some event →
        .kindlessField decl.name field.name = event :=
    eq_of_fieldWarning?_eq_some
  rcases inOrder.exists_forall₂ isTold with ⟨kindless, places, warned⟩
  refine ⟨kindless, places.congr fun place field => ?_, ?_⟩
  · rw [fieldWarning?_isSome_iff]
    rfl
  · exact List.forall₂_eq_eq_eq ▸ List.forall₂_map_left_iff.mpr warned

/-! ## Scanned classes -/

/-- A class of a scanned package is begun by one struct, at one address.  Its properties are
those that the exposed fields of this struct declare, in the order of the fields, and its
fields are warned of once for each one without a kind. -/
theorem package_properties {config : Config} {units : List SourceUnit} {registry : Registry}
    (isOk : (package config units).outcome = .ok registry) :
    ∀ entry ∈ registry.classes,
      ∃ address decl exposed kindless,
        BegunAt config units entry.name address decl ∧
        (∀ other found, BegunAt config units entry.name other found →
          other = address ∧ found = decl) ∧
        InOrder (ExposedAt config decl) exposed ∧
        List.Forall₂ (IsDeclaredBy config entry.name) exposed entry.properties ∧
        InOrder (KindlessAt config decl) kindless ∧
        (package config units).events.filter (warnsOf .field entry.name) =
          kindless.map fun field => .kindlessField entry.name field.name := by
  intro entry member
  rcases (package_exact config units registry).mp isOk with ⟨accepted, rfl⟩
  rw [classes_ofClasses] at member
  rcases List.mem_map.mp member with ⟨decl, isClass, rfl⟩
  have sound : ∀ field ∈ candidateFields config decl, FieldSound config field := by
    intro field isCandidate
    rcases mem_candidateFields_iff.mp isCandidate with ⟨fields, index, isNamed, isField, other⟩
    exact (accepted.members decl isClass).fields fields index field isNamed isField other
  have told := filter_events_package isOk isClass .field
  rw [filter_field_classWarnings] at told
  rcases exists_begunAt accepted isClass with ⟨address, begun, only⟩
  rcases exists_exposed sound with ⟨exposed, exposedPlaces, declared⟩
  rcases exists_kindless config decl with ⟨kindless, kindlessPlaces, warned⟩
  exact ⟨address, decl, exposed, kindless, begun, only, exposedPlaces, declared, kindlessPlaces,
    told.trans warned.symm⟩

/-- A type that is one plain name. -/
def plainType (name : String) : TypeExpr :=
  .path false [] (.plain name)

/-- A unit with a class.  Of its fields the first one is the base field, the second one is a
property although its type is of the framework too, the next three are kept out, a signal
and private, the next one has no kind, and the last one is exported. -/
def gateUnit : SourceUnit where
  attributes := []
  items := [.struct ⟨[docComment "godot::register"], "Gate", [], .named [
    ⟨[], true, "base", .path false [.plain "godot"] (.plain "Node")⟩,
    ⟨[], true, "other", .path false [.plain "godot"] (.plain "Area")⟩,
    ⟨[⟨.ofName "godot", .list [.word "skip"]⟩], true, "spare", plainType "i64"⟩,
    ⟨[], true, "opened", plainType "Signal"⟩,
    ⟨[], false, "hinge", plainType "i64"⟩,
    ⟨[], false, "lock", .tuple []⟩,
    ⟨[docComment "godot::export as speed",
      ⟨.ofName "godot", .list [.word "get", .mark '=' false, .literal "\"pace\""]⟩],
      false, "tempo", plainType "f32"⟩]⟩]

/-- A unit with a struct of the same name in a module, without a register marker. -/
def otherGateUnit : SourceUnit where
  attributes := []
  items := [.module [] [.struct ⟨[], "Gate", [], .named [⟨[], true, "stray", plainType "i64"⟩]⟩]]

/-- The class with the properties of the two fields that are not passed over. -/
def gateClass : Entry.Class where
  name := "Gate"
  base := "Node"
  properties := [
    { className := "Gate", name := "other", kind := .qualified (.named "godot") "Area" },
    { className := "Gate", name := "tempo", exposedAs := some "speed", kind := .named "f32"
      getter := some "pace" }]

/-- The properties come from the marked struct alone, and one of its fields is warned of. -/
theorem package_properties_gate :
    (package {} [gateUnit, otherGateUnit]).outcome = .ok (.ofClasses [gateClass]) ∧
    (package {} [gateUnit, otherGateUnit]).events.filter (warnsOf .field "Gate") =
      [.kindlessField "Gate" "lock"] ∧
    ∃ address decl exposed kindless,
      BegunAt {} [gateUnit, otherGateUnit] "Gate" address decl ∧
      (∀ other found, BegunAt {} [gateUnit, otherGateUnit] "Gate" other found →
        other = address ∧ found = decl) ∧
      InOrder (ExposedAt {} decl) exposed ∧
      List.Forall₂ (IsDeclaredBy {} "Gate") exposed gateClass.properties ∧
      InOrder (KindlessAt {} decl) kindless ∧
      (package {} [gateUnit, otherGateUnit]).events.filter (warnsOf .field "Gate") =
        kindless.map fun field => .kindlessField "Gate" field.name := by
  have isOk : (package {} [gateUnit, otherGateUnit]).outcome = .ok (.ofClasses [gateClass]) := rfl
  exact ⟨isOk, rfl, package_properties isOk gateClass List.mem_cons_self⟩

end NativeScript.Scan
