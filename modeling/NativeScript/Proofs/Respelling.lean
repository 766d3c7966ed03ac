import NativeScript.Proofs.Diagnosis
import NativeScript.Proofs.RespelledMembers

/-!
# Packages with raw names

A name that is spelled raw comes out as it is spelled: as the name of a class, a method or a
property, on the side of the engine as well.  A new spelling of names therefore goes unnoticed
only where no class takes the names in, and the raw spelling of the reserved name is free.
-/

namespace NativeScript.Scan

open Entry (Method Property ShowsEscape)
open Source (AllRespelled Field Function OwnedFunction SourceUnit Struct inOrder_functions)

/-! ## What is left out of notice -/

/-- The signals that a class of a package binds, one to a field. -/
def boundSignals (config : Config) (className : String) (units : List SourceUnit) :
    List Entry.Signal :=
  (signalsOf config className (units.flatMap SourceUnit.records)).foldl Entry.Class.keepFirst []

/-- A function stays what it is to a class when names in it are spelled anew. -/
structure FunctionKept (config : Config) (className : String) (function other : OwnedFunction) :
    Prop where
  /-- If it is exposed, its `impl` block is for the class as before. -/
  owner : IsExposed config function.decl →
    (other.owner = some className ↔ function.owner = some className)
  /-- A method of the class keeps its name. -/
  method : function.owner = some className → IsExposed config function.decl →
    other.decl.name = function.decl.name
  /-- So does a constructor or destructor of the class. -/
  lifecycle : ∀ lifecycle, NamesClass config lifecycle className function.decl.attributes →
    other.decl.name = function.decl.name
  /-- A `Self` in the result of a constructor means the same type. -/
  result : NamesClass config .constructor className function.decl.attributes →
    ∀ type ∈ function.decl.results, (type.kindOr .variant).Mentions Kind.selfName →
      other.owner = function.owner

/-- A class stays what it is when names in a package are spelled anew. -/
structure ClassKept (config : Config) (units others : List SourceUnit) (decl other : Struct) :
    Prop where
  name : other.name = decl.name
  /-- Fields that are properties keep their names. -/
  fields : List.Forall₂
    (fun field changed => IsExposedField config field → changed.name = field.name)
    (candidateFields config decl) (candidateFields config other)
  functions : List.Forall₂ (FunctionKept config decl.name)
    (units.flatMap SourceUnit.functions) (others.flatMap SourceUnit.functions)
  signals : boundSignals config decl.name others = boundSignals config decl.name units

/-- Names in a package are spelled anew in such a way that a scan does not notice. -/
structure Unnoticed (config : Config) (units others : List SourceUnit) : Prop where
  classes : List.Forall₂ (ClassKept config units others)
    (registered config (units.flatMap SourceUnit.structs))
    (registered config (others.flatMap SourceUnit.structs))
  reserved : registered config (units.flatMap SourceUnit.structs) ≠ [] →
    ∀ function ∈ others.flatMap SourceUnit.functions, function.decl.name ≠ config.reservedInit

/-! ## One class -/

section Classes

variable {config : Config} {units others : List SourceUnit} {decl other : Struct}

theorem registerWords_of_respelled (config : Config) (respelled : decl.Respelled other) :
    registerWords config other = registerWords config decl := by
  obtain ⟨_, _, _, _, rfl⟩ := respelled
  rfl

theorem registered_respelled (config : Config) {decls others : List Struct}
    (respelled : List.Forall₂ Struct.Respelled decls others) :
    List.Forall₂ Struct.Respelled (registered config decls) (registered config others) := by
  refine List.rel_filter ?_ respelled
  rintro decl _ ⟨_, _, _, _, rfl⟩
  exact Iff.rfl

theorem registered_eq_nil_iff (config : Config) {decls others : List Struct}
    (respelled : List.Forall₂ Struct.Respelled decls others) :
    registered config others = [] ↔ registered config decls = [] := by
  have sameLength := (registered_respelled config respelled).length_eq
  rw [← List.length_eq_zero_iff, ← sameLength, List.length_eq_zero_iff]

/-- The same functions with other names give a class the same members exactly if each of them
stays what it is to the class. -/
theorem functionsKept_iff {className : String} {functions changed : List OwnedFunction}
    (respelled : List.Forall₂ OwnedFunction.Respelled functions changed)
    (shape : ∀ function ∈ functions, ∀ lifecycle,
      NamesClass config lifecycle className function.decl.attributes →
        HasShape className function lifecycle)
    (single : ∀ lifecycle, functions.Pairwise fun first second =>
      ¬ (NamesClass config lifecycle className first.decl.attributes ∧
        NamesClass config lifecycle className second.decl.attributes)) :
    (makersOf config className changed).head? = (makersOf config className functions).head? ∧
        (disposersOf config className changed).head? =
          (disposersOf config className functions).head? ∧
        methodsOf config className changed = methodsOf config className functions ↔
      List.Forall₂ (FunctionKept config className) functions changed := by
  have makers := head?_map_named_eq_iff (constructorOf className) respelled
    (atMostOne_map_named_iff.mpr (single .constructor))
  have disposers := head?_map_named_eq_iff (destructorOf className) respelled
    (atMostOne_map_named_iff.mpr (single .destructor))
  rw [makersOf, makersOf, makers, disposersOf, disposersOf, disposers, methodsOf_eq_iff respelled,
    ← forall₂_and_iff, ← forall₂_and_iff]
  apply forall₂_congr_of_forall₂ ((List.forall₂_and_left _ _).mpr ⟨shape, respelled⟩)
  rintro function other ⟨hasShape, here⟩
  rw [asMethod?_eq_iff here]
  constructor
  · rintro ⟨maker, disposer, owner, method⟩
    have makerKept (names) := (constructorOf_eq_iff here (hasShape .constructor names)).mp
      (maker names)
    refine ⟨owner, method, fun lifecycle names => ?_, fun names => (makerKept names).2⟩
    cases lifecycle with
    | constructor => exact (makerKept names).1
    | destructor => exact congrArg Entry.Destructor.function (disposer names)
  · rintro ⟨owner, method, lifecycle, result⟩
    refine ⟨fun names => ?_, fun names => ?_, owner, method⟩
    · exact (constructorOf_eq_iff here (hasShape .constructor names)).mpr
        ⟨lifecycle .constructor names, result names⟩
    · rw [destructorOf, lifecycle .destructor names]
      rfl

/-- A struct with other names becomes the same class exactly if the class stays what it is. -/
theorem classOf_eq_iff (respelled : AllRespelled units others) (sameDecl : decl.Respelled other)
    (sound : MembersSound config (.ofUnits units) decl) :
    classOf config (.ofUnits others) other = classOf config (.ofUnits units) decl ↔
      ClassKept config units others decl other := by
  have functions := functionsKept_iff respelled.functions sound.shape sound.single
  constructor
  · intro same
    have sameName : other.name = decl.name := congrArg Entry.Class.name same
    have sameFields := (propertiesOf_eq_iff sameDecl sameName).mp
      (congrArg Entry.Class.properties same)
    simp only [classOf, sameName, Entry.Class.mk.injEq] at same
    obtain ⟨_, _, _, _, maker, disposer, methods, _, signals⟩ := same
    exact ⟨sameName, sameFields, functions.mp ⟨maker, disposer, methods⟩, signals⟩
  · rintro ⟨sameName, sameFields, kept, signals⟩
    obtain ⟨maker, disposer, methods⟩ := functions.mpr kept
    have properties := (propertiesOf_eq_iff sameDecl sameName).mpr sameFields
    simp only [classOf, sameName, baseName_of_respelled config sameDecl,
      registerWords_of_respelled config sameDecl, properties, Entry.Class.mk.injEq, true_and]
    exact ⟨maker, disposer, methods, signals⟩

/-- A function that is a method in its new spelling alone is hidden, without an export marker
that could be wrong. -/
theorem FunctionKept.aliasReadable {className : String} {function changed : OwnedFunction}
    (kept : FunctionKept config className function changed)
    (respelled : function.Respelled changed) (isMethod : isMethodOf className changed = true)
    (readable : isMethodOf className function = true →
      AliasReadable config "export" function.decl.attributes) :
    AliasReadable config "export" changed.decl.attributes := by
  intro rest isFirst
  rw [attributes_of_respelled respelled] at isFirst
  have isOwner := kept.owner
  obtain ⟨owner, name, _, _, rfl⟩ := respelled
  simp only [isMethodOf, Bool.and_eq_true, beq_iff_eq] at isMethod
  have hasReceiver : function.decl.hasReceiver = true := isMethod.1
  have marked : HasMarker config "export" function.decl.attributes :=
    Option.isSome_of_eq_some isFirst
  have exposed := isExposed_iff.mpr ⟨hasReceiver, isAdmitted_iff.mpr (.inr marked)⟩
  refine readable ?_ rest isFirst
  rw [isMethodOf, hasReceiver, (isOwner exposed).mp isMethod.2, Bool.true_and, beq_self_eq_true]

theorem MembersSound.respelled (sound : MembersSound config (.ofUnits units) decl)
    (respelled : AllRespelled units others) (sameDecl : decl.Respelled other)
    (kept : ClassKept config units others decl other) :
    MembersSound config (.ofUnits others) other := by
  have pairs := forall₂_and_iff.mpr ⟨respelled.functions, kept.functions⟩
  refine ⟨?shape, ?single, ?exported, ?fields⟩
  case shape =>
    intro changed member lifecycle names
    obtain ⟨function, isFunction, here, same⟩ := exists_of_mem_of_forall₂ pairs member
    rw [kept.name] at names ⊢
    rw [attributes_of_respelled here] at names
    refine (sound.shape function isFunction lifecycle names).respelled here ?_
    rintro rfl
    exact same.result names
  case single =>
    intro lifecycle
    rw [kept.name]
    have single := atMostOne_map_named_respelled id respelled.functions
      (atMostOne_map_named_iff.mpr (sound.single lifecycle))
    exact atMostOne_map_named_iff.mp single
  case exported =>
    intro changed member isMethod
    obtain ⟨function, isFunction, here, same⟩ := exists_of_mem_of_forall₂ pairs member
    rw [kept.name] at isMethod
    exact same.aliasReadable here isMethod (sound.exported function isFunction)
  case fields =>
    intro fields index field isNamed isField notBase
    have isCandidate := mem_candidateFields_iff.mpr ⟨fields, index, isNamed, isField, notBase⟩
    obtain ⟨written, isWritten, name, _, rfl⟩ :=
      exists_of_mem_of_forall₂ (candidateFields_respelled config sameDecl) isCandidate
    obtain ⟨fields, index, isNamed, isField, notBase⟩ := mem_candidateFields_iff.mp isWritten
    exact (sound.fields fields index written isNamed isField notBase).rename name

end Classes

/-! ## Packages -/

section Packages

variable {config : Config} {units others : List SourceUnit} {registry : Registry}

theorem classesOf_eq_iff (respelled : AllRespelled units others)
    (accepted : Accepted config (.ofUnits units)) :
    classesOf config (.ofUnits units) = classesOf config (.ofUnits others) ↔
      List.Forall₂ (ClassKept config units others)
        (registered config (units.flatMap SourceUnit.structs))
        (registered config (others.flatMap SourceUnit.structs)) := by
  have pairs := registered_respelled config respelled.structs
  rw [classesOf, classesOf, map_eq_map_iff_forall₂]
  apply forall₂_congr_of_forall₂ ((List.forall₂_and_left _ _).mpr ⟨accepted.members, pairs⟩)
  rintro decl other ⟨sound, sameDecl⟩
  exact eq_comm.trans (classOf_eq_iff respelled sameDecl sound)

theorem Accepted.respelled (accepted : Accepted config (.ofUnits units))
    (respelled : AllRespelled units others) (unnoticed : Unnoticed config units others) :
    Accepted config (.ofUnits others) := by
  have pairs := forall₂_and_iff.mpr
    ⟨registered_respelled config respelled.structs, unnoticed.classes⟩
  have nonempty := (registered_eq_nil_iff config respelled.structs).not
  refine ⟨?markers, ?names, ?reserved, ?targets, ?members⟩
  case markers =>
    intro other member
    obtain ⟨decl, isDecl, _, _, _, _, rfl⟩ := exists_of_mem_of_forall₂ respelled.structs member
    exact accepted.markers decl isDecl
  case names =>
    have sameNames : (registered config (units.flatMap SourceUnit.structs)).map Struct.name =
        (registered config (others.flatMap SourceUnit.structs)).map Struct.name :=
      map_eq_map_iff_forall₂.mpr (unnoticed.classes.imp fun _ _ kept => kept.name.symm)
    exact sameNames ▸ accepted.names
  case reserved => exact fun isClass => unnoticed.reserved (nonempty.mp isClass)
  case targets =>
    intro isClass changed member lifecycle
    obtain ⟨function, isFunction, here⟩ := exists_of_mem_of_forall₂ respelled.functions member
    rw [attributes_of_respelled here]
    exact accepted.targets (nonempty.mp isClass) function isFunction lifecycle
  case members =>
    intro other isClass
    obtain ⟨decl, isDecl, sameDecl, kept⟩ := exists_of_mem_of_forall₂ pairs isClass
    exact (accepted.members decl isDecl).respelled respelled sameDecl kept

/-- A scanned package whose names are spelled anew gives the same registry exactly if that goes
unnoticed. -/
theorem package_eq_ok_iff_unnoticed (respelled : AllRespelled units others)
    (isOk : (package config units).outcome = .ok registry) :
    (package config others).outcome = .ok registry ↔ Unnoticed config units others := by
  obtain ⟨accepted, rfl⟩ := (package_exact config units registry).mp isOk
  have sameClasses := classesOf_eq_iff respelled accepted
  constructor
  · intro isOther
    obtain ⟨acceptedToo, same⟩ := (package_exact config others _).mp isOther
    have stillClasses := (registered_eq_nil_iff config respelled.structs).not.mpr
    exact ⟨sameClasses.mp (congrArg Registry.classes same),
      fun isClass => acceptedToo.reserved (stillClasses isClass)⟩
  · intro unnoticed
    refine (package_exact config others _).mpr ⟨accepted.respelled respelled unnoticed, ?_⟩
    rw [sameClasses.mpr unnoticed.classes]

/-! ## Raw names -/

/-- Without an alias, the names that the engine has of a class, its properties and its methods
show the escape of raw names where the declared ones have it. -/
structure ShowsEscapes (config : Config) (units : List SourceUnit) (entry : Entry.Class)
    (decl : Struct) (fields : List Field) (members : List Function) : Prop where
  isReadOf : IsReadOf config units entry decl fields members
  name : entry.exposedAs = none → ShowsEscape decl.name entry.registeredName
  properties : List.Forall₂
    (fun field property => property.exposedAs = none →
      ShowsEscape field.name property.registeredName) fields entry.properties
  methods : List.Forall₂
    (fun member method => method.exposedAs = none →
      ShowsEscape member.name method.engineName) members entry.methods

theorem showsEscape_registeredName {field : Field} {property : Property}
    (sameName : property.name = field.name) (plain : property.exposedAs = none) :
    ShowsEscape field.name property.registeredName := by
  rw [Property.registeredName, plain, Option.getD_none, sameName]
  exact Entry.showsEscape_self field.name

theorem showsEscape_engineName {method : Method} (plain : method.exposedAs = none) :
    ShowsEscape method.name method.engineName := by
  rw [Method.engineName, plain, Option.getD_none]
  exact Entry.showsEscape_hookName method.name

theorem IsReadOf.showsEscapes {entry : Entry.Class} {decl : Struct} {fields : List Field}
    {members : List Function} (isReadOf : IsReadOf config units entry decl fields members) :
    ShowsEscapes config units entry decl fields members where
  isReadOf
  name := by
    intro plain
    obtain ⟨_, begun, _⟩ := isReadOf.begun
    rw [Entry.Class.registeredName, plain, Option.getD_none, begun.named]
    exact Entry.showsEscape_self entry.name
  properties := isReadOf.properties.imp fun _ _ declared =>
    showsEscape_registeredName declared.name
  methods := by
    rw [isReadOf.methods, List.forall₂_map_right_iff]
    exact List.forall₂_same.mpr fun _ _ => showsEscape_engineName

/-- A name is reported as reserved only if it is spelled so. -/
theorem exists_of_package_eq_reservedName {name : String}
    (failed : (package config units).outcome = .error (.reservedName name)) :
    name = config.reservedInit ∧
      ∃ function ∈ units.flatMap SourceUnit.functions, function.decl.name = name := by
  cases diagnoses_of_package_eq_error failed with
  | reservedName stands taken =>
      exact ⟨rfl, _, (inOrder_functions units).mem_iff.mpr ⟨_, stands⟩, taken⟩
  | fieldTag begun stands wrong => cases wrong

end Packages

/-- A scan keeps names as they are spelled.  In a scanned package, the names that the engine has
are raw where the declared ones are; the package with other spellings of its names gives the
same registry exactly if that goes unnoticed; and only the spelling that is reserved is reported
as a reserved name. -/
theorem package_rawNames (config : Config) (units : List SourceUnit) :
    (∀ registry, (package config units).outcome = .ok registry →
      (∀ entry ∈ registry.classes, ∃ decl fields members,
        ShowsEscapes config units entry decl fields members) ∧
      ∀ others, AllRespelled units others →
        ((package config others).outcome = .ok registry ↔ Unnoticed config units others)) ∧
    ∀ name, (package config units).outcome = .error (.reservedName name) →
      name = config.reservedInit ∧
        ∃ function ∈ units.flatMap SourceUnit.functions, function.decl.name = name := by
  refine ⟨fun registry isOk => ⟨fun entry member => ?_, fun others respelled => ?_⟩,
    fun name => exists_of_package_eq_reservedName⟩
  · obtain ⟨decl, fields, members, isReadOf⟩ := exists_isReadOf isOk member
    exact ⟨decl, fields, members, isReadOf.showsEscapes⟩
  · exact package_eq_ok_iff_unnoticed respelled isOk

/-- A unit with a class of which a property and a method have raw names, and with names of their
own for a private field of it, for the type of its `impl` block and for a free function. -/
def slateUnit (hidden owner function : String) : SourceUnit where
  attributes := []
  items := [
    .struct ⟨[docComment "godot::register"], "Slate", [], .named [
      ⟨[], true, "r#type", plainType "i64"⟩,
      ⟨[], false, hidden, plainType "i64"⟩]⟩,
    .implementation {
      attributes := []
      heading := []
      owner := plainType owner
      members := [.function ⟨[], true, "r#match", [], [.receiver []], [], none, []⟩] },
    .function ⟨[], false, function, [], [], [], none, []⟩]

/-- The registry of such a unit, with these methods of the class. -/
def slateRegistry (methods : List Method) : Registry :=
  .ofClasses [{
    name := "Slate"
    methods
    properties := [{ className := "Slate", name := "r#type", kind := .named "i64" }] }]

/-- The method of the class with a raw name. -/
def slateMethod : Method where
  className := "Slate"
  name := "r#match"

theorem slateUnit_respelled {hidden owner function hiddenToo ownerToo functionToo : String}
    (sameField : Source.Respelled hidden hiddenToo) (sameOwner : Source.Respelled owner ownerToo)
    (sameFunction : Source.Respelled function functionToo) :
    AllRespelled [slateUnit hidden owner function]
      [slateUnit hiddenToo ownerToo functionToo] where
  structs := .cons ⟨"Slate", _, .same,
    .named (.cons ⟨"r#type", .same, rfl⟩ (.cons ⟨hiddenToo, sameField, rfl⟩ .nil)), rfl⟩ .nil
  functions := .cons ⟨some ownerToo, "r#match", .some sameOwner, .same, rfl⟩
    (.cons ⟨none, functionToo, .none, sameFunction, rfl⟩ .nil)

/-- Raw names of a private field and of a free function go unnoticed, and the reserved name of a
function does not. -/
theorem package_rawNames_slate :
    (package {} [slateUnit "draft" "Slate" "assist"]).outcome =
      .ok (slateRegistry [slateMethod]) ∧
    (∀ entry ∈ (slateRegistry [slateMethod]).classes, ∃ decl fields members,
      ShowsEscapes {} [slateUnit "draft" "Slate" "assist"] entry decl fields members) ∧
    AllRespelled [slateUnit "draft" "Slate" "assist"]
      [slateUnit "r#draft" "Slate" "r#assist"] ∧
    (package {} [slateUnit "r#draft" "Slate" "r#assist"]).outcome =
      .ok (slateRegistry [slateMethod]) ∧
    Unnoticed {} [slateUnit "draft" "Slate" "assist"] [slateUnit "r#draft" "Slate" "r#assist"] ∧
    (package {} [slateUnit "draft" "Slate" "godot_nativescript_init"]).outcome =
      .error (.reservedName "godot_nativescript_init") ∧
    ∃ function ∈ [slateUnit "draft" "Slate" "godot_nativescript_init"].flatMap
        SourceUnit.functions,
      function.decl.name = "godot_nativescript_init" := by
  have isOk : (package {} [slateUnit "draft" "Slate" "assist"]).outcome =
      .ok (slateRegistry [slateMethod]) := rfl
  have isOkToo : (package {} [slateUnit "r#draft" "Slate" "r#assist"]).outcome =
      .ok (slateRegistry [slateMethod]) := rfl
  have failed : (package {} [slateUnit "draft" "Slate" "godot_nativescript_init"]).outcome =
      .error (.reservedName "godot_nativescript_init") := rfl
  have respelled : AllRespelled [slateUnit "draft" "Slate" "assist"]
      [slateUnit "r#draft" "Slate" "r#assist"] :=
    slateUnit_respelled (.raw (by decide)) .same (.raw (by decide))
  obtain ⟨escapes, unnoticed⟩ := (package_rawNames {} _).1 _ isOk
  obtain ⟨_, taken⟩ := (package_rawNames {} _).2 _ failed
  exact ⟨isOk, escapes, respelled, isOkToo, (unnoticed _ respelled).mp isOkToo, failed, taken⟩

/-- The names of a property and a method have the escape on the side of the engine, the raw
spelling of the reserved name is free, and a class loses a method if the type of an `impl` block
is spelled raw. -/
theorem exists_rawName_kept :
    (package {} [slateUnit "draft" "Slate" "assist"]).outcome =
      .ok (slateRegistry [slateMethod]) ∧
    (∃ entry ∈ (slateRegistry [slateMethod]).classes,
      entry.properties.map Property.registeredName = ["r#type"] ∧
      entry.methods.map Method.engineName = ["r#match"]) ∧
    (package {} [slateUnit "draft" "Slate" "r#godot_nativescript_init"]).outcome =
      .ok (slateRegistry [slateMethod]) ∧
    AllRespelled [slateUnit "draft" "Slate" "assist"] [slateUnit "draft" "r#Slate" "assist"] ∧
    (package {} [slateUnit "draft" "r#Slate" "assist"]).outcome = .ok (slateRegistry []) ∧
    slateRegistry [] ≠ slateRegistry [slateMethod] :=
  ⟨rfl, ⟨_, List.mem_cons_self, rfl, rfl⟩, rfl,
    slateUnit_respelled .same (.raw (by decide)) .same, rfl, by decide⟩

end NativeScript.Scan
