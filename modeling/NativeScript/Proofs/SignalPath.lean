import NativeScript.Proofs.MemberTypes
import NativeScript.Proofs.Signal

/-!
# Paths to the signal type

A path is seen to name the signal type in two ways.  A field is typed by a signal if the
namespace of its kind, taken as a whole, is the binding namespace.  A record literal is one of
a signal if the first segment of its path is.  The two ways differ on paths with more than one
segment before the name of the signal type: a field with such a path for a type is recorded
both as a property and as a signal, or as neither of the two.
-/

namespace NativeScript

namespace Source.Path

/-- A path without arguments, as a type. -/
def type (path : Path) : TypeExpr :=
  .path path.absolute (path.outer.map .plain) (.plain path.last)

/-- The kind of a path without arguments. -/
def kind (path : Path) : Kind :=
  .ofPath path.outer path.last

theorem kind?_type (path : Path) : path.type.kind? = some path.kind := by
  have allPlain : (path.outer.map Segment.plain).all Segment.isPlain = true := by
    simp [Segment.isPlain]
  have names : (path.outer.map Segment.plain).map Segment.name = path.outer := by
    simp [Segment.name, Function.comp_def]
  rw [type, TypeExpr.kind?, if_pos allPlain, names]
  rfl

/-- The namespace of a path, written as kinds write it. -/
def space (path : Path) : String :=
  ".".intercalate path.outer

/-- A namespace of several segments is not written as the first of them. -/
theorem space_ne_of_head? {path : Path} (isLong : 2 ≤ path.outer.length) {first : String}
    (isFirst : path.outer.head? = some first) : path.space ≠ first := by
  obtain ⟨absolute, outer, last, plain⟩ := path
  match outer with
  | head :: second :: rest =>
      obtain rfl := Option.some.inj isFirst
      intro same
      have sameLength := congrArg String.length same
      simp only [space, String.intercalate_cons_cons, String.length_append] at sameLength
      have dot : ".".length = 1 := rfl
      omega

end Source.Path

theorem Kind.render_foldl_qualified (spaces : List String) (start : Kind) :
    (spaces.foldl qualified start).render = ".".intercalate (start.render :: spaces) := by
  induction spaces generalizing start with
  | nil => rw [List.foldl_nil, String.intercalate_singleton]
  | cons space spaces ih =>
      rw [List.foldl_cons, ih, render, String.append_assoc, String.intercalate_cons_append,
        String.intercalate_cons_append, String.intercalate_cons_cons, String.append_assoc]

namespace Scan

open Source (Code Field Path SourceUnit Struct)
open Entry (Signal)

/-! ## The two ways -/

theorem isSignalKind_kind_iff {config : Config} {path : Path} :
    isSignalKind config path.kind = true ↔
      path.last = config.signalType ∧ (path.outer = [] ∨ path.space = config.bindingSpace) := by
  obtain ⟨absolute, outer, last, plain⟩ := path
  rw [isSignalKind_iff, IsSignalKind, Path.kind, Path.space]
  cases outer with
  | nil => simp [Kind.ofPath]
  | cons first spaces =>
      have rendered := Kind.render_foldl_qualified spaces (.named first)
      rw [Kind.render] at rendered
      simp [Kind.ofPath, ← rendered]

/-- A path that ends in the name of the signal type after more than one segment. -/
def IsDeepSignal (config : Config) (path : Path) : Prop :=
  path.last = config.signalType ∧ 2 ≤ path.outer.length

/-- On paths with at most one segment before the last one, both ways look at the same. -/
theorem namesSignal_iff_of_length_le {config : Config} {path : Path}
    (isShort : path.outer.length ≤ 1) :
    NamesSignal config path ↔ isSignalKind config path.kind = true := by
  rw [isSignalKind_kind_iff, NamesSignal, Path.space]
  match path.outer, isShort with
  | [], _ => simp
  | [only], _ => simp

/-- On longer paths, the one way looks at the first segment and the other one at all segments
before the last one. -/
theorem signal_iff_of_two_le {config : Config} {path : Path} (isLong : 2 ≤ path.outer.length) :
    (NamesSignal config path ↔
      path.last = config.signalType ∧ path.outer.head? = some config.bindingSpace) ∧
    (isSignalKind config path.kind = true ↔
      path.last = config.signalType ∧ path.space = config.bindingSpace) := by
  have notEmpty : path.outer ≠ [] := by
    intro isEmpty
    rw [isEmpty] at isLong
    exact absurd isLong (by decide)
  rw [isSignalKind_kind_iff, NamesSignal]
  exact ⟨and_congr_right fun _ => or_iff_right notEmpty,
    and_congr_right fun _ => or_iff_right notEmpty⟩

/-- A path is a signal to record literals and not to fields exactly if it is a deep one that
begins with the binding namespace. -/
theorem namesSignal_and_not_isSignalKind_iff {config : Config} {path : Path} :
    NamesSignal config path ∧ ¬ isSignalKind config path.kind = true ↔
      IsDeepSignal config path ∧ path.outer.head? = some config.bindingSpace := by
  by_cases isLong : 2 ≤ path.outer.length
  · rw [(signal_iff_of_two_le isLong).1, (signal_iff_of_two_le isLong).2]
    constructor
    · rintro ⟨⟨isSignal, isFirst⟩, _⟩
      exact ⟨⟨isSignal, isLong⟩, isFirst⟩
    · rintro ⟨⟨isSignal, _⟩, isFirst⟩
      exact ⟨⟨isSignal, isFirst⟩, fun isKind => Path.space_ne_of_head? isLong isFirst isKind.2⟩
  · rw [namesSignal_iff_of_length_le (by omega), and_not_self_iff, false_iff]
    exact fun isDeep => isLong isDeep.1.2

/-- A path is a signal to fields and not to record literals exactly if it is a deep one whose
whole namespace is written as the binding namespace. -/
theorem isSignalKind_and_not_namesSignal_iff {config : Config} {path : Path} :
    isSignalKind config path.kind = true ∧ ¬ NamesSignal config path ↔
      IsDeepSignal config path ∧ path.space = config.bindingSpace := by
  by_cases isLong : 2 ≤ path.outer.length
  · rw [(signal_iff_of_two_le isLong).1, (signal_iff_of_two_le isLong).2]
    constructor
    · rintro ⟨⟨isSignal, isSpace⟩, _⟩
      exact ⟨⟨isSignal, isLong⟩, isSpace⟩
    · rintro ⟨⟨isSignal, _⟩, isSpace⟩
      exact ⟨⟨isSignal, isSpace⟩, fun names => Path.space_ne_of_head? isLong names.2 isSpace⟩
  · rw [namesSignal_iff_of_length_le (by omega), and_not_self_iff, false_iff]
    exact fun isDeep => isLong isDeep.1.2

/-- The two ways to see a signal in a path agree unless the path is a deep one of them. -/
theorem isSignalPath_eq_isSignalKind_iff {config : Config} {path : Path} :
    isSignalPath config path = isSignalKind config path.kind ↔
      ¬ (IsDeepSignal config path ∧
        (path.outer.head? = some config.bindingSpace ∨ path.space = config.bindingSpace)) := by
  rw [and_or_left, ← namesSignal_and_not_isSignalKind_iff, ← isSignalKind_and_not_namesSignal_iff,
    Bool.eq_iff_iff, isSignalPath_iff]
  by_cases names : NamesSignal config path <;>
    by_cases isKind : isSignalKind config path.kind = true <;> simp [names, isKind]

/-! ## Fields of classes -/

/-- A record literal with a path and parts stands directly in a field of a record literal of a
class. -/
def FilledWith (units : List SourceUnit) (className field : String) (path : Path)
    (parts : List (Option String × Code)) : Prop :=
  ∃ address literal inner rest,
    (codeOfUnits units).StandsAt none address literal ∧ IsLiteralOf className literal ∧
    (some field, .record path inner parts rest) ∈ literal.fields

theorem filledWith_iff {units : List SourceUnit} {className field : String} {path : Path}
    {parts : List (Option String × Code)} :
    FilledWith units className field path parts ↔
      ∃ literal ∈ units.flatMap SourceUnit.records, isOfClass className literal = true ∧
        ∃ inner rest, (some field, .record path inner parts rest) ∈ literal.fields := by
  have mem_records {literal : Source.RecordLiteral} :
      literal ∈ units.flatMap SourceUnit.records ↔
        ∃ address, (codeOfUnits units).StandsAt none address literal := by
    rw [← records_codeOfUnits]
    exact ((codeOfUnits units).inOrder_records none).mem_iff
  simp only [mem_records, isOfClass_iff]
  constructor
  · rintro ⟨address, literal, inner, rest, stands, isOf, isField⟩
    exact ⟨literal, ⟨address, stands⟩, isOf, inner, rest, isField⟩
  · rintro ⟨literal, ⟨address, stands⟩, isOf, inner, rest, isField⟩
    exact ⟨address, literal, inner, rest, stands, isOf, isField⟩

/-- Fields have signals exactly if they are filled with record literals of signals that have
a name. -/
theorem mem_fields_signalsOf_iff {config : Config} {units : List SourceUnit}
    {className field : String} :
    field ∈ (signalsOf config className (units.flatMap SourceUnit.records)).map Signal.field ↔
      ∃ path parts, FilledWith units className field path parts ∧ NamesSignal config path ∧
        (SignalLiteral.mk field parts).name?.isSome = true := by
  simp only [filledWith_iff]
  constructor
  · intro isField
    obtain ⟨signal, isSignal, rfl⟩ := List.mem_map.mp isField
    obtain ⟨found, isFound, reads⟩ := List.mem_filterMap.mp isSignal
    obtain ⟨literal, isLiteral, inLiteral⟩ := List.mem_flatMap.mp isFound
    obtain ⟨isRecord, isOf⟩ := List.mem_filter.mp isLiteral
    obtain ⟨written, isWritten, gives⟩ := List.mem_filterMap.mp inLiteral
    obtain ⟨path, inner, rest, rfl, names⟩ := signalLiteral?_eq_some_iff.mp gives
    obtain ⟨same, isName, _, _⟩ := signal?_eq_some_iff.mp reads
    refine ⟨path, found.parts, ⟨literal, isRecord, isOf, inner, rest, same ▸ isWritten⟩, names, ?_⟩
    rw [← same]
    exact Option.isSome_of_eq_some isName
  · rintro ⟨path, parts, ⟨literal, isRecord, isOf, inner, rest, isWritten⟩, names, hasName⟩
    obtain ⟨name, isName⟩ := Option.isSome_iff_exists.mp hasName
    have gives : signalLiteral? config (some field, .record path inner parts rest) =
        some ⟨field, parts⟩ := signalLiteral?_eq_some_iff.mpr ⟨path, inner, rest, rfl, names⟩
    have reads : (SignalLiteral.mk field parts).signal? = some {
        name
        field
        arguments := (SignalLiteral.mk field parts).listPart "args"
        defaults := (SignalLiteral.mk field parts).listPart "default_args" } :=
      signal?_eq_some_iff.mpr ⟨rfl, isName, rfl, rfl⟩
    refine List.mem_map.mpr ⟨_, List.mem_filterMap.mpr ⟨⟨field, parts⟩, ?_, reads⟩, rfl⟩
    exact List.mem_flatMap.mpr ⟨literal, List.mem_filter.mpr ⟨isRecord, isOf⟩,
      List.mem_filterMap.mpr ⟨_, isWritten, gives⟩⟩

theorem bindsField_classOf_iff {config : Config} {units : List SourceUnit} {decl : Struct}
    {field : String} :
    (classOf config (.ofUnits units) decl).bindsField field = true ↔
      ∃ path parts, FilledWith units decl.name field path parts ∧ NamesSignal config path ∧
        (SignalLiteral.mk field parts).name?.isSome = true := by
  have kept := @mem_fields_foldl_keepFirst_iff field
    (signalsOf config decl.name (units.flatMap SourceUnit.records)) []
  rw [List.map_nil, mem_fields_signalsOf_iff] at kept
  simp only [List.not_mem_nil, false_or] at kept
  rw [← kept, Entry.Class.bindsField, List.any_eq_true, List.mem_map]
  simp only [beq_iff_eq]
  rfl

/-- A field is filled with record literals of one path only, one of which has a name. -/
structure FilledAlike (units : List SourceUnit) (className field : String) (path : Path) :
    Prop where
  named : ∃ parts, FilledWith units className field path parts ∧
    (SignalLiteral.mk field parts).name?.isSome = true
  alike : ∀ other parts, FilledWith units className field other parts → other = path

/-- A field that is filled alike has a signal exactly if its path is one to record literals. -/
theorem FilledAlike.bindsField_classOf_iff {config : Config} {units : List SourceUnit}
    {decl : Struct} {field : String} {path : Path}
    (filled : FilledAlike units decl.name field path) :
    (classOf config (.ofUnits units) decl).bindsField field = true ↔ NamesSignal config path := by
  rw [Scan.bindsField_classOf_iff]
  constructor
  · rintro ⟨other, parts, fills, names, _⟩
    exact filled.alike other parts fills ▸ names
  · intro names
    obtain ⟨parts, fills, hasName⟩ := filled.named
    exact ⟨path, parts, fills, names, hasName⟩

/-- A class has the property that a field declares. -/
def HasPropertyOf (config : Config) (entry : Entry.Class) (field : Field) : Prop :=
  ∃ property ∈ entry.properties, IsDeclaredBy config entry.name field property

/-- A field of the struct of a class that is a property unless its type is that of a signal: it
is neither the base field nor kept out, and it is public or exported. -/
structure IsOpenField (config : Config) (units : List SourceUnit) (className : String)
    (field : Field) : Prop where
  declared : ∃ address decl place,
    BegunAt config units className address decl ∧ CandidateAt config decl place field
  kept : ¬ IsIgnored config field
  admitted : field.isPublic = true ∨ HasMarker config "export" field.attributes

/-- No property is typed by a path that is a signal to fields. -/
theorem HasPropertyOf.not_isSignalKind {config : Config} {contents : Contents} {decl : Struct}
    {field : Field} (hasProperty : HasPropertyOf config (classOf config contents decl) field)
    {path : Path} (typed : field.type = path.type) : ¬ isSignalKind config path.kind = true := by
  obtain ⟨property, isProperty, isDeclared⟩ := hasProperty
  obtain ⟨other, _, reads⟩ := List.mem_filterMap.mp isProperty
  obtain ⟨kind, isKind, notSignal⟩ :=
    (property?_isSome_iff.mp (Option.isSome_of_eq_some reads)).kind
  have sameKind : kind = property.kind :=
    Option.some.inj (isKind.symm.trans (kind?_of_property?_eq_some reads))
  have ofPath : path.kind = property.kind :=
    Option.some.inj ((typed ▸ path.kind?_type).symm.trans isDeclared.kind)
  rwa [isSignalKind_iff, ofPath, ← sameKind]

/-- Open fields that are typed by a path which is no signal to fields are properties. -/
theorem IsOpenField.hasPropertyOf {config : Config} {units : List SourceUnit}
    (accepted : Accepted config (.ofUnits units)) {decl : Struct}
    (isClass : decl ∈ registered config (units.flatMap SourceUnit.structs)) {field : Field}
    (isOpen : IsOpenField config units decl.name field) {path : Path}
    (typed : field.type = path.type) (notSignal : ¬ isSignalKind config path.kind = true) :
    HasPropertyOf config (classOf config (.ofUnits units) decl) field := by
  obtain ⟨address, found, place, begun, candidate⟩ := isOpen.declared
  obtain ⟨_, _, only⟩ := exists_begunAt accepted isClass
  obtain ⟨_, rfl⟩ := only address found begun
  have isCandidate := (inOrder_candidateFields config found).mem_of_occurs candidate
  have exposed : IsExposedField config field :=
    ⟨isOpen.kept, ⟨path.kind, typed ▸ path.kind?_type, mt isSignalKind_iff.mpr notSignal⟩,
      isOpen.admitted⟩
  have isProperty : (property? config found.name field).isSome = true :=
    property?_isSome_iff.mpr exposed
  obtain ⟨property, reads⟩ := Option.isSome_iff_exists.mp isProperty
  exact ⟨property, List.mem_filterMap.mpr ⟨field, isCandidate, reads⟩,
    isDeclaredBy_of_property?_eq_some (accepted.fieldSound isClass field isCandidate) reads⟩

/-- The two ways to see a signal in a path agree unless the path is a deep one.  A class has a
signal in a field exactly if some record literal that fills the field is one of a signal and
has a name.  A field that is filled with record literals of the path that it is typed by is
typed by a signal and yet without one exactly if the path is deep and has the binding namespace
for its whole namespace.  It is both a property and a signal only if the path is deep and begins
with the binding namespace, and then it is so if it is open. -/
theorem package_signal_paths (config : Config) :
    (∀ path : Path, path.type.kind? = some path.kind ∧
      (isSignalPath config path = isSignalKind config path.kind ↔
        ¬ (IsDeepSignal config path ∧
          (path.outer.head? = some config.bindingSpace ∨ path.space = config.bindingSpace)))) ∧
    ∀ units registry, (package config units).outcome = .ok registry →
      ∀ entry ∈ registry.classes,
        (∀ field, entry.bindsField field = true ↔
          ∃ path parts, FilledWith units entry.name field path parts ∧ NamesSignal config path ∧
            (SignalLiteral.mk field parts).name?.isSome = true) ∧
        ∀ field path, field.type = path.type → FilledAlike units entry.name field.name path →
          (isSignalKind config path.kind = true ∧ ¬ entry.bindsField field.name = true ↔
            IsDeepSignal config path ∧ path.space = config.bindingSpace) ∧
          (HasPropertyOf config entry field ∧ entry.bindsField field.name = true →
            IsDeepSignal config path ∧ path.outer.head? = some config.bindingSpace) ∧
          (IsOpenField config units entry.name field →
            IsDeepSignal config path ∧ path.outer.head? = some config.bindingSpace →
            HasPropertyOf config entry field ∧ entry.bindsField field.name = true) := by
  refine ⟨fun path => ⟨path.kind?_type, isSignalPath_eq_isSignalKind_iff⟩, ?_⟩
  intro units registry isOk entry isEntry
  obtain ⟨accepted, rfl⟩ := (package_exact config units registry).mp isOk
  rw [classes_ofClasses] at isEntry
  obtain ⟨decl, isClass, rfl⟩ := List.mem_map.mp isEntry
  refine ⟨fun field => bindsField_classOf_iff, ?_⟩
  intro field path typed filled
  have isBound : (classOf config (.ofUnits units) decl).bindsField field.name = true ↔
      NamesSignal config path := filled.bindsField_classOf_iff
  rw [← namesSignal_and_not_isSignalKind_iff, ← isSignalKind_and_not_namesSignal_iff, isBound]
  refine ⟨Iff.rfl, ?_, ?_⟩
  · rintro ⟨hasProperty, names⟩
    exact ⟨names, hasProperty.not_isSignalKind typed⟩
  · rintro isOpen ⟨names, notSignal⟩
    exact ⟨isOpen.hasPropertyOf accepted isClass typed notSignal, names⟩

/-- A path with one segment in front of the signal type. -/
def nearPath : Path := ⟨false, ["gdnative"], "Signal", true⟩

/-- A path with two segments in front of the signal type. -/
def deepPath : Path := ⟨false, ["gdnative", "types"], "Signal", true⟩

/-- A record literal of a signal with a name, by its path. -/
def signalOfPath (path : Path) (name : String) : Code :=
  .record path [] [(some "name", .text name)] []

/-- A field that is typed by the deep path. -/
def deepField : Field := ⟨[], true, "hit", deepPath.type⟩

/-- A struct with this field, and with one that is typed by the other path. -/
def playerDecl : Struct where
  attributes := [docComment "godot::register"]
  name := "Player"
  heading := []
  fields := .named [deepField, ⟨[], true, "died", nearPath.type⟩]

/-- A record literal of the class, which fills both fields with signals. -/
def playerFields : List (Option String × Code) :=
  [(some "hit", signalOfPath deepPath "hit"), (some "died", signalOfPath nearPath "died")]

/-- A unit with the struct and the record literal. -/
def playerUnit : SourceUnit where
  attributes := []
  items := [.struct playerDecl, .other [.record (.ofName "Player") [] playerFields []]]

/-- The class: both fields are signals, and the first one is a property too. -/
def playerClass : Entry.Class where
  name := "Player"
  properties := [{ className := "Player", name := "hit", kind := deepPath.kind }]
  signals := [{ name := "hit", field := "hit" }, { name := "died", field := "died" }]

theorem filledAlike_player : FilledAlike [playerUnit] "Player" "hit" deepPath where
  named := ⟨[(some "name", .text "hit")],
    filledWith_iff.mpr ⟨_, List.mem_cons_self, rfl, [], [], List.mem_cons_self⟩, rfl⟩
  alike := by
    intro other parts fills
    obtain ⟨literal, isRecord, isOf, inner, rest, isField⟩ := filledWith_iff.mp fills
    have isFirst : literal ∈ [(⟨none, .ofName "Player", playerFields⟩ : Source.RecordLiteral)] :=
      List.mem_filter.mpr ⟨isRecord, isOf⟩
    obtain rfl := List.mem_singleton.mp isFirst
    simp only [playerFields, signalOfPath, List.mem_cons, Prod.mk.injEq, Code.record.injEq]
      at isField
    rcases isField with ⟨_, same, _⟩ | ⟨isDied, _⟩ | impossible
    · exact same
    · exact absurd isDied (by decide)
    · cases impossible

theorem isOpenField_player : IsOpenField {} [playerUnit] "Player" deepField where
  declared := ⟨[0, 0], playerDecl, 0,
    ⟨.part rfl (.part rfl (.here _)), by decide, rfl⟩,
    (candidateAt_iff rfl).mpr ⟨rfl, by decide⟩⟩
  kept := by
    rintro ⟨item, isItem, _⟩
    cases isItem
  admitted := Or.inl rfl

/-- The first field is both a property and a signal, for its deep path begins with the binding
namespace. -/
theorem package_signal_paths_player :
    (package {} [playerUnit]).outcome = .ok (.ofClasses [playerClass]) ∧
    FilledAlike [playerUnit] "Player" "hit" deepPath ∧
    (isSignalKind {} deepPath.kind = true ∧ ¬ playerClass.bindsField "hit" = true ↔
      IsDeepSignal {} deepPath ∧ deepPath.space = "gdnative") ∧
    IsOpenField {} [playerUnit] "Player" deepField ∧
    IsDeepSignal {} deepPath ∧ deepPath.outer.head? = some "gdnative" ∧
    HasPropertyOf {} playerClass deepField ∧ playerClass.bindsField "hit" = true := by
  have isOk : (package {} [playerUnit]).outcome = .ok (.ofClasses [playerClass]) := rfl
  have isDeep : IsDeepSignal {} deepPath := ⟨rfl, by decide⟩
  have recorded := (package_signal_paths {}).2 _ _ isOk playerClass List.mem_cons_self
  have ofField := recorded.2 deepField deepPath rfl filledAlike_player
  exact ⟨isOk, filledAlike_player, ofField.1, isOpenField_player, isDeep, rfl,
    ofField.2.2 isOpenField_player ⟨isDeep, rfl⟩⟩

/-- A record literal of a deep path is one of a signal, and a field that is typed by the path
is not: the field is recorded both as a property and as a signal. -/
theorem exists_path_recognized_otherwise :
    isSignalPath {} deepPath = true ∧ isSignalKind {} deepPath.kind = false ∧
    ∃ units registry, (package {} units).outcome = .ok registry ∧
      ∃ entry ∈ registry.classes, ∃ field : Field, field.type = deepPath.type ∧
        FilledAlike units entry.name field.name deepPath ∧
        field.name ∈ entry.properties.map Entry.Property.name ∧
        field.name ∈ entry.signals.map Signal.field :=
  ⟨by decide, by decide, [playerUnit], .ofClasses [playerClass], rfl, playerClass,
    List.mem_cons_self, deepField, rfl, filledAlike_player, by decide, by decide⟩

end Scan

end NativeScript
