import Mathlib.Data.List.Basic
import NativeScript.Proofs.Acceptance
import NativeScript.Proofs.Warns

/-!
# What a scan warns of

Every warning is about a member of one class: a parameter, a signal literal or a field.  The
warnings of an accepted package are written down without a loop: class by class, those of
parameters and signal literals unit by unit, and then those of fields.  Since classes have
distinct names, the warnings of one class and kind can be told apart from all others.
-/

namespace NativeScript.Scan

open Source (Field Function OwnedFunction SourceUnit Struct TypeExpr)

variable {α : Type}

/-! ## What warnings are about -/

/-- What kind of member a warning is about. -/
inductive Topic where
  | parameter
  | signal
  | field
deriving DecidableEq

/-- What kind of member an event warns of, if it is a warning. -/
def Event.topic? : Event → Option Topic
  | patternParameter _ _ => some .parameter
  | kindlessParameter _ _ _ => some .parameter
  | unnamedSignal _ _ => some .signal
  | looseArguments _ _ => some .signal
  | looseDefaults _ _ => some .signal
  | kindlessField _ _ => some .field
  | _ => none

/-- The class that an event is about. -/
def Event.className : Event → String
  | foundClass name _ _ _ => name
  | foundLifecycle _ name _ => name
  | foundMethod name _ => name
  | foundSignal name _ => name
  | foundProperty name _ _ => name
  | scannedMembers name _ _ _ => name
  | unnamedSignal name _ => name
  | looseArguments name _ => name
  | looseDefaults name _ => name
  | patternParameter name _ => name
  | kindlessParameter name _ _ => name
  | kindlessField name _ => name

/-- Whether an event warns of a member of a class. -/
def warnsOf (topic : Topic) (className : String) (event : Event) : Bool :=
  event.topic? == some topic && event.className == className

theorem Event.isWarning_iff {event : Event} :
    event.report.isWarning = true ↔ event.topic?.isSome = true := by
  cases event <;> exact Iff.rfl

theorem warnsOf_iff {topic : Topic} {className : String} {event : Event} :
    warnsOf topic className event = true ↔
      event.topic? = some topic ∧ event.className = className := by
  simp [warnsOf]

theorem isWarning_of_warnsOf {topic : Topic} {className : String} {event : Event}
    (warns : warnsOf topic className event = true) : event.report.isWarning = true := by
  rw [Event.isWarning_iff, (warnsOf_iff.mp warns).1]
  rfl

/-- Events that all warn of members of one class. -/
def AllWarnOf (topic : Topic) (className : String) (events : List Event) : Prop :=
  ∀ event ∈ events, warnsOf topic className event = true

namespace AllWarnOf

variable {topic other : Topic} {className : String} {events : List Event}

theorem warningsAmong_eq (all : AllWarnOf topic className events) :
    warningsAmong events = events :=
  List.filter_eq_self.mpr fun event member => isWarning_of_warnsOf (all event member)

theorem flatMap {items : List α} {told : α → List Event}
    (each : ∀ item ∈ items, AllWarnOf topic className (told item)) :
    AllWarnOf topic className (items.flatMap told) := by
  intro event member
  obtain ⟨item, isItem, isTold⟩ := List.mem_flatMap.mp member
  exact each item isItem event isTold

theorem filter_eq_self (all : AllWarnOf topic className events) :
    events.filter (warnsOf topic className) = events :=
  List.filter_eq_self.mpr all

/-- No event warns of two kinds of members. -/
theorem filter_eq_nil (all : AllWarnOf topic className events) (apart : topic ≠ other)
    (otherName : String) : events.filter (warnsOf other otherName) = [] := by
  apply List.filter_eq_nil_iff.mpr
  intro event member warnsOther
  have isTopic := (warnsOf_iff.mp (all event member)).1
  have isOther := (warnsOf_iff.mp warnsOther).1
  exact apart (Option.some.inj (isTopic.symm.trans isOther))

end AllWarnOf

/-! ## Functions -/

/-- The warnings of the inputs of a function as a method of a class. -/
def inputWarnings (className : String) (decl : Function) : List Event :=
  (readInputs className decl).filterMap error?

/-- The warnings of a function as a method of a class, if it is one that is public or
exported. -/
def methodWarnings (config : Config) (className : String) (function : OwnedFunction) :
    List Event :=
  if isMethodOf className function &&
      isAdmitted config function.decl.isPublic function.decl.attributes then
    inputWarnings className function.decl
  else
    []

theorem warnsOf_of_readParameter_eq_error {className method : String} {binding : Option String}
    {type : TypeExpr} {event : Event}
    (isError : readParameter className method binding type = .error event) :
    warnsOf .parameter className event = true := by
  unfold readParameter at isError
  split at isError
  · cases isError
    exact warnsOf_iff.mpr ⟨rfl, rfl⟩
  · split at isError
    · cases isError
      exact warnsOf_iff.mpr ⟨rfl, rfl⟩
    · cases isError

theorem allWarnOf_inputWarnings (className : String) (decl : Function) :
    AllWarnOf .parameter className (inputWarnings className decl) := by
  intro event told
  obtain ⟨outcome, isRead, isError⟩ := List.mem_filterMap.mp told
  obtain ⟨input, _, read⟩ := List.mem_filterMap.mp isRead
  cases outcome with
  | ok parameter => cases isError
  | error fault =>
      obtain rfl := Option.some.inj isError
      cases input with
      | receiver inner => cases read
      | typed binding inner type => exact warnsOf_of_readParameter_eq_error (Option.some.inj read)

theorem allWarnOf_methodWarnings (config : Config) (className : String)
    (function : OwnedFunction) :
    AllWarnOf .parameter className (methodWarnings config className function) := by
  unfold methodWarnings
  split
  · exact allWarnOf_inputWarnings className function.decl
  · rintro event ⟨⟩

theorem warns_bindConstructor (config : Config) (function : OwnedFunction)
    (entry : Entry.Class) :
    Warns (bindConstructor config function entry) (fun bound => bound.name = entry.name) [] := by
  unfold bindConstructor
  apply Warns.silent_bind (Warns.ofExcept fun _ _ => trivial)
  intro targets _
  split
  · apply Warns.silent_bind (Warns.ofExcept fun _ _ => trivial)
    intro maker _
    apply Warns.silent_bind (Warns.tell rfl)
    intro _ _
    apply Warns.ofExcept
    intro bound isOk
    rw [((setConstructor_exact entry maker bound).mp isOk).2]
    rfl
  · exact Warns.pure rfl

theorem warns_bindDestructor (config : Config) (function : OwnedFunction)
    (entry : Entry.Class) :
    Warns (bindDestructor config function entry) (fun bound => bound.name = entry.name) [] := by
  unfold bindDestructor
  apply Warns.silent_bind (Warns.ofExcept fun _ _ => trivial)
  intro targets _
  split
  · apply Warns.silent_bind (Warns.ofExcept fun _ _ => trivial)
    intro disposer _
    apply Warns.silent_bind (Warns.tell rfl)
    intro _ _
    apply Warns.ofExcept
    intro bound isOk
    rw [((setDestructor_exact entry disposer bound).mp isOk).2]
    rfl
  · exact Warns.pure rfl

theorem warns_bindMethod (config : Config) (function : OwnedFunction) (entry : Entry.Class) :
    Warns (bindMethod config function entry) (fun bound => bound.name = entry.name)
      (methodWarnings config entry.name function) := by
  have isMarker {export? : Option MarkerWords}
      (isOk : exportMarker? config function.decl.attributes = .ok export?) :
      export? = markerSays? config "export" function.decl.attributes :=
    ((markerWords?_exact config "export" function.decl.attributes export?).mp isOk).2
  unfold bindMethod methodWarnings
  cases isMethod : isMethodOf entry.name function with
  | false => exact Warns.pure rfl
  | true =>
      apply Warns.silent_bind (Warns.ofExcept fun _ => isMarker)
      rintro export? rfl
      change Warns (if isAdmitted config function.decl.isPublic function.decl.attributes then
        _ else _) _ _
      cases admitted : isAdmitted config function.decl.isPublic function.decl.attributes with
      | false => exact Warns.pure rfl
      | true =>
          have warnsInputs := Warns.tellAll (inputWarnings entry.name function.decl)
          rw [(allWarnOf_inputWarnings entry.name function.decl).warningsAmong_eq] at warnsInputs
          apply warnsInputs.bind_silent
          intro _ _
          apply Warns.silent_bind (Warns.tell rfl)
          intro _ _
          exact Warns.pure rfl

theorem warns_bindFunction (config : Config) (entry : Entry.Class) (function : OwnedFunction) :
    Warns (bindFunction config entry function) (fun bound => bound.name = entry.name)
      (methodWarnings config entry.name function) := by
  unfold bindFunction
  apply (warns_bindConstructor config function entry).silent_bind
  intro made sameMade
  apply (warns_bindDestructor config function made).silent_bind
  intro disposed sameDisposed
  have same := sameDisposed.trans sameMade
  rw [← same]
  exact warns_bindMethod config function disposed

/-! ## Units -/

/-- The warnings of the signal literals of a class in a unit. -/
def signalWarnings (config : Config) (className : String) (unit : SourceUnit) : List Event :=
  (signalLiterals config className unit).flatMap (SignalLiteral.warnings className)

theorem allWarnOf_signalWarnings (config : Config) (className : String) (unit : SourceUnit) :
    AllWarnOf .signal className (signalWarnings config className unit) := by
  apply AllWarnOf.flatMap
  intro literal _ event isWarning
  unfold SignalLiteral.warnings at isWarning
  split at isWarning
  · rw [List.mem_singleton.mp isWarning]
    exact warnsOf_iff.mpr ⟨rfl, rfl⟩
  · rcases List.mem_append.mp isWarning with inArguments | inDefaults
    · split at inArguments
      · rw [List.mem_singleton.mp inArguments]
        exact warnsOf_iff.mpr ⟨rfl, rfl⟩
      · cases inArguments
    · split at inDefaults
      · rw [List.mem_singleton.mp inDefaults]
        exact warnsOf_iff.mpr ⟨rfl, rfl⟩
      · cases inDefaults

theorem warns_bindSignal (entry : Entry.Class) (signal : Entry.Signal) :
    Warns (bindSignal entry signal) (fun bound => bound.name = entry.name) [] := by
  unfold bindSignal
  split
  · exact Warns.pure rfl
  · rename_i bound isBound
    apply Warns.silent_bind (Warns.tell rfl)
    intro _ _
    exact Warns.pure (Entry.Class.name_of_addSignal?_eq_some isBound)

theorem warns_bindSignals (config : Config) (entry : Entry.Class) (unit : SourceUnit) :
    Warns (bindSignals config entry unit) (fun bound => bound.name = entry.name)
      (signalWarnings config entry.name unit) := by
  have warnsLiterals := Warns.tellAll (signalWarnings config entry.name unit)
  rw [(allWarnOf_signalWarnings config entry.name unit).warningsAmong_eq] at warnsLiterals
  apply warnsLiterals.bind_silent
  intro _ _
  apply Warns.silent_foldlM
  · intro state signal same
    exact (warns_bindSignal state signal).weaken fun bound kept => kept.trans same
  · rfl

/-- The warnings of what a unit holds of a class. -/
def unitWarnings (config : Config) (className : String) (unit : SourceUnit) : List Event :=
  unit.functions.flatMap (methodWarnings config className) ++ signalWarnings config className unit

theorem warns_bindUnit (config : Config) (entry : Entry.Class) (unit : SourceUnit) :
    Warns (bindUnit config entry unit) (fun bound => bound.name = entry.name)
      (unitWarnings config entry.name unit) := by
  have warnsFunctions :
      Warns (unit.functions.foldlM (bindFunction config) entry)
        (fun bound => bound.name = entry.name)
        (unit.functions.flatMap (methodWarnings config entry.name)) := by
    apply Warns.foldlM
    · intro state function same
      rw [← same]
      exact warns_bindFunction config state function
    · rfl
  apply warnsFunctions.bind
  intro bound same
  rw [← same]
  exact warns_bindSignals config bound unit

/-! ## Fields -/

/-- The warning of a field: none if it is kept out or its type has a kind. -/
def fieldWarning? (config : Config) (className : String) (field : Field) : Option Event :=
  if (tagsOf config field).ignored || field.type.kind?.isSome then
    none
  else
    some (.kindlessField className field.name)

/-- The warnings of the fields of a struct. -/
def fieldWarnings (config : Config) (decl : Struct) : List Event :=
  (candidateFields config decl).filterMap (fieldWarning? config decl.name)

theorem allWarnOf_fieldWarnings (config : Config) (decl : Struct) :
    AllWarnOf .field decl.name (fieldWarnings config decl) := by
  intro event told
  obtain ⟨field, _, isWarning⟩ := List.mem_filterMap.mp told
  unfold fieldWarning? at isWarning
  split at isWarning
  · cases isWarning
  · obtain rfl := Option.some.inj isWarning
    exact warnsOf_iff.mpr ⟨rfl, rfl⟩

theorem warns_readProperty (config : Config) (className : String) (field : Field) :
    Warns (readProperty config className field) (fun _ => True)
      (fieldWarning? config className field).toList := by
  have isTags {tags : FieldTags} (isOk : FieldTags.ofAttributes config.tagAttribute className
      field.name field.attributes = .ok tags) : tags = tagsOf config field :=
    ((FieldTags.ofAttributes_exact config.tagAttribute className field.name field.attributes
      tags).mp isOk).2
  unfold readProperty fieldWarning?
  apply Warns.silent_bind (Warns.ofExcept fun _ => isTags)
  rintro tags rfl
  cases ignored : (tagsOf config field).ignored with
  | true => exact Warns.pure trivial
  | false =>
      cases found : field.type.kind? with
      | none =>
          have warnsField := Warns.tellAll [.kindlessField className field.name]
          exact warnsField.bind_silent fun _ _ => Warns.pure trivial
      | some kind =>
          change Warns (if kind.isMemberOf config.bindingSpace config.signalType then _ else _) _ _
          split
          · exact Warns.pure trivial
          · apply Warns.silent_bind (Warns.ofExcept fun _ _ => trivial)
            intro export? _
            split
            · apply Warns.silent_bind (Warns.ofExcept fun _ _ => trivial)
              intro property _
              apply Warns.silent_bind (Warns.tell rfl)
              intro _ _
              exact Warns.pure trivial
            · exact Warns.pure trivial

theorem warns_readProperties (config : Config) (decl : Struct) :
    Warns (readProperties config decl.name decl) (fun _ => True) (fieldWarnings config decl) := by
  have warnsFields := Warns.mapM (candidateFields config decl) fun field _ =>
    warns_readProperty config decl.name field
  rw [← List.filterMap_eq_flatMap_toList] at warnsFields
  exact warnsFields.bind_silent fun _ _ => Warns.pure trivial

/-! ## Classes -/

/-- The warnings of a class of a package. -/
def classWarnings (config : Config) (units : List SourceUnit) (decl : Struct) : List Event :=
  units.flatMap (unitWarnings config decl.name) ++ fieldWarnings config decl

theorem warns_complete (config : Config) (units : List SourceUnit) (decl : Struct) :
    Warns (complete config units (discoveryOf config decl)) (fun _ => True)
      (classWarnings config units decl) := by
  have warnsUnits :
      Warns (units.foldlM (bindUnit config) (discoveryOf config decl).entry)
        (fun bound => bound.name = decl.name) (units.flatMap (unitWarnings config decl.name)) := by
    apply Warns.foldlM
    · intro state unit same
      rw [← same]
      exact warns_bindUnit config state unit
    · rfl
  apply warnsUnits.bind
  intro bound same
  rw [same]
  apply (warns_readProperties config decl).bind_silent
  intro properties _
  apply Warns.silent_bind (Warns.tell rfl)
  intro _ _
  exact Warns.pure trivial

theorem warns_discover (config : Config) (found : List Discovery) (decl : Struct) :
    Warns (discover config found decl) (fun _ => True) [] := by
  unfold discover
  apply Warns.silent_bind (Warns.ofExcept fun _ _ => trivial)
  intro marker? _
  cases marker? with
  | none => exact Warns.pure trivial
  | some marker =>
      apply Warns.silent_bind (Warns.tell rfl)
      intro _ _
      split
      · exact Warns.fail _
      · exact Warns.pure trivial

theorem warns_discoverAll (config : Config) (units : List SourceUnit) :
    Warns (discoverAll config units)
      (· = discoveries config (registered config (units.flatMap SourceUnit.structs))) [] := by
  have silent : Warns (discoverAll config units) (fun _ => True) [] :=
    Warns.silent_foldlM (fun found decl _ => warns_discover config found decl) _ trivial
  intro found isOk
  have isFound := ((discoverAll_exact config _ found).mp isOk).2
  exact ⟨isFound, (silent found isOk).2⟩

/-- The warnings of an accepted package are those of its classes, in the order of their
structs. -/
theorem warns_package (config : Config) (units : List SourceUnit) :
    Warns (package config units) (fun _ => True)
      ((registered config (units.flatMap SourceUnit.structs)).flatMap
        (classWarnings config units)) := by
  apply (warns_discoverAll config units).silent_bind
  rintro found rfl
  cases decls : registered config (units.flatMap SourceUnit.structs) with
  | nil => exact Warns.pure trivial
  | cons decl others =>
      change Warns (if takesReservedName config units then _ else _) _ _
      split
      · exact Warns.fail _
      · have warnsClasses := Warns.mapM (decl :: others) fun other _ =>
          warns_complete config units other
        rw [discoveries, List.mapM_map]
        exact warnsClasses.bind_silent fun _ _ => Warns.pure trivial

/-! ## Warnings of one class and kind -/

/-- The warnings of fields among those of a class. -/
theorem filter_field_classWarnings (config : Config) (units : List SourceUnit) (decl : Struct) :
    (classWarnings config units decl).filter (warnsOf .field decl.name) =
      fieldWarnings config decl := by
  have ofUnits : (units.flatMap (unitWarnings config decl.name)).filter
      (warnsOf .field decl.name) = [] := by
    rw [List.filter_flatMap, List.flatMap_eq_nil_iff]
    intro unit _
    have ofFunctions := AllWarnOf.flatMap fun function (_ : function ∈ unit.functions) =>
      allWarnOf_methodWarnings config decl.name function
    have ofSignals := allWarnOf_signalWarnings config decl.name unit
    rw [unitWarnings, List.filter_append, ofFunctions.filter_eq_nil (by decide),
      ofSignals.filter_eq_nil (by decide), List.append_nil]
  have ofFields := allWarnOf_fieldWarnings config decl
  rw [classWarnings, List.filter_append, ofUnits, ofFields.filter_eq_self, List.nil_append]

/-- The warnings of parameters among those of a class. -/
theorem filter_parameter_classWarnings (config : Config) (units : List SourceUnit)
    (decl : Struct) :
    (classWarnings config units decl).filter (warnsOf .parameter decl.name) =
      (units.flatMap SourceUnit.functions).flatMap (methodWarnings config decl.name) := by
  have ofUnit (unit : SourceUnit) :
      (unitWarnings config decl.name unit).filter (warnsOf .parameter decl.name) =
        unit.functions.flatMap (methodWarnings config decl.name) := by
    have ofFunctions := AllWarnOf.flatMap fun function (_ : function ∈ unit.functions) =>
      allWarnOf_methodWarnings config decl.name function
    have ofSignals := allWarnOf_signalWarnings config decl.name unit
    rw [unitWarnings, List.filter_append, ofFunctions.filter_eq_self,
      ofSignals.filter_eq_nil (by decide), List.append_nil]
  have ofFields := allWarnOf_fieldWarnings config decl
  rw [classWarnings, List.filter_append, ofFields.filter_eq_nil (by decide),
    List.append_nil, List.filter_flatMap, funext ofUnit, List.flatMap_assoc]

/-- All warnings of a class are about the class. -/
theorem className_of_mem_classWarnings {config : Config} {units : List SourceUnit}
    {decl : Struct} {event : Event} (told : event ∈ classWarnings config units decl) :
    event.className = decl.name := by
  rcases List.mem_append.mp told with ofUnits | ofFields
  · obtain ⟨unit, _, ofUnit⟩ := List.mem_flatMap.mp ofUnits
    rcases List.mem_append.mp ofUnit with ofFunctions | ofSignals
    · obtain ⟨function, _, ofFunction⟩ := List.mem_flatMap.mp ofFunctions
      exact (warnsOf_iff.mp (allWarnOf_methodWarnings _ _ function event ofFunction)).2
    · exact (warnsOf_iff.mp (allWarnOf_signalWarnings _ _ unit event ofSignals)).2
  · exact (warnsOf_iff.mp (allWarnOf_fieldWarnings _ _ event ofFields)).2

/-- Classes of other names have no warnings of a class. -/
theorem filter_flatMap_classWarnings_eq_nil {config : Config} {units : List SourceUnit}
    {decls : List Struct} {className : String} (absent : className ∉ decls.map Struct.name)
    (topic : Topic) :
    (decls.flatMap (classWarnings config units)).filter (warnsOf topic className) = [] := by
  apply List.filter_eq_nil_iff.mpr
  intro event told warns
  obtain ⟨decl, member, ofClass⟩ := List.mem_flatMap.mp told
  have same := (className_of_mem_classWarnings ofClass).symm.trans (warnsOf_iff.mp warns).2
  exact absent (List.mem_map.mpr ⟨decl, member, same⟩)

/-- Nothing but a warning warns of a member. -/
theorem filter_warnsOf_warningsAmong (events : List Event) (topic : Topic) (className : String) :
    (warningsAmong events).filter (warnsOf topic className) =
      events.filter (warnsOf topic className) := by
  rw [warningsAmong, List.filter_filter]
  apply List.filter_congr
  intro event _
  cases warns : warnsOf topic className event with
  | false => rfl
  | true => rw [isWarning_of_warnsOf warns, Bool.true_and]

/-- The warnings that a scan tells of a class are those of its struct. -/
theorem filter_events_package {config : Config} {units : List SourceUnit} {registry : Registry}
    (isOk : (package config units).outcome = .ok registry) {decl : Struct}
    (isClass : decl ∈ registered config (units.flatMap SourceUnit.structs)) (topic : Topic) :
    (package config units).events.filter (warnsOf topic decl.name) =
      (classWarnings config units decl).filter (warnsOf topic decl.name) := by
  have distinct := ((package_exact config units registry).mp isOk).1.names
  have told := ((warns_package config units) registry isOk).2
  obtain ⟨before, after, isSplit⟩ := List.append_of_mem isClass
  simp only [Contents.ofUnits, isSplit, List.map_append, List.map_cons] at distinct
  obtain ⟨_, distinctAfter, apart⟩ := List.nodup_append.mp distinct
  have notBefore : decl.name ∉ before.map Struct.name := fun member =>
    apart _ member _ List.mem_cons_self rfl
  have notAfter : decl.name ∉ after.map Struct.name := (List.nodup_cons.mp distinctAfter).1
  rw [← filter_warnsOf_warningsAmong, told, isSplit, List.flatMap_append, List.flatMap_cons,
    List.filter_append, List.filter_append, filter_flatMap_classWarnings_eq_nil notBefore,
    filter_flatMap_classWarnings_eq_nil notAfter, List.append_nil, List.nil_append]

end NativeScript.Scan
