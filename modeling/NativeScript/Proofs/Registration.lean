import NativeScript.Native.OfEntry
import NativeScript.Proofs.Acceptance
import NativeScript.Proofs.Tag

/-!
# Registering scanned classes

A scanned class is never refused: its properties have usages with names, so what they
are shown as is read back unchanged, and they come without accessors of their own.
The engine therefore gets one call for each class, each method, each property and each
signal, in the order of the registry, and each call says what the entry says.
-/

namespace NativeScript.Native

open Engine (PropertyHint PropertyUsage RpcMode)
open Outcome (map_ok ok_bind)

/-! ## The calls for scanned classes -/

/-- What the engine is told about a scanned property. -/
def attributesOf (entry : Entry.Property) : PropertyAttributes where
  rset := entry.rset
  type := entry.type
  hint := entry.hint
  hintString := entry.hintString
  usage := entry.usage
  defaultValue := .nil

namespace Call

/-- The call that registers a scanned class, with generic callbacks. -/
def ofClass (entry : Entry.Class) : Call :=
  .registerClass entry.tool entry.registeredName entry.base
    ⟨entry.registeredName, .generic ⟨entry.registeredName, entry.base, entry.tool⟩⟩
    ⟨entry.registeredName, .generic entry.registeredName⟩

/-- The call that registers a scanned method of the class registered as `owner`. -/
def ofMethod (owner : String) (entry : Entry.Method) : Call :=
  .registerMethod {
    className := owner
    name := entry.engineName
    mode := .disabled
    callback := ⟨entry.engineName, fun _ _ _ _ => .nil⟩ }

/-- The call that registers a scanned property of the class registered as `owner`, which
is read and written through a slot. -/
def ofProperty (owner : String) (slot : SlotId) (entry : Entry.Property) : Call :=
  .registerProperty owner entry.registeredName (attributesOf entry)
    ⟨owner ++ "::" ++ entry.registeredName, .slot slot⟩
    ⟨owner ++ "::" ++ entry.registeredName, .slot slot⟩

/-- The call that registers a scanned signal of the class registered as `owner`. -/
def ofSignal (owner : String) (entry : Entry.Signal) : Call :=
  .registerSignal { className := owner, name := entry.name, arguments := [], defaults := [] }

/-- The calls that register a scanned class whose properties have the slots from `first`
on. -/
def ofEntry (first : SlotId) (entry : Entry.Class) : List Call :=
  ofClass entry :: entry.methods.map (ofMethod entry.registeredName) ++
    entry.properties.mapIdx (fun index => ofProperty entry.registeredName (first + index)) ++
    entry.signals.map (ofSignal entry.registeredName)

/-- The calls that register scanned classes, one class after the other. -/
def ofEntries (first : SlotId) : List Entry.Class → List Call
  | [] => []
  | entry :: entries => ofEntry first entry ++ ofEntries (first + entry.properties.length) entries

end Call

/-! ## Properties -/

/-- A tag of a value is read as this value; the empty tag must not be one. -/
theorem ofTagOr_eq_ok {α : Type} [Inhabited α] {ofTag? : String → Option α}
    (unknown : String → RegistrationError) {tag : String} {value : α}
    (known : ofTag? tag = some value) (nothing : ofTag? "" = none) :
    ofTagOr ofTag? unknown tag = .ok value := by
  unfold ofTagOr
  cases empty : tag.isEmpty with
  | true =>
      rw [String.isEmpty_iff.mp empty, nothing] at known
      cases known
  | false => simp [known]

/-- What a property is shown as is read back. -/
theorem ofTags_eq_ok (hint : PropertyHint) (hintString : String) {usage : PropertyUsage}
    (isNamed : usage.IsNamed) (rset : RpcMode) :
    PropertyAttributes.ofTags hint.name hintString usage.render rset.name =
      .ok { hint, hintString, usage, rset } := by
  have readHint := ofTagOr_eq_ok .unknownHint hint.ofTag?_name PropertyHint.isTable.find?_empty
  have readUsage := ofTagOr_eq_ok .unknownUsage (usage.ofTag?_render isNamed)
    PropertyUsage.isTable.find?_empty
  have readRset := ofTagOr_eq_ok .unknownRpcMode rset.ofTag?_name RpcMode.isTable.find?_empty
  rw [PropertyAttributes.ofTags, readHint, ok_bind, readUsage, ok_bind, readRset, ok_bind]
  rfl

/-- A scanned property of the class registered as `owner`, with its slot. -/
def Property.ofEntry (owner : String) (slot : SlotId) (entry : Entry.Property) : Property where
  className := owner
  name := entry.registeredName
  attributes := attributesOf entry
  slot

/-- A property made from an entry has no accessor of its own, so none is missing. -/
theorem Property.accessors_ofEntry (owner : String) (slot : SlotId) (entry : Entry.Property) :
    (Property.ofEntry owner slot entry).accessors =
      .ok (⟨owner ++ "::" ++ entry.registeredName, .slot slot⟩,
        ⟨owner ++ "::" ++ entry.registeredName, .slot slot⟩) :=
  rfl

theorem propertyCalls_ofEntry (owner : String) (first : SlotId) (entries : List Entry.Property) :
    Class.propertyCalls (entries.mapIdx fun index => .ofEntry owner (first + index)) =
      .ok (entries.mapIdx fun index => Call.ofProperty owner (first + index)) := by
  induction entries generalizing first with
  | nil => rfl
  | cons entry entries ih =>
      have later := ih (first + 1)
      simp only [Nat.add_assoc, Nat.add_comm 1] at later
      rw [List.mapIdx_cons, List.mapIdx_cons, Class.propertyCalls, Property.accessors_ofEntry]
      dsimp only
      rw [later]
      rfl

/-- A scanned class with the slots from `first` on. -/
def Class.ofEntry (first : SlotId) (entry : Entry.Class) : Class where
  info := ⟨entry.registeredName, entry.base, entry.tool⟩
  methods := entry.methods.map (Session.methodOfEntry entry.registeredName)
  properties := entry.properties.mapIdx fun index => .ofEntry entry.registeredName (first + index)
  signals := entry.signals.map (Session.signalOfEntry entry.registeredName)

theorem Class.calls_ofEntry (first : SlotId) (entry : Entry.Class) :
    (Class.ofEntry first entry).calls = .ok (Call.ofEntry first entry) := by
  rw [calls, ofEntry, propertyCalls_ofEntry, map_ok, List.map_map, List.map_map]
  rfl

namespace Session

/-- A session with slots for so many further properties. -/
def withSlots (session : Session) (count : Nat) : Session :=
  { session with slots := session.slots ++ List.replicate count .nil }

theorem withSlots_zero (session : Session) : session.withSlots 0 = session := by
  simp [withSlots]

theorem withSlots_withSlots (session : Session) (first second : Nat) :
    (session.withSlots first).withSlots second = session.withSlots (first + second) := by
  simp [withSlots, List.replicate_append_replicate]

theorem length_slots_withSlots (session : Session) (count : Nat) :
    (session.withSlots count).slots.length = session.slots.length + count := by
  simp [withSlots]

theorem propertyOfEntry_eq_ok (session : Session) (owner : String) {entry : Entry.Property}
    (isNamed : entry.usage.IsNamed) :
    session.propertyOfEntry owner entry =
      .ok (.ofEntry owner session.slots.length entry, session.withSlots 1) := by
  rw [propertyOfEntry, newProperty, ofTags_eq_ok _ _ isNamed]
  rfl

theorem propertiesOfEntries_eq_ok (owner : String) {entries : List Entry.Property}
    (named : ∀ entry ∈ entries, entry.usage.IsNamed) (session : Session) :
    session.propertiesOfEntries owner entries =
      .ok (entries.mapIdx fun index => .ofEntry owner (session.slots.length + index),
        session.withSlots entries.length) := by
  induction entries generalizing session with
  | nil =>
      rw [List.mapIdx_nil, List.length_nil, withSlots_zero]
      rfl
  | cons entry entries ih =>
      have later := ih (fun other member => named other (List.mem_cons_of_mem _ member))
        (session.withSlots 1)
      simp only [length_slots_withSlots, withSlots_withSlots, Nat.add_assoc, Nat.add_comm 1]
        at later
      rw [propertiesOfEntries, propertyOfEntry_eq_ok session owner (named entry List.mem_cons_self),
        ok_bind]
      dsimp only
      rw [later, List.mapIdx_cons]
      rfl

theorem classOfEntry_eq_ok (session : Session) {entry : Entry.Class}
    (named : ∀ property ∈ entry.properties, property.usage.IsNamed) :
    session.classOfEntry entry =
      .ok (.ofEntry session.slots.length entry, session.withSlots entry.properties.length) := by
  rw [classOfEntry, propertiesOfEntries_eq_ok _ named]
  rfl

/-! ## Classes -/

/-- A session in which scanned classes have been registered: the engine has got their
calls, each of which was reported, and each of their properties has a new slot. -/
def withEntries (session : Session) (entries : List Entry.Class) : Session where
  calls := session.calls ++ Call.ofEntries session.slots.length entries
  instances := session.instances
  slots := session.slots ++ (entries.flatMap Entry.Class.properties).map fun _ => .nil
  runs := session.runs
  events := session.events ++ (Call.ofEntries session.slots.length entries).map Call.event

theorem withEntries_nil (session : Session) : session.withEntries [] = session := by
  simp [withEntries, Call.ofEntries]

theorem withEntries_cons (session : Session) (entry : Entry.Class) (entries : List Entry.Class) :
    session.withEntries (entry :: entries) =
      (session.withEntries [entry]).withEntries entries := by
  simp [withEntries, Call.ofEntries]

/-- A class is registered if every usage of its properties has a name. -/
theorem registerEntry_eq_ok (session : Session) {entry : Entry.Class}
    (named : ∀ property ∈ entry.properties, property.usage.IsNamed) :
    session.registerEntry entry = .ok (session.withEntries [entry]) := by
  rw [registerEntry, classOfEntry_eq_ok session named, ok_bind]
  dsimp only
  rw [register, Class.calls_ofEntry, map_ok]
  simp [withEntries, withSlots, Call.ofEntries, List.map_const']

/-- Registering one class after the other gives the calls of all of them, in order. -/
theorem registerEntries_eq_ok {entries : List Entry.Class}
    (named : ∀ entry ∈ entries, ∀ property ∈ entry.properties, property.usage.IsNamed)
    (session : Session) :
    entries.foldlM registerEntry session = .ok (session.withEntries entries) := by
  induction entries generalizing session with
  | nil =>
      rw [withEntries_nil]
      rfl
  | cons entry entries ih =>
      have registered := session.registerEntry_eq_ok (named entry List.mem_cons_self)
      have later := ih (fun other member => named other (List.mem_cons_of_mem _ member))
        (session.withEntries [entry])
      rw [List.foldlM_cons, registered, ok_bind, later, ← withEntries_cons]

end Session

end NativeScript.Native

/-! ## Registries of scans -/

namespace NativeScript.Scan

open Engine (PropertyUsage)
open Source (Field)

/-- A registry with which a scan ended, of units or of what some parser makes of a text. -/
inductive IsResult (registry : Registry) : Prop where
  | ofText {parse : String → Option Source.SourceUnit} {config : Config} {source : String}
      (isOk : (parsed parse config source).outcome = .ok registry)
  | ofUnits {config : Config} {units : List Source.SourceUnit}
      (isOk : (package config units).outcome = .ok registry)

theorem FieldTags.isNamed_usage_applied (tags : FieldTags) (property : Entry.Property) :
    (tags.applied property).usage.IsNamed := by
  change (((tags.value? .usage).bind PropertyUsage.ofTag?).getD default).IsNamed
  cases given : (tags.value? .usage).bind PropertyUsage.ofTag? with
  | none => exact PropertyUsage.isNamed_default
  | some usage =>
      rcases Option.bind_eq_some_iff.mp given with ⟨text, _, known⟩
      exact PropertyUsage.isNamed_of_ofTag? known

/-- Whatever its tags say, the usage of a property has a name. -/
theorem isNamed_of_property?_eq_some {config : Config} {className : String} {field : Field}
    {property : Entry.Property} (found : property? config className field = some property) :
    property.usage.IsNamed := by
  unfold property? at found
  split at found
  · cases found
  · rcases Option.bind_eq_some_iff.mp found with ⟨kind, _, declared⟩
    split at declared
    · cases declared
      exact FieldTags.isNamed_usage_applied _ _
    · cases declared

/-- All usages in the registry of a package have names. -/
theorem isNamed_of_package {config : Config} {units : List Source.SourceUnit}
    {registry : Registry} (isOk : (package config units).outcome = .ok registry)
    {entry : Entry.Class} (member : entry ∈ registry.classes) {property : Entry.Property}
    (declared : property ∈ entry.properties) : property.usage.IsNamed := by
  rcases (package_exact config units registry).mp isOk with ⟨_, rfl⟩
  rw [classes_ofClasses] at member
  rcases List.mem_map.mp member with ⟨decl, _, rfl⟩
  rcases List.mem_filterMap.mp declared with ⟨field, _, found⟩
  exact isNamed_of_property?_eq_some found

/-- All usages in the registry of a scan have names. -/
theorem IsResult.isNamed {registry : Registry} (isResult : IsResult registry)
    {entry : Entry.Class} (member : entry ∈ registry.classes) {property : Entry.Property}
    (declared : property ∈ entry.properties) : property.usage.IsNamed := by
  cases isResult with
  | ofUnits isOk => exact isNamed_of_package isOk member declared
  | ofText isOk =>
      unfold parsed at isOk
      split at isOk
      · cases isOk
      · exact isNamed_of_package isOk member declared

end NativeScript.Scan

namespace NativeScript.Native.Session

/-- The classes of a scan are never refused, and the engine is told what the scan found
of them, class by class. -/
theorem registerAll_scanned {registry : Registry} (isResult : Scan.IsResult registry)
    (session : Session) :
    session.registerAll registry = .ok (session.withEntries registry.classes) :=
  registerEntries_eq_ok (fun _ member _ declared => isResult.isNamed member declared) session

/-- A unit with a class that has a hook, a property and a signal. -/
def gaugeUnit : Source.SourceUnit where
  attributes := []
  items := [
    .struct {
      attributes := [Scan.docComment "godot::register tool as METER"]
      name := "Gauge"
      heading := []
      fields := .named [{
        attributes := [⟨.ofName "godot", .list [
          .word "hint", .mark '=' false, .literal "\"range\"",
          .mark ',' false,
          .word "usage", .mark '=' false, .literal "\"noeditor\""]⟩]
        isPublic := true
        name := "level"
        type := .path false [] (.plain "i64") }] },
    .implementation {
      attributes := []
      heading := []
      owner := .path false [] (.plain "Gauge")
      members := [.function {
        attributes := []
        isPublic := true
        name := "v_ready"
        heading := []
        inputs := [.receiver []]
        extra := []
        output := none
        body := [.record (.ofName "Self") []
          [(some "filled", .record (.ofName "Signal") [] [(some "name", .text "filled")] [])]
          []] }] }]

/-- The class as it is scanned. -/
def gaugeClass : Entry.Class where
  name := "Gauge"
  exposedAs := some "METER"
  tool := true
  methods := [{ className := "Gauge", name := "v_ready" }]
  properties := [{
    className := "Gauge"
    name := "level"
    kind := .named "i64"
    hint := .range
    usage := ⟨5⟩ }]
  signals := [{ name := "filled", field := "filled" }]

/-- The class is registered as a tool class and under its alias, its method under the name
of the hook, and its property with what its tags say. -/
theorem registerAll_scanned_gauge :
    (Scan.package {} [gaugeUnit]).outcome = .ok (.ofClasses [gaugeClass]) ∧
    ∃ after, registerAll {} (.ofClasses [gaugeClass]) = .ok after ∧
      after.slots = [.nil] ∧
      after.calls = [
        .registerClass true "METER" "" ⟨"METER", .generic ⟨"METER", "", true⟩⟩
          ⟨"METER", .generic "METER"⟩,
        .registerMethod {
          className := "METER"
          name := "_ready"
          mode := .disabled
          callback := ⟨"_ready", fun _ _ _ _ => .nil⟩ },
        .registerProperty "METER" "level" { hint := .range, type := .int, usage := ⟨5⟩ }
          ⟨"METER::level", .slot 0⟩ ⟨"METER::level", .slot 0⟩,
        .registerSignal { className := "METER", name := "filled" }] := by
  have isOk : (Scan.package {} [gaugeUnit]).outcome = .ok (.ofClasses [gaugeClass]) := rfl
  exact ⟨isOk, _, registerAll_scanned (.ofUnits isOk) {}, rfl, rfl⟩

end NativeScript.Native.Session
