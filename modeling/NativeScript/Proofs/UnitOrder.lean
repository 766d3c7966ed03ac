import Mathlib.Data.List.Nodup
import NativeScript.Proofs.Acceptance

/-!
# The order of units

Whether a package is accepted is a condition on its declarations, and what a
class takes from them is a list that is filtered from theirs.  Neither minds the
order of the units, except for the order of the methods and the choice among
several signals of one field.
-/

namespace NativeScript.Scan

open Entry (Method Signal)
open Entry.Class (keepFirst)
open Source (OwnedFunction RecordLiteral SourceUnit Struct)

/-! ## Contents in another order -/

/-- Contents that are the same up to order. -/
structure Contents.Perm (first second : Contents) : Prop where
  structs : first.structs.Perm second.structs
  functions : first.functions.Perm second.functions
  records : first.records.Perm second.records

namespace Contents.Perm

variable {first second : Contents}

theorem symm (perm : first.Perm second) : second.Perm first where
  structs := perm.structs.symm
  functions := perm.functions.symm
  records := perm.records.symm

theorem ofUnits {units reordered : List SourceUnit} (perm : units.Perm reordered) :
    (Contents.ofUnits units).Perm (.ofUnits reordered) where
  structs := perm.flatMap_right _
  functions := perm.flatMap_right _
  records := perm.flatMap_right _

theorem registered (perm : first.Perm second) (config : Config) :
    (registered config first.structs).Perm (registered config second.structs) :=
  perm.structs.filter _

theorem registered_ne_nil (perm : first.Perm second) {config : Config}
    (nonempty : Scan.registered config second.structs ≠ []) :
    Scan.registered config first.structs ≠ [] := by
  intro empty
  have same := perm.registered config
  rw [empty] at same
  exact nonempty same.nil_eq.symm

/-- The demands of a class do not depend on the order of the contents. -/
theorem membersSound (perm : first.Perm second) {config : Config} {decl : Struct}
    (sound : MembersSound config first decl) : MembersSound config second decl where
  shape function member := sound.shape function (perm.functions.mem_iff.mpr member)
  single lifecycle := by
    apply (perm.functions.pairwise_iff _).mp (sound.single lifecycle)
    rintro one other apart ⟨isOther, isOne⟩
    exact apart ⟨isOne, isOther⟩
  exported function member := sound.exported function (perm.functions.mem_iff.mpr member)
  fields := sound.fields

/-- The demands of a package do not depend on the order of its contents. -/
theorem accepted (perm : first.Perm second) {config : Config}
    (accepted : Accepted config first) : Accepted config second where
  markers decl member := accepted.markers decl (perm.structs.mem_iff.mpr member)
  names := ((perm.registered config).map Struct.name).nodup_iff.mp accepted.names
  reserved nonempty function member :=
    accepted.reserved (perm.registered_ne_nil nonempty) function
      (perm.functions.mem_iff.mpr member)
  targets nonempty function member :=
    accepted.targets (perm.registered_ne_nil nonempty) function
      (perm.functions.mem_iff.mpr member)
  members decl member :=
    perm.membersSound (accepted.members decl ((perm.registered config).mem_iff.mpr member))

end Contents.Perm

/-! ## Members in another order -/

theorem AtMostOne.eq_of_perm {α : Type} {first second : List α} (atMost : AtMostOne first)
    (perm : first.Perm second) : first = second := by
  match first with
  | [] => exact perm.nil_eq
  | [candidate] => exact List.singleton_perm.mp perm
  | candidate :: other :: rest => simp [AtMostOne] at atMost

/-- The fields that keep a signal are those that are given one. -/
theorem mem_fields_foldl_keepFirst_iff {field : String} {signals bound : List Signal} :
    field ∈ (signals.foldl keepFirst bound).map Signal.field ↔
      field ∈ bound.map Signal.field ∨ field ∈ signals.map Signal.field := by
  induction signals generalizing bound with
  | nil => simp
  | cons signal signals ih =>
      have step : field ∈ (keepFirst bound signal).map Signal.field ↔
          field ∈ bound.map Signal.field ∨ field = signal.field := by
        unfold keepFirst
        split
        · rename_i taken
          obtain ⟨kept, member, same⟩ := List.any_eq_true.mp taken
          constructor
          · exact Or.inl
          · rintro (old | rfl)
            · exact old
            · exact List.mem_map.mpr ⟨kept, member, eq_of_beq same⟩
        · simp
      rw [List.foldl_cons, ih, step, List.map_cons, List.mem_cons, or_assoc]

/-! ## Classes in another order -/

/-- A class of a package and the one of its name when the units are reordered.
Each has the methods of its units in the order of the units, and those of one
unit in the order of the text. -/
structure SameUpToOrder (config : Config) (units reordered : List SourceUnit)
    (entry other : Entry.Class) : Prop where
  base : other.base = entry.base
  exposedAs : other.exposedAs = entry.exposedAs
  tool : other.tool = entry.tool
  maker : other.maker = entry.maker
  disposer : other.disposer = entry.disposer
  properties : other.properties = entry.properties
  methods : other.methods.Perm entry.methods
  methodsByUnit : entry.methods = units.flatMap fun unit =>
    methodsOf config entry.name unit.functions
  otherMethodsByUnit : other.methods = reordered.flatMap fun unit =>
    methodsOf config entry.name unit.functions
  fields : ∀ field,
    field ∈ other.signals.map Signal.field ↔ field ∈ entry.signals.map Signal.field

theorem methodsOf_flatMap (config : Config) (className : String) (units : List SourceUnit) :
    methodsOf config className (units.flatMap SourceUnit.functions) =
      units.flatMap fun unit => methodsOf config className unit.functions := by
  induction units with
  | nil => rfl
  | cons unit units ih => rw [List.flatMap_cons, methodsOf_append, ih, List.flatMap_cons]

theorem signalsOf_perm {first second : List RecordLiteral} (perm : first.Perm second)
    (config : Config) (className : String) :
    (signalsOf config className first).Perm (signalsOf config className second) :=
  ((perm.filter _).flatMap_right _).filterMap _

/-- One struct becomes the same class up to order. -/
theorem classOf_sameUpToOrder {config : Config} {units reordered : List SourceUnit}
    (perm : units.Perm reordered) {decl : Struct}
    (sound : MembersSound config (.ofUnits units) decl) :
    SameUpToOrder config units reordered (classOf config (.ofUnits units) decl)
      (classOf config (.ofUnits reordered) decl) := by
  have functions := (Contents.Perm.ofUnits perm).functions
  have records := (Contents.Perm.ofUnits perm).records
  have makers : makersOf config decl.name (Contents.ofUnits units).functions =
      makersOf config decl.name (Contents.ofUnits reordered).functions :=
    (atMostOne_map_named_iff.mpr (sound.single .constructor)).eq_of_perm
      ((functions.filter _).map _)
  have disposers : disposersOf config decl.name (Contents.ofUnits units).functions =
      disposersOf config decl.name (Contents.ofUnits reordered).functions :=
    (atMostOne_map_named_iff.mpr (sound.single .destructor)).eq_of_perm
      ((functions.filter _).map _)
  exact {
    base := rfl
    exposedAs := rfl
    tool := rfl
    maker := by simp only [classOf, makers]
    disposer := by simp only [classOf, disposers]
    properties := rfl
    methods := ((functions.filter _).map _).symm
    methodsByUnit := methodsOf_flatMap config decl.name units
    otherMethodsByUnit := methodsOf_flatMap config decl.name reordered
    fields := by
      intro field
      rw [classOf, classOf, mem_fields_foldl_keepFirst_iff, mem_fields_foldl_keepFirst_iff]
      exact or_congr_right
        ((signalsOf_perm records config decl.name).symm.map Signal.field).mem_iff }

/-! ## Packages in another order -/

/-- Reordering the units of a package keeps it accepted or refused, and keeps its
classes up to the order of their methods and the choice of their signals. -/
theorem package_reordered (config : Config) {units reordered : List SourceUnit}
    (perm : units.Perm reordered) :
    ((∃ registry, (package config units).outcome = .ok registry) ↔
      ∃ registry, (package config reordered).outcome = .ok registry) ∧
    ∀ registry other, (package config units).outcome = .ok registry →
      (package config reordered).outcome = .ok other →
      other.names.Perm registry.names ∧
      ∀ entry ∈ registry.classes, ∀ counterpart ∈ other.classes, counterpart.name = entry.name →
        SameUpToOrder config units reordered entry counterpart := by
  have contents := Contents.Perm.ofUnits perm
  have exactFirst := package_exact config units
  have exactOther := package_exact config reordered
  constructor
  · rw [exactFirst.exists_iff, exactOther.exists_iff]
    exact ⟨contents.accepted, contents.symm.accepted⟩
  · intro registry other isOk isOther
    obtain ⟨accepted, rfl⟩ := (exactFirst registry).mp isOk
    obtain ⟨_, rfl⟩ := (exactOther other).mp isOther
    rw [names_classesOf, names_classesOf, classes_ofClasses,
      classes_ofClasses]
    refine ⟨(contents.registered config).symm.map Struct.name, ?_⟩
    intro entry member counterpart memberOther sameName
    obtain ⟨decl, isClass, rfl⟩ := List.mem_map.mp member
    obtain ⟨declOther, isClassOther, rfl⟩ := List.mem_map.mp memberOther
    have isClassToo := (contents.registered config).mem_iff.mpr isClassOther
    -- Both classes begin with one struct, as no two registered ones share a name.
    have same : declOther = decl :=
      List.inj_on_of_nodup_map accepted.names isClassToo isClass sameName
    rw [same]
    exact classOf_sameUpToOrder perm (accepted.members decl isClass)

/-- A unit with a class. -/
def probeUnit : SourceUnit where
  attributes := []
  items := [.struct ⟨[docComment "godot::register as Sensor"], "Probe", [], .none⟩]

/-- A unit with the destructor of that class. -/
def dropUnit : SourceUnit where
  attributes := []
  items := [.function {
    attributes := [docComment "godot::destructor(Probe)"]
    isPublic := false
    name := "drop"
    heading := []
    inputs := []
    extra := []
    output := none
    body := [] }]

/-- The class with its destructor. -/
def probeClass : Entry.Class where
  name := "Probe"
  exposedAs := some "Sensor"
  disposer := some ⟨"Probe", "drop"⟩

/-- A destructor is found before its class as well as after it. -/
theorem package_reordered_probe :
    [probeUnit, dropUnit].Perm [dropUnit, probeUnit] ∧
      (package {} [probeUnit, dropUnit]).outcome = .ok (.ofClasses [probeClass]) ∧
      (package {} [dropUnit, probeUnit]).outcome = .ok (.ofClasses [probeClass]) ∧
      SameUpToOrder {} [probeUnit, dropUnit] [dropUnit, probeUnit] probeClass probeClass := by
  have swapped : [probeUnit, dropUnit].Perm [dropUnit, probeUnit] := .swap ..
  have isOk : (package {} [probeUnit, dropUnit]).outcome = .ok (.ofClasses [probeClass]) := rfl
  have isOther : (package {} [dropUnit, probeUnit]).outcome = .ok (.ofClasses [probeClass]) := rfl
  have same := ((package_reordered {} swapped).2 _ _ isOk isOther).2
  exact ⟨swapped, isOk, isOther,
    same probeClass List.mem_cons_self probeClass List.mem_cons_self rfl⟩

end NativeScript.Scan
