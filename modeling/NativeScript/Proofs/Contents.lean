import NativeScript.Proofs.Member
import NativeScript.Scan.Package

/-!
# The contents of a package

Units bind the functions and the signals of a class in turns.  Functions neither
read nor change signals, and signals are bound without fail, so the outcome is
that of all functions followed by all signals.  A scan therefore depends on
nothing but the structs, the functions and the record literals of a package, in
order.
-/

namespace NativeScript.Entry.Class

/-- A class with changed signals. -/
def mapSignals (change : List Signal → List Signal) (entry : Class) : Class :=
  { entry with signals := change entry.signals }

theorem setConstructor_mapSignals (change : List Signal → List Signal) (entry : Class)
    (maker : Constructor) :
    (entry.mapSignals change).setConstructor maker =
      (entry.setConstructor maker).map (mapSignals change) := by
  unfold setConstructor mapSignals
  cases entry.maker <;> rfl

theorem setDestructor_mapSignals (change : List Signal → List Signal) (entry : Class)
    (disposer : Destructor) :
    (entry.mapSignals change).setDestructor disposer =
      (entry.setDestructor disposer).map (mapSignals change) := by
  unfold setDestructor mapSignals
  cases entry.disposer <;> rfl

/-- Signals with one more, unless its field has one already. -/
def keepFirst (signals : List Signal) (signal : Signal) : List Signal :=
  if signals.any (·.field == signal.field) then signals else signals ++ [signal]

theorem addSignal_eq (entry : Class) (signal : Signal) :
    entry.addSignal signal = entry.mapSignals fun bound => keepFirst bound signal := by
  cases taken : entry.bindsField signal.field with
  | true =>
      have kept : keepFirst entry.signals signal = entry.signals := if_pos taken
      rw [addSignal_of_taken taken, mapSignals, kept]
  | false =>
      have longer : keepFirst entry.signals signal = entry.signals ++ [signal] :=
        if_neg (Bool.eq_false_iff.mp taken)
      rw [addSignal_of_free taken, mapSignals, longer]

theorem foldl_addSignal (signals : List Signal) (entry : Class) :
    signals.foldl addSignal entry =
      entry.mapSignals fun bound => signals.foldl keepFirst bound := by
  induction signals generalizing entry with
  | nil => rfl
  | cons signal signals ih =>
      rw [List.foldl_cons, ih, addSignal_eq]
      rfl

end NativeScript.Entry.Class

namespace NativeScript.Scan

open Entry (Signal)
open Entry.Class (mapSignals keepFirst)
open Outcome (Exact)
open Source (OwnedFunction RecordLiteral SourceUnit Struct)

/-! ## Functions leave signals alone -/

theorem bindConstructor_mapSignals (config : Config) (function : OwnedFunction)
    (change : List Signal → List Signal) (entry : Entry.Class) :
    (bindConstructor config function (entry.mapSignals change)).outcome =
      (bindConstructor config function entry).outcome.map (mapSignals change) := by
  rw [outcome_bindConstructor, outcome_bindConstructor, Outcome.map_bind]
  apply congrArg
  funext targets
  change (if targets.contains entry.name then _ else _) = _
  split
  · rw [Outcome.map_bind]
    exact congrArg _ (funext (Entry.Class.setConstructor_mapSignals change entry))
  · rfl

theorem bindDestructor_mapSignals (config : Config) (function : OwnedFunction)
    (change : List Signal → List Signal) (entry : Entry.Class) :
    (bindDestructor config function (entry.mapSignals change)).outcome =
      (bindDestructor config function entry).outcome.map (mapSignals change) := by
  rw [outcome_bindDestructor, outcome_bindDestructor, Outcome.map_bind]
  apply congrArg
  funext targets
  change (if targets.contains entry.name then _ else _) = _
  split
  · rw [Outcome.map_bind]
    exact congrArg _ (funext (Entry.Class.setDestructor_mapSignals change entry))
  · rfl

theorem bindMethod_mapSignals (config : Config) (function : OwnedFunction)
    (change : List Signal → List Signal) (entry : Entry.Class) :
    (bindMethod config function (entry.mapSignals change)).outcome =
      (bindMethod config function entry).outcome.map (mapSignals change) := by
  unfold bindMethod
  change (if isMethodOf entry.name function then _ else _ : Scan Entry.Class).outcome = _
  split
  · simp only [outcome_bind, outcome_ofExcept, Outcome.map_bind]
    apply congrArg
    funext export?
    split <;> rfl
  · rfl

theorem bindFunction_mapSignals (config : Config) (function : OwnedFunction)
    (change : List Signal → List Signal) (entry : Entry.Class) :
    (bindFunction config (entry.mapSignals change) function).outcome =
      (bindFunction config entry function).outcome.map (mapSignals change) := by
  simp only [bindFunction, outcome_bind, bindConstructor_mapSignals]
  cases (bindConstructor config function entry).outcome with
  | error error => rfl
  | ok entry =>
      simp only [Outcome.map_ok, Outcome.ok_bind, bindDestructor_mapSignals]
      cases (bindDestructor config function entry).outcome with
      | error error => rfl
      | ok entry => exact bindMethod_mapSignals config function change entry

/-! ## Signals -/

/-- The signals of a class that record literals declare. -/
def signalsOf (config : Config) (className : String) (records : List RecordLiteral) :
    List Signal :=
  ((records.filter (isOfClass className)).flatMap fun literal =>
    literal.fields.filterMap (signalLiteral? config)).filterMap SignalLiteral.signal?

theorem signalsOf_append (config : Config) (className : String)
    (first second : List RecordLiteral) :
    signalsOf config className (first ++ second) =
      signalsOf config className first ++ signalsOf config className second := by
  simp [signalsOf]

/-- A class with the signals that record literals declare, one to a field. -/
def bindSignalsOf (config : Config) (records : List RecordLiteral) (entry : Entry.Class) :
    Entry.Class :=
  entry.mapSignals fun bound => (signalsOf config entry.name records).foldl keepFirst bound

theorem bindSignalsOf_append (config : Config) (first second : List RecordLiteral)
    (entry : Entry.Class) :
    bindSignalsOf config (first ++ second) entry =
      bindSignalsOf config second (bindSignalsOf config first entry) := by
  unfold bindSignalsOf
  rw [signalsOf_append]
  simp only [List.foldl_append]
  rfl

theorem outcome_bindSignal (entry : Entry.Class) (signal : Signal) :
    (bindSignal entry signal).outcome = .ok (entry.addSignal signal) := by
  unfold bindSignal Entry.Class.addSignal
  cases entry.addSignal? signal with
  | none => rfl
  | some bound => simp

theorem outcome_foldlM_bindSignal (signals : List Signal) (entry : Entry.Class) :
    (signals.foldlM bindSignal entry).outcome =
      .ok (signals.foldl Entry.Class.addSignal entry) := by
  induction signals generalizing entry with
  | nil => rfl
  | cons signal signals ih =>
      rw [List.foldlM_cons, outcome_bind, outcome_bindSignal, Outcome.ok_bind, ih,
        List.foldl_cons]

theorem outcome_bindSignals (config : Config) (entry : Entry.Class) (unit : SourceUnit) :
    (bindSignals config entry unit).outcome = .ok (bindSignalsOf config unit.records entry) := by
  unfold bindSignals
  simp only [outcome_bind, outcome_tellAll, Outcome.ok_bind, outcome_foldlM_bindSignal,
    Entry.Class.foldl_addSignal]
  rfl

/-! ## All functions, then all signals -/

theorem bindFunctions_append (config : Config) (first second : List OwnedFunction)
    (entry : Entry.Class) :
    bindFunctions config (first ++ second) entry =
      bindFunctions config first entry >>= bindFunctions config second := by
  simp only [bindFunctions, List.foldlM_append]
  rfl

theorem bindFunctions_mapSignals (config : Config) (functions : List OwnedFunction)
    (change : List Signal → List Signal) (entry : Entry.Class) :
    bindFunctions config functions (entry.mapSignals change) =
      (bindFunctions config functions entry).map (mapSignals change) :=
  Outcome.foldlM_change
    (fun entry function => bindFunction_mapSignals config function change entry) functions entry

/-- Functions do not rename a class. -/
theorem name_eq_of_bindFunctions_eq_ok {config : Config} {functions : List OwnedFunction}
    {entry bound : Entry.Class} (isOk : bindFunctions config functions entry = .ok bound) :
    bound.name = entry.name := by
  rcases (bindFunctions_exact config functions entry bound).mp isOk with ⟨_, rfl⟩
  rfl

theorem outcome_bindUnit (config : Config) (entry : Entry.Class) (unit : SourceUnit) :
    (bindUnit config entry unit).outcome =
      (bindFunctions config unit.functions entry).map (bindSignalsOf config unit.records) := by
  unfold bindUnit
  rw [outcome_bind, outcome_foldlM]
  cases bound : bindFunctions config unit.functions entry with
  | error error =>
      unfold bindFunctions at bound
      rw [bound]
      rfl
  | ok entry =>
      unfold bindFunctions at bound
      rw [bound, Outcome.ok_bind, outcome_bindSignals]
      rfl

/-- Units in turns bind the same as all their functions followed by all their
signals. -/
theorem outcome_bindUnits (config : Config) (units : List SourceUnit) (entry : Entry.Class) :
    (units.foldlM (bindUnit config) entry).outcome =
      (bindFunctions config (units.flatMap SourceUnit.functions) entry).map
        (bindSignalsOf config (units.flatMap SourceUnit.records)) := by
  induction units generalizing entry with
  | nil => rfl
  | cons unit units ih =>
      rw [List.foldlM_cons, outcome_bind, outcome_bindUnit, List.flatMap_cons, List.flatMap_cons,
        bindFunctions_append]
      cases bound : bindFunctions config unit.functions entry with
      | error error => rfl
      | ok entry =>
          rw [Outcome.map_ok, Outcome.ok_bind, Outcome.ok_bind, ih]
          -- The signals of this unit move behind the functions of the later ones.
          have later := bindFunctions_mapSignals config (units.flatMap SourceUnit.functions)
            (fun bound => (signalsOf config entry.name unit.records).foldl keepFirst bound) entry
          rw [bindSignalsOf, later]
          cases whole : bindFunctions config (units.flatMap SourceUnit.functions) entry with
          | error error => rfl
          | ok bound =>
              simp only [Outcome.map_ok]
              rw [bindSignalsOf_append, ← name_eq_of_bindFunctions_eq_ok whole]
              rfl

/-! ## The package as a whole -/

/-- What a scan reads of a package: its structs, its functions and its record
literals, in the order of the text. -/
structure Contents where
  structs : List Struct
  functions : List OwnedFunction
  records : List RecordLiteral

/-- What a scan reads of units. -/
def Contents.ofUnits (units : List SourceUnit) : Contents where
  structs := units.flatMap SourceUnit.structs
  functions := units.flatMap SourceUnit.functions
  records := units.flatMap SourceUnit.records

/-- Complete a class with its members from the contents of a package. -/
def completeFrom (config : Config) (contents : Contents) (found : Discovery) :
    Except ScanError Entry.Class := do
  let entry ← bindFunctions config contents.functions found.entry
  let properties ← (readProperties config entry.name found.decl).outcome
  .ok (properties.foldl Entry.Class.addProperty (bindSignalsOf config contents.records entry))

/-- The outcome of scanning the contents of a package. -/
def packageOf (config : Config) (contents : Contents) : Except ScanError Registry := do
  let found ← (contents.structs.foldlM (discover config) []).outcome
  if found.isEmpty then
    .ok .empty
  else if contents.functions.any (·.decl.name == config.reservedInit) then
    .error (.reservedName config.reservedInit)
  else
    (found.mapM (completeFrom config contents)).map .ofClasses

theorem outcome_complete (config : Config) (units : List SourceUnit) (found : Discovery) :
    (complete config units found).outcome = completeFrom config (.ofUnits units) found := by
  simp only [complete, completeFrom, Contents.ofUnits, outcome_bind, outcome_bindUnits]
  cases bindFunctions config (units.flatMap SourceUnit.functions) found.entry with
  | error error => rfl
  | ok entry => rfl

/-- A scan depends on the contents of a package alone. -/
theorem outcome_package (config : Config) (units : List SourceUnit) :
    (package config units).outcome = packageOf config (.ofUnits units) := by
  simp only [package, packageOf, outcome_bind, discoverAll]
  apply congrArg
  funext found
  have reserved : takesReservedName config units =
      (Contents.ofUnits units).functions.any (·.decl.name == config.reservedInit) := by
    simp [takesReservedName, Contents.ofUnits, List.any_flatMap]
  rw [reserved]
  split
  · rfl
  · split
    · rfl
    · rw [outcome_bind, outcome_mapM, funext (outcome_complete config units)]
      cases found.mapM (completeFrom config (.ofUnits units)) <;> rfl

end NativeScript.Scan
