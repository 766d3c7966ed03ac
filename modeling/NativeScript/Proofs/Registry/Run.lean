import NativeScript.Proofs.Registry.Index

/-!
# Runs of a registry

However operations follow on each other, a class stays at its position under the name it was
inserted with, also when it is renamed, and is what the changes for this key have made of it.
The keys are the names of the inserted classes, and a name or a slot that is taken is not
taken again.
-/

namespace NativeScript.Registry

open Entry.Class (Change Grows grows_of_apply_eq_ok)
open Source (SourceUnit)

variable {registry : Registry} {entry changed : Entry.Class} {key : String} {change : Change}

/-! ## What stays -/

/-- A later registry in which every key leads to the same position as before, and where the
class at a position has only grown. -/
structure Extends (registry later : Registry) : Prop where
  positions : ∀ key position, registry.position? key = some position →
    later.position? key = some position
  classes : ∀ (position : Nat) entry, registry.classes[position]? = some entry →
    ∃ grown, later.classes[position]? = some grown ∧ entry.Grows grown

theorem Extends.refl (registry : Registry) : registry.Extends registry where
  positions := fun _ _ isAt => isAt
  classes := fun _ entry isAt => ⟨entry, isAt, Grows.refl entry⟩

theorem Extends.trans {middle later : Registry} (first : registry.Extends middle)
    (second : middle.Extends later) : registry.Extends later where
  positions := fun key position isAt =>
    second.positions key position (first.positions key position isAt)
  classes := by
    intro position entry isAt
    obtain ⟨grown, isAtMiddle, grows⟩ := first.classes position entry isAt
    obtain ⟨last, isAtLater, growsOn⟩ := second.classes position grown isAtMiddle
    exact ⟨last, isAtLater, grows.trans growsOn⟩

theorem extends_push (free : registry.contains entry.name = false) :
    registry.Extends (registry.push entry) where
  positions := by
    intro key position isAt
    rw [position?_push free, if_neg ?_, isAt]
    rintro rfl
    rw [position?_eq_none free] at isAt
    cases isAt
  classes := by
    intro position other isAt
    have isInside := (List.getElem?_eq_some_iff.mp isAt).1
    exact ⟨other, (List.getElem?_append_left isInside).trans isAt, Grows.refl other⟩

theorem extends_set (found : registry.get? key = some entry)
    (isOk : change.apply entry = .ok changed) : registry.Extends (registry.set key changed) where
  positions := by simp
  classes := by
    intro place other isAt
    obtain ⟨position, isAtKey, isEntry⟩ := exists_position?_of_get? found
    rw [getElem?_classes_set isAtKey]
    split
    · rename_i same
      subst same
      rw [isEntry] at isAt
      obtain rfl := Option.some.inj isAt
      have isInside : position < registry.size := (List.getElem?_eq_some_iff.mp isEntry).1
      rw [if_pos isInside]
      exact ⟨changed, rfl, grows_of_apply_eq_ok isOk⟩
    · exact ⟨other, isAt, Grows.refl other⟩

theorem extends_step (registry : Registry) (operation : Operation) :
    registry.Extends (registry.step operation).1 := by
  rcases step_cases registry operation with same | ⟨entry, _, free, pushed⟩ |
    ⟨key, change, entry, changed, _, found, isOk, replaced⟩
  · rw [same]
    exact Extends.refl registry
  · rw [pushed]
    exact extends_push free
  · rw [replaced]
    exact extends_set found isOk

theorem extends_run (registry : Registry) (operations : List Operation) :
    registry.Extends (registry.run operations) := by
  induction operations generalizing registry with
  | nil => exact Extends.refl registry
  | cons operation operations ih =>
      exact (extends_step registry operation).trans (ih (registry.step operation).1)

/-! ## The class under a key -/

theorem Indexed.get?_push (indexed : registry.Indexed)
    (free : registry.contains entry.name = false) (key : String) :
    (registry.push entry).get? key =
      if key = entry.name then some entry else registry.get? key := by
  rw [get?, position?_push free]
  split
  · rw [Option.bind_some]
    exact List.getElem?_concat_length
  · rw [get?]
    cases isAt : registry.position? key with
    | none => rfl
    | some position =>
        rw [Option.bind_some, Option.bind_some]
        exact List.getElem?_append_left (indexed.inside key position isAt)

theorem Indexed.get?_set (indexed : registry.Indexed) (found : registry.get? key = some entry)
    (changed : Entry.Class) (other : String) :
    (registry.set key changed).get? other =
      if other = key then some changed else registry.get? other := by
  obtain ⟨position, isAt, _⟩ := exists_position?_of_get? found
  have isInside := indexed.inside key position isAt
  cases isAtOther : registry.position? other with
  | none =>
      have differs : other ≠ key := by
        rintro rfl
        rw [isAt] at isAtOther
        cases isAtOther
      rw [if_neg differs, get?, get?, position?_set, isAtOther]
      rfl
  | some place =>
      rw [get?, position?_set, isAtOther, Option.bind_some, getElem?_classes_set isAt,
        if_pos isInside, get?_of_position? isAtOther]
      by_cases same : other = key
      · subst same
        rw [isAt] at isAtOther
        rw [if_pos (Option.some.inj isAtOther), if_pos rfl]
      · rw [if_neg same, if_neg ?_]
        rintro rfl
        exact same (indexed.single other key position isAtOther isAt)

/-- What an operation makes of the class under a key. -/
def Operation.onClass (key : String) (entry : Entry.Class) : Operation → Entry.Class
  | .insert _ => entry
  | .change other change => if other = key then change.attempt entry else entry

theorem Indexed.get?_step (indexed : registry.Indexed) (found : registry.get? key = some entry)
    (operation : Operation) :
    (registry.step operation).1.get? key = some (operation.onClass key entry) := by
  cases operation with
  | insert other =>
      cases taken : registry.contains other.name with
      | true =>
          rw [step_insert_of_contains taken]
          exact found
      | false =>
          rw [step_insert_of_not_contains taken, indexed.get?_push taken, if_neg ?_]
          · exact found
          · rintro rfl
            rw [← indexed.isSome_get?, found] at taken
            cases taken
  | change other change =>
      cases foundOther : registry.get? other with
      | none =>
          rw [step_change_of_eq_none foundOther, Operation.onClass, if_neg ?_]
          · exact found
          · rintro rfl
            rw [found] at foundOther
            cases foundOther
      | some target =>
          cases outcome : change.apply target with
          | error error =>
              rw [step_change_of_eq_error foundOther outcome, found, Operation.onClass]
              split
              · rename_i same
                subst same
                rw [found] at foundOther
                rw [Option.some.inj foundOther, Change.attempt_of_eq_error outcome]
              · rfl
          | ok changed =>
              rw [step_change_of_eq_ok foundOther outcome, indexed.get?_set foundOther,
                Operation.onClass]
              by_cases same : other = key
              · subst same
                rw [found] at foundOther
                rw [if_pos rfl, if_pos rfl, Option.some.inj foundOther,
                  Change.attempt_of_eq_ok outcome]
              · rw [if_neg (Ne.symm same), if_neg same, found]

/-- The class under a key is what the operations of a run make of it, one after the other. -/
theorem Indexed.get?_run (indexed : registry.Indexed) (found : registry.get? key = some entry)
    (operations : List Operation) :
    (registry.run operations).get? key =
      some (operations.foldl (Operation.onClass key) entry) := by
  induction operations generalizing registry entry with
  | nil => exact found
  | cons operation operations ih =>
      exact ih (indexed.step operation) (indexed.get?_step found operation)

/-! ## Inserted names -/

/-- An operation inserts a class under a name. -/
def Operation.Inserts (key : String) (operation : Operation) : Prop :=
  ∃ entry, operation = .insert entry ∧ entry.name = key

theorem contains_push (free : registry.contains entry.name = false) (key : String) :
    (registry.push entry).contains key = true ↔
      registry.contains key = true ∨ entry.name = key := by
  rw [contains, position?_push free, contains]
  by_cases same : key = entry.name
  · simp [same]
  · simp [same, Ne.symm same]

theorem contains_step_iff (operation : Operation) :
    (registry.step operation).1.contains key = true ↔
      registry.contains key = true ∨ operation.Inserts key := by
  cases operation with
  | insert entry =>
      have inserts_iff : (Operation.insert entry).Inserts key ↔ entry.name = key := by
        simp [Operation.Inserts]
      rw [inserts_iff]
      cases taken : registry.contains entry.name with
      | true =>
          rw [step_insert_of_contains taken, iff_self_or]
          rintro rfl
          exact taken
      | false => rw [step_insert_of_not_contains taken, contains_push taken]
  | change other change =>
      have same :
          (registry.step (.change other change)).1.contains key = registry.contains key := by
        rcases step_cases registry (.change other change) with same | ⟨entry, isInsert, _⟩ |
          ⟨_, _, _, changed, _, _, _, replaced⟩
        · rw [same]
        · cases isInsert
        · rw [replaced, contains, position?_set, contains]
      rw [same]
      simp [Operation.Inserts]

/-- The keys after a run are those from before and the names of the inserted classes. -/
theorem contains_run_iff (registry : Registry) (operations : List Operation) :
    (registry.run operations).contains key = true ↔
      registry.contains key = true ∨ ∃ operation ∈ operations, operation.Inserts key := by
  induction operations generalizing registry with
  | nil => simp [run]
  | cons operation operations ih =>
      rw [run_cons, ih, contains_step_iff, or_assoc]
      simp only [List.exists_mem_cons_iff]

/-! ## Refused operations -/

theorem set_of_get? (found : registry.get? key = some entry) :
    registry.set key entry = registry := by
  obtain ⟨position, isAt, isEntry⟩ := exists_position?_of_get? found
  obtain ⟨isInside, rfl⟩ := List.getElem?_eq_some_iff.mp isEntry
  rw [set, isAt]
  simp only [List.set_getElem_self]

/-- What a registry does when a class is inserted, a slot of a class is filled or a signal is
bound.  What is there already stays, and all but a further signal of a field is an error. -/
structure Guards (registry : Registry) : Prop where
  taken : ∀ entry, registry.contains entry.name = true →
    registry.step (.insert entry) = (registry, .refused (.duplicateClass entry.name))
  free : ∀ entry, registry.contains entry.name = false →
    registry.step (.insert entry) = (registry.push entry, .done)
  missing : ∀ key change, registry.contains key = false →
    registry.step (.change key change) = (registry, .missing)
  maker : ∀ key entry first maker, registry.get? key = some entry → entry.maker = some first →
    registry.step (.change key (.setConstructor maker)) =
      (registry, .refused
        (.duplicateLifecycle .constructor entry.name first.function maker.function))
  noMaker : ∀ key entry maker, registry.get? key = some entry → entry.maker = none →
    registry.step (.change key (.setConstructor maker)) =
      (registry.set key { entry with maker := some maker }, .done)
  disposer : ∀ key entry first disposer, registry.get? key = some entry →
    entry.disposer = some first →
    registry.step (.change key (.setDestructor disposer)) =
      (registry, .refused
        (.duplicateLifecycle .destructor entry.name first.function disposer.function))
  noDisposer : ∀ key entry disposer, registry.get? key = some entry → entry.disposer = none →
    registry.step (.change key (.setDestructor disposer)) =
      (registry.set key { entry with disposer := some disposer }, .done)
  signal : ∀ key entry signal, registry.get? key = some entry →
    entry.bindsField signal.field = true →
    registry.step (.change key (.addSignal signal)) = (registry, .done)
  noSignal : ∀ key entry signal, registry.get? key = some entry →
    entry.bindsField signal.field = false →
    registry.step (.change key (.addSignal signal)) =
      (registry.set key { entry with signals := entry.signals ++ [signal] }, .done)

theorem Indexed.guards (indexed : registry.Indexed) : registry.Guards where
  taken := fun _ isTaken => step_insert_of_contains isTaken
  free := fun _ isFree => step_insert_of_not_contains isFree
  missing := by
    intro key change isMissing
    rw [← indexed.isSome_get?, Option.isSome_eq_false_iff, Option.isNone_iff_eq_none] at isMissing
    exact step_change_of_eq_none isMissing
  maker := by
    intro key entry first maker found isSet
    apply step_change_of_eq_error found
    rw [Change.apply, Entry.Class.setConstructor, isSet]
  noMaker := by
    intro key entry maker found isUnset
    apply step_change_of_eq_ok found
    rw [Change.apply, Entry.Class.setConstructor, isUnset]
  disposer := by
    intro key entry first disposer found isSet
    apply step_change_of_eq_error found
    rw [Change.apply, Entry.Class.setDestructor, isSet]
  noDisposer := by
    intro key entry disposer found isUnset
    apply step_change_of_eq_ok found
    rw [Change.apply, Entry.Class.setDestructor, isUnset]
  signal := by
    intro key entry signal found isBound
    have isOk : (Change.addSignal signal).apply entry = .ok entry :=
      congrArg Except.ok (Entry.Class.addSignal_of_taken isBound)
    rw [step_change_of_eq_ok found isOk, set_of_get? found]
  noSignal := by
    intro key entry signal found isFree
    apply step_change_of_eq_ok found
    exact congrArg Except.ok (Entry.Class.addSignal_of_free isFree)

/-! ## Runs from the empty registry -/

/-- What a registry records of the operations that led to it from the empty one. -/
structure Records (operations : List Operation) (registry : Registry) : Prop where
  indexed : registry.Indexed
  /-- The keys are the names of the inserted classes. -/
  keys : ∀ key, registry.contains key = true ↔ ∃ operation ∈ operations, operation.Inserts key
  /-- A class is found under each key. -/
  found : ∀ key, (registry.get? key).isSome = registry.contains key
  /-- The first class that is inserted under a name comes after all classes before it, and is
  what the later operations make of it. -/
  classes : ∀ earlier entry later, operations = earlier ++ .insert entry :: later →
    (∀ operation ∈ earlier, ¬ operation.Inserts entry.name) →
    registry.position? entry.name = some (run .empty earlier).size ∧
      registry.get? entry.name = some (later.foldl (Operation.onClass entry.name) entry)

theorem contains_run_empty_iff (operations : List Operation) (key : String) :
    (run .empty operations).contains key = true ↔
      ∃ operation ∈ operations, operation.Inserts key := by
  rw [contains_run_iff]
  exact or_iff_right Bool.false_ne_true

theorem records_run_empty (operations : List Operation) :
    Records operations (run .empty operations) where
  indexed := indexed_empty.run operations
  keys := contains_run_empty_iff operations
  found := (indexed_empty.run operations).isSome_get?
  classes := by
    rintro earlier entry later rfl notBefore
    have indexed := indexed_empty.run earlier
    have free : (run .empty earlier).contains entry.name = false := by
      rw [← Bool.not_eq_true, contains_run_empty_iff]
      rintro ⟨operation, isEarlier, inserts⟩
      exact notBefore operation isEarlier inserts
    rw [run_append, run_cons, step_insert_of_not_contains free]
    constructor
    · apply (extends_run _ later).positions
      rw [position?_push free, if_pos rfl]
    · apply (indexed.push free).get?_run
      rw [indexed.get?_push free, if_pos rfl]

/-- After any operations from the empty registry on, the keys are the names of the inserted
classes and lead one-to-one to their positions, and the class under a key is what the changes
for this key have made of it.  Further operations keep every position and only add to a class,
and a name or a slot that is taken is not taken again. -/
theorem run_empty_keeps (operations : List Operation) :
    Records operations (run .empty operations) ∧
    (∀ further, (run .empty operations).Extends (run .empty (operations ++ further))) ∧
    Guards (run .empty operations) := by
  refine ⟨records_run_empty operations, fun further => ?_, (indexed_empty.run operations).guards⟩
  rw [run_append]
  exact extends_run _ further

/-- A class keeps its key when it is renamed, so another one can take its new name. -/
example :
    run .empty [.insert { name := "Lamp" }, .change "Lamp" (.rename "Torch"),
      .insert { name := "Torch" }, .insert { name := "Lamp" }, .change "Lamp" (.setTool true)] =
      ⟨[{ name := "Torch", tool := true }, { name := "Torch" }], [("Lamp", 0), ("Torch", 1)]⟩ :=
  rfl

/-! ## Scanned registries -/

/-- Classes with distinct names form the registry that inserting them one by one leads to. -/
theorem run_empty_insert (classes : List Entry.Class)
    (distinct : (classes.map Entry.Class.name).Nodup) :
    run .empty (classes.map .insert) = .ofClasses classes := by
  induction classes using List.reverseRecOn with
  | nil => rfl
  | append_singleton classes entry ih =>
      rw [List.map_append, List.map_singleton, ← List.concat_eq_append, List.nodup_concat]
        at distinct
      have free : (run .empty (classes.map .insert)).contains entry.name = false := by
        rw [← Bool.not_eq_true, contains_run_empty_iff]
        rintro ⟨operation, isInsert, other, same, sameName⟩
        obtain ⟨earlier, member, rfl⟩ := List.mem_map.mp isInsert
        obtain rfl := Operation.insert.inj same
        exact distinct.1 (List.mem_map.mpr ⟨earlier, member, sameName⟩)
      rw [List.map_append, run_append, List.map_singleton, run_cons,
        step_insert_of_not_contains free, ih distinct.2]
      simp [run, push, ofClasses, size, List.zipIdx_append]

theorem foldl_onClass_insert (key : String) (entry : Entry.Class) (classes : List Entry.Class) :
    (classes.map Operation.insert).foldl (Operation.onClass key) entry = entry := by
  induction classes with
  | nil => rfl
  | cons _ classes ih => exact ih

/-- The registry of a scanned package is what inserting its classes leads to, and in it every
class is found under its own name. -/
theorem package_indexed {config : Config} {units : List SourceUnit}
    (isOk : (Scan.package config units).outcome = .ok registry) :
    registry = run .empty (registry.classes.map .insert) ∧ registry.Indexed ∧
      ∀ entry ∈ registry.classes, registry.get? entry.name = some entry := by
  obtain ⟨accepted, rfl⟩ := (Scan.package_exact config units registry).mp isOk
  have distinct : ((Scan.classesOf config (.ofUnits units)).map Entry.Class.name).Nodup := by
    have names := accepted.names
    rwa [← Scan.names_classesOf] at names
  have isRun := run_empty_insert _ distinct
  have records := records_run_empty ((Scan.classesOf config (.ofUnits units)).map .insert)
  rw [isRun] at records
  refine ⟨isRun.symm, records.indexed, ?_⟩
  intro entry member
  obtain ⟨earlier, later, isSplit⟩ := List.append_of_mem member
  rw [Scan.classes_ofClasses] at isSplit
  rw [isSplit, List.map_append, List.map_cons, List.nodup_middle] at distinct
  have notBefore : ∀ operation ∈ earlier.map Operation.insert, ¬ operation.Inserts entry.name := by
    rintro operation isInsert ⟨other, same, sameName⟩
    obtain ⟨_, isEarlier, rfl⟩ := List.mem_map.mp isInsert
    obtain rfl := Operation.insert.inj same
    exact (List.nodup_cons.mp distinct).1
      (List.mem_append_left _ (List.mem_map.mpr ⟨_, isEarlier, sameName⟩))
  have isSplitRun := congrArg (List.map Operation.insert) isSplit
  rw [List.map_append, List.map_cons] at isSplitRun
  have found := (records.classes _ entry _ isSplitRun notBefore).2
  rwa [foldl_onClass_insert] at found

end NativeScript.Registry
