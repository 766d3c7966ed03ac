import NativeScript.Proofs.Exposure
import NativeScript.Proofs.Fault
import NativeScript.Proofs.Lifecycle
import NativeScript.Proofs.TagFault

/-!
# What errors say of a package

A scan that fails tells one defect of the package, and the defect is there: the struct, the
function or the field that the error names stands in the package and breaks the rule that it
names, and of two functions the first one stands before the second.  A class in an error is
always one that a register marker begins, and structs without the marker have no part in a
failure.
-/

namespace NativeScript.Scan

open Source (Field Function FunctionAt OwnedFunction SourceUnit Struct StructAt inOrder_functions
  inOrder_structs)

/-! ## True errors -/

/-- What an error says of a package is so. -/
inductive Diagnoses (config : Config) (units : List SourceUnit) : ScanError → Prop
  /-- The register marker of a struct ends with the word that announces an alias. -/
  | registerMarker {address : List Nat} {decl : Struct} {line : String} {rest : List Char}
      (stands : StructAt units address decl)
      (marker : IsMarkerLine (config.marker "register") decl.attributes line rest)
      (lacks : LacksAlias (Text.words rest)) :
      Diagnoses config units (.malformedMarker (config.marker "register") line .noAlias)
  /-- Two structs, at different places, begin classes of one name. -/
  | duplicateClass {className : String} {first second : List Nat} {decl other : Struct}
      (before : first < second) (begun : BegunAt config units className first decl)
      (again : BegunAt config units className second other) :
      Diagnoses config units (.duplicateClass className)
  /-- A function takes the reserved name. -/
  | reservedName {place : List Nat ×ₗ Nat} {function : OwnedFunction}
      (stands : FunctionAt units place function)
      (taken : function.decl.name = config.reservedInit) :
      Diagnoses config units (.reservedName config.reservedInit)
  /-- A lifecycle marker of a function names no class. -/
  | lifecycleMarker {place : List Nat ×ₗ Nat} {function : OwnedFunction} {lifecycle : Lifecycle}
      {line : String} {rest : List Char} {fault : MarkerFault}
      (stands : FunctionAt units place function)
      (marker : IsMarkerLine (config.marker lifecycle.word) function.decl.attributes line rest)
      (breaks : BreaksTarget rest fault) :
      Diagnoses config units (.malformedMarker (config.marker lifecycle.word) line fault)
  /-- A function whose marker names a registered class does not have the shape for it. -/
  | invalidLifecycle {className : String} {address : List Nat} {decl : Struct}
      {place : List Nat ×ₗ Nat} {function : OwnedFunction} {lifecycle : Lifecycle}
      {fault : ShapeFault} (begun : BegunAt config units className address decl)
      (stands : FunctionAt units place function)
      (names : NamesClass config lifecycle className function.decl.attributes)
      (breaks : BreaksShape className function lifecycle fault)
      (misshapen : ¬ HasShape className function lifecycle) :
      Diagnoses config units (.invalidLifecycle lifecycle className function.decl.name fault)
  /-- The markers of two functions, one before the other, name one registered class. -/
  | duplicateLifecycle {className : String} {address : List Nat} {decl : Struct}
      {first second : List Nat ×ₗ Nat} {function other : OwnedFunction} {lifecycle : Lifecycle}
      (begun : BegunAt config units className address decl) (before : first < second)
      (stands : FunctionAt units first function) (standsToo : FunctionAt units second other)
      (names : NamesClass config lifecycle className function.decl.attributes)
      (namesToo : NamesClass config lifecycle className other.decl.attributes) :
      Diagnoses config units
        (.duplicateLifecycle lifecycle className function.decl.name other.decl.name)
  /-- The export marker of a method of a registered class ends with the word that announces
  an alias. -/
  | methodMarker {className : String} {address : List Nat} {decl : Struct}
      {place : List Nat ×ₗ Nat} {function : OwnedFunction} {line : String} {rest : List Char}
      (begun : BegunAt config units className address decl)
      (stands : FunctionAt units place function)
      (isMethod : isMethodOf className function = true)
      (marker : IsMarkerLine (config.marker "export") function.decl.attributes line rest)
      (lacks : LacksAlias (Text.words rest)) :
      Diagnoses config units (.malformedMarker (config.marker "export") line .noAlias)
  /-- The export marker of a field of a registered struct does so. -/
  | fieldMarker {className : String} {address : List Nat} {decl : Struct} {number : Nat}
      {field : Field} {line : String} {rest : List Char}
      (begun : BegunAt config units className address decl)
      (stands : CandidateAt config decl number field)
      (marker : IsMarkerLine (config.marker "export") field.attributes line rest)
      (lacks : LacksAlias (Text.words rest)) :
      Diagnoses config units (.malformedMarker (config.marker "export") line .noAlias)
  /-- A field of a registered struct carries a tag that is wrong. -/
  | fieldTag {className : String} {address : List Nat} {decl : Struct} {number : Nat}
      {field : Field} {error : ScanError} (begun : BegunAt config units className address decl)
      (stands : CandidateAt config decl number field)
      (wrong : FieldTags.IsTagError config.tagAttribute className field error) :
      Diagnoses config units error

variable {config : Config} {units : List SourceUnit}

/-- A class in an error is begun by a struct. -/
theorem Diagnoses.exists_begunAt {error : ScanError} (diagnoses : Diagnoses config units error)
    {className : String} (about : error.className? = some className) :
    ∃ address decl, BegunAt config units className address decl := by
  cases diagnoses with
  | registerMarker | reservedName | lifecycleMarker | methodMarker | fieldMarker => cases about
  | duplicateClass before begun again =>
      obtain rfl := Option.some.inj about
      exact ⟨_, _, begun⟩
  | invalidLifecycle begun | duplicateLifecycle begun =>
      obtain rfl := Option.some.inj about
      exact ⟨_, _, begun⟩
  | fieldTag begun stands wrong =>
      cases wrong <;> obtain rfl := Option.some.inj about <;> exact ⟨_, _, begun⟩

/-! ## Discovery -/

theorem exists_begunAt_of_mem_registered {decl : Struct}
    (isClass : decl ∈ registered config (units.flatMap SourceUnit.structs)) :
    ∃ address, BegunAt config units decl.name address decl := by
  rcases mem_registered_iff.mp isClass with ⟨member, marked⟩
  rcases (inOrder_structs units).mem_iff.mp member with ⟨address, stands⟩
  exact ⟨address, stands, marked, rfl⟩

theorem diagnoses_of_discover_eq_error {before after : List Struct} {decl : Struct}
    (split : units.flatMap SourceUnit.structs = before ++ decl :: after) {error : ScanError}
    (failed : (discover config (discoveries config (registered config before)) decl).outcome =
      .error error) :
    Diagnoses config units error := by
  have inOrder := inOrder_structs units
  unfold discover at failed
  rw [outcome_bind, outcome_ofExcept, Outcome.bind_eq_error_iff] at failed
  rcases failed with unread | ⟨marker?, isMarker, later⟩
  · rcases exists_of_markerWords?_eq_error unread with ⟨line, rest, marker, lacks, rfl⟩
    have member : decl ∈ units.flatMap SourceUnit.structs := by simp [split]
    rcases inOrder.mem_iff.mp member with ⟨address, stands⟩
    exact .registerMarker stands marker lacks
  · have exact := markerWords?_exact config "register" decl.attributes
    rcases (exact marker?).mp isMarker with ⟨_, rfl⟩
    cases words : markerSays? config "register" decl.attributes with
    | none =>
        rw [words] at later
        cases later
    | some marker =>
        have marked : HasMarker config "register" decl.attributes := by
          rw [← markerSays?_isSome_iff, words]
          rfl
        simp only [words, outcome_bind, outcome_tell, Outcome.ok_bind] at later
        change (if isDiscovered _ decl.name then _ else _ : Scan _).outcome = _ at later
        split at later
        · rename_i taken
          obtain rfl := Except.error.inj later
          rcases List.mem_map.mp (isDiscovered_discoveries_iff.mp taken) with
            ⟨earlier, isClass, sameName⟩
          rcases mem_registered_iff.mp isClass with ⟨member, markedToo⟩
          rw [split] at inOrder
          rcases inOrder.exists_lt member with ⟨first, second, isBefore, standsFirst, stands⟩
          exact .duplicateClass isBefore ⟨standsFirst, markedToo, sameName⟩ ⟨stands, marked, rfl⟩
        · cases later

theorem diagnoses_of_discoverAll_eq_error {error : ScanError}
    (failed : ((units.flatMap SourceUnit.structs).foldlM (discover config) []).outcome =
      .error error) :
    Diagnoses config units error := by
  rw [outcome_foldlM] at failed
  rcases Outcome.exists_of_foldlM_eq_error failed with
    ⟨before, decl, after, found, split, isOk, fails⟩
  rw [← outcome_foldlM] at isOk
  rcases (discoverAll_exact config before found).mp isOk with ⟨_, rfl⟩
  exact diagnoses_of_discover_eq_error split fails

/-! ## Lifecycle functions -/

variable {className : String} {address : List Nat} {decl : Struct}
  {before after : List OwnedFunction} {function : OwnedFunction} {error : ScanError}

/-- Binding a lifecycle function fails because of its markers, its shape or a function before
it, where the class holds in a slot what the first function of these gave. -/
theorem diagnoses_of_lifecycle_eq_error {lifecycle : Lifecycle} {α : Type}
    (begun : BegunAt config units className address decl)
    (inOrder : InOrder (FunctionAt units) (before ++ function :: after))
    {make : Except ScanError α} (slot : Option α) {set : α → Except ScanError Entry.Class}
    (nameOf : α → String) {entry : Entry.Class}
    (misshapen : ∀ error, make = .error error → ∃ fault,
      BreaksShape className function lifecycle fault ∧
        error = .invalidLifecycle lifecycle className function.decl.name fault)
    (made : ∀ value, make = .ok value → nameOf value = function.decl.name)
    (taken : ∀ value error, set value = .error error → ∃ first, slot = some first ∧
      error = .duplicateLifecycle lifecycle className (nameOf first) (nameOf value))
    (filled : ∀ first, slot = some first →
      ∃ earlier ∈ named config lifecycle className before, nameOf first = earlier.decl.name)
    (failed : (lifecycleTargets config lifecycle (docLines function.decl.attributes) >>=
      fun targets => if targets.contains className then make >>= set else .ok entry) =
        .error error) :
    Diagnoses config units error := by
  have member : function ∈ before ++ function :: after := by simp
  rcases inOrder.mem_iff.mp member with ⟨place, stands⟩
  rcases Outcome.bind_eq_error_iff.mp failed with unread | ⟨targets, isOk, later⟩
  · rcases exists_of_lifecycleTargets_eq_error unread with ⟨line, rest, fault, marker, breaks, rfl⟩
    exact .lifecycleMarker stands marker breaks
  · rcases (lifecycleTargets_exact config lifecycle _ targets).mp isOk with ⟨_, rfl⟩
    split at later
    · rename_i isTarget
      have names := mem_targetsOf_iff.mp (List.contains_iff_mem.mp isTarget)
      rcases Outcome.bind_eq_error_iff.mp later with refused | ⟨value, isMade, second⟩
      · rcases misshapen error refused with ⟨fault, breaks, rfl⟩
        exact .invalidLifecycle begun stands names breaks breaks.not_hasShape
      · rcases taken value error second with ⟨first, isFirst, rfl⟩
        rcases filled first isFirst with ⟨earlier, isNamed, sameName⟩
        rcases List.mem_filter.mp isNamed with ⟨isBefore, namesToo⟩
        rcases inOrder.exists_lt isBefore with
          ⟨firstPlace, secondPlace, precedes, standsFirst, standsSecond⟩
        rw [sameName, made value isMade]
        exact .duplicateLifecycle begun precedes standsFirst standsSecond
          (of_decide_eq_true namesToo) names
    · cases later

theorem exists_of_setConstructor_eq_error {entry : Entry.Class} {maker : Entry.Constructor}
    (failed : entry.setConstructor maker = .error error) :
    ∃ first, entry.maker = some first ∧
      error = .duplicateLifecycle .constructor entry.name first.function maker.function := by
  unfold Entry.Class.setConstructor at failed
  split at failed
  · rename_i first isFirst
    exact ⟨first, isFirst, (Except.error.inj failed).symm⟩
  · cases failed

theorem exists_of_setDestructor_eq_error {entry : Entry.Class} {disposer : Entry.Destructor}
    (failed : entry.setDestructor disposer = .error error) :
    ∃ first, entry.disposer = some first ∧
      error = .duplicateLifecycle .destructor entry.name first.function disposer.function := by
  unfold Entry.Class.setDestructor at failed
  split at failed
  · rename_i first isFirst
    exact ⟨first, isFirst, (Except.error.inj failed).symm⟩
  · cases failed

/-- What is first among what functions give is given by one of them. -/
theorem exists_of_head?_map_named_eq_some {lifecycle : Lifecycle} {α : Type}
    {make : OwnedFunction → α} {first : α}
    (isFirst : ((named config lifecycle className before).map make).head? = some first) :
    ∃ earlier ∈ named config lifecycle className before, make earlier = first :=
  List.mem_map.mp (List.mem_of_head? isFirst)

theorem diagnoses_of_bindConstructor_eq_error {entry : Entry.Class}
    (begun : BegunAt config units entry.name address decl)
    (inOrder : InOrder (FunctionAt units) (before ++ function :: after))
    (bound : entry.maker = (makersOf config entry.name before).head?)
    (failed : (bindConstructor config function entry).outcome = .error error) :
    Diagnoses config units error := by
  rw [outcome_bindConstructor] at failed
  refine diagnoses_of_lifecycle_eq_error begun inOrder entry.maker Entry.Constructor.function
    (fun _ => exists_of_asConstructor_eq_error) ?_ (fun _ _ => exists_of_setConstructor_eq_error)
    ?_ failed
  · intro maker isMade
    rcases (asConstructor_exact entry.name function maker).mp isMade with ⟨_, rfl⟩
    rfl
  · intro first isFirst
    rw [bound] at isFirst
    rcases exists_of_head?_map_named_eq_some isFirst with ⟨earlier, isNamed, rfl⟩
    exact ⟨earlier, isNamed, rfl⟩

theorem diagnoses_of_bindDestructor_eq_error {entry : Entry.Class}
    (begun : BegunAt config units entry.name address decl)
    (inOrder : InOrder (FunctionAt units) (before ++ function :: after))
    (bound : entry.disposer = (disposersOf config entry.name before).head?)
    (failed : (bindDestructor config function entry).outcome = .error error) :
    Diagnoses config units error := by
  rw [outcome_bindDestructor] at failed
  refine diagnoses_of_lifecycle_eq_error begun inOrder entry.disposer Entry.Destructor.function
    (fun _ => exists_of_asDestructor_eq_error) ?_ (fun _ _ => exists_of_setDestructor_eq_error)
    ?_ failed
  · intro disposer isMade
    rcases (asDestructor_exact entry.name function disposer).mp isMade with ⟨_, rfl⟩
    rfl
  · intro first isFirst
    rw [bound] at isFirst
    rcases exists_of_head?_map_named_eq_some isFirst with ⟨earlier, isNamed, rfl⟩
    exact ⟨earlier, isNamed, rfl⟩

/-! ## Functions -/

theorem diagnoses_of_bindMethod_eq_error {entry : Entry.Class}
    (begun : BegunAt config units entry.name address decl)
    (inOrder : InOrder (FunctionAt units) (before ++ function :: after))
    (failed : (bindMethod config function entry).outcome = .error error) :
    Diagnoses config units error := by
  have member : function ∈ before ++ function :: after := by simp
  rcases inOrder.mem_iff.mp member with ⟨place, stands⟩
  unfold bindMethod at failed
  split at failed
  · rename_i isMethod
    rw [outcome_bind, outcome_ofExcept, Outcome.bind_eq_error_iff] at failed
    rcases failed with unread | ⟨export?, _, later⟩
    · rcases exists_of_markerWords?_eq_error unread with ⟨line, rest, marker, lacks, rfl⟩
      exact .methodMarker begun stands isMethod marker lacks
    · split at later <;> cases later
  · cases failed

/-- A class keeps its name as it gains members. -/
theorem BegunAt.gain {entry : Entry.Class} (begun : BegunAt config units entry.name address decl)
    (makers : List Entry.Constructor) (disposers : List Entry.Destructor)
    (methods : List Entry.Method) :
    BegunAt config units (entry.gain makers disposers methods).name address decl :=
  begun

/-- A function is bound to a class that the functions before it were bound to. -/
theorem diagnoses_of_bindFunction_eq_error {entry : Entry.Class}
    (begun : BegunAt config units entry.name address decl)
    (inOrder : InOrder (FunctionAt units) (before ++ function :: after))
    (makerBound : entry.maker = (makersOf config entry.name before).head?)
    (disposerBound : entry.disposer = (disposersOf config entry.name before).head?)
    (failed : (bindFunction config entry function).outcome = .error error) :
    Diagnoses config units error := by
  simp only [bindFunction, outcome_bind] at failed
  rcases Outcome.bind_eq_error_iff.mp failed with constructing | ⟨made, isMade, later⟩
  · exact diagnoses_of_bindConstructor_eq_error begun inOrder makerBound constructing
  · rcases (bindConstructor_exact config function entry made).mp isMade with ⟨_, rfl⟩
    rcases Outcome.bind_eq_error_iff.mp later with destructing | ⟨disposed, isDisposed, last⟩
    · refine diagnoses_of_bindDestructor_eq_error (begun.gain _ _ _) inOrder ?_ destructing
      simpa [Entry.Class.gain] using disposerBound
    · rcases (bindDestructor_exact config function _ disposed).mp isDisposed with ⟨_, rfl⟩
      exact diagnoses_of_bindMethod_eq_error ((begun.gain _ _ _).gain _ _ _) inOrder last

theorem diagnoses_of_bindFunctions_eq_error
    (begun : BegunAt config units decl.name address decl)
    (failed : bindFunctions config (units.flatMap SourceUnit.functions)
      (discoveryOf config decl).entry = .error error) :
    Diagnoses config units error := by
  rcases Outcome.exists_of_foldlM_eq_error failed with
    ⟨before, function, after, entry, split, isOk, stopped⟩
  rcases (bindFunctions_exact config before _ entry).mp isOk with ⟨_, rfl⟩
  have inOrder := inOrder_functions units
  rw [split] at inOrder
  refine diagnoses_of_bindFunction_eq_error begun inOrder ?_ ?_ stopped <;> rfl

/-! ## Fields -/

theorem diagnoses_of_readProperty_eq_error {number : Nat} {field : Field}
    (begun : BegunAt config units className address decl)
    (stands : CandidateAt config decl number field)
    (failed : (readProperty config className field).outcome = .error error) :
    Diagnoses config units error := by
  unfold readProperty at failed
  rw [outcome_bind, outcome_ofExcept, Outcome.bind_eq_error_iff] at failed
  rcases failed with unread | ⟨tags, isOk, later⟩
  · exact .fieldTag begun stands (FieldTags.isTagError_of_ofAttributes_eq_error unread)
  · rcases (FieldTags.ofAttributes_exact _ _ _ _ tags).mp isOk with ⟨_, rfl⟩
    split at later
    · cases later
    · split at later
      · cases later
      · split at later
        · cases later
        · rw [outcome_bind, outcome_ofExcept, Outcome.bind_eq_error_iff] at later
          rcases later with unread | ⟨export?, _, applying⟩
          · rcases exists_of_markerWords?_eq_error unread with ⟨line, rest, marker, lacks, rfl⟩
            exact .fieldMarker begun stands marker lacks
          · split at applying
            · rw [outcome_bind, outcome_ofExcept, Outcome.bind_eq_error_iff] at applying
              rcases applying with refused | ⟨_, _, done⟩
              · rcases FieldTags.exists_of_apply_eq_error refused with
                  ⟨tag, text, given, notAccepted, rfl⟩
                rcases FieldTags.exists_carries_of_value?_eq_some given with
                  ⟨part, carries, isTag⟩
                exact .fieldTag begun stands (.unknownValue carries isTag notAccepted)
              · cases done
            · cases applying

theorem diagnoses_of_readProperties_eq_error
    (begun : BegunAt config units className address decl)
    (failed : (readProperties config className decl).outcome = .error error) :
    Diagnoses config units error := by
  unfold readProperties at failed
  rw [outcome_bind, outcome_mapM, Outcome.bind_eq_error_iff] at failed
  rcases failed with reading | ⟨_, _, done⟩
  · rcases Outcome.exists_of_mapM_eq_error reading with ⟨field, candidate, stopped⟩
    rcases (inOrder_candidateFields config decl).mem_iff.mp candidate with ⟨number, stands⟩
    exact diagnoses_of_readProperty_eq_error begun stands stopped
  · cases done

/-! ## The package -/

theorem diagnoses_of_completeFrom_eq_error
    (begun : BegunAt config units decl.name address decl)
    (failed : completeFrom config (.ofUnits units) (discoveryOf config decl) = .error error) :
    Diagnoses config units error := by
  rcases Outcome.bind_eq_error_iff.mp failed with binding | ⟨entry, isBound, later⟩
  · exact diagnoses_of_bindFunctions_eq_error begun binding
  · rcases (bindFunctions_exact config _ _ entry).mp isBound with ⟨_, rfl⟩
    rcases Outcome.bind_eq_error_iff.mp later with reading | ⟨_, _, done⟩
    · exact diagnoses_of_readProperties_eq_error begun reading
    · cases done

theorem diagnoses_of_package_eq_error (failed : (package config units).outcome = .error error) :
    Diagnoses config units error := by
  rw [outcome_package] at failed
  rcases Outcome.bind_eq_error_iff.mp failed with discovering | ⟨found, isFound, later⟩
  · exact diagnoses_of_discoverAll_eq_error discovering
  · rcases (discoverAll_exact config _ found).mp isFound with ⟨_, rfl⟩
    split at later
    · cases later
    · split at later
      · rename_i taken
        obtain rfl := Except.error.inj later
        rcases List.any_eq_true.mp taken with ⟨function, member, same⟩
        rcases (inOrder_functions units).mem_iff.mp member with ⟨place, stands⟩
        exact .reservedName stands (eq_of_beq same)
      · rcases Outcome.exists_of_mapM_eq_error (Outcome.map_eq_error_iff.mp later) with
          ⟨discovery, member, stopped⟩
        rcases List.mem_map.mp member with ⟨decl, isClass, rfl⟩
        rcases exists_begunAt_of_mem_registered isClass with ⟨address, begun⟩
        exact diagnoses_of_completeFrom_eq_error begun stopped

/-! ## What has no part in a failure -/

theorem outcome_discover_of_not_hasMarker {decl : Struct} (found : List Discovery)
    (unmarked : ¬ HasMarker config "register" decl.attributes) :
    (discover config found decl).outcome = .ok found := by
  have nothing : firstMarker? config "register" decl.attributes = none :=
    Option.not_isSome_iff_eq_none.mp unmarked
  have readable : AliasReadable config "register" decl.attributes := by
    intro rest isFirst
    rw [nothing] at isFirst
    cases isFirst
  have isNone : registerMarker? config decl.attributes = .ok none := by
    rw [registerMarker?, (markerWords?_exact config "register" decl.attributes).eq_ok readable,
      markerSays?, nothing]
    rfl
  rw [discover, isNone]
  rfl

/-- Discovery passes over structs without the register marker. -/
theorem outcome_discoverAll_registered (structs : List Struct) (found : List Discovery) :
    (structs.foldlM (discover config) found).outcome =
      ((registered config structs).foldlM (discover config) found).outcome := by
  induction structs generalizing found with
  | nil => rfl
  | cons decl structs ih =>
      by_cases marked : HasMarker config "register" decl.attributes
      · rw [registered_cons_of_hasMarker marked, List.foldlM_cons, List.foldlM_cons, outcome_bind,
          outcome_bind]
        exact congrArg _ (funext ih)
      · rw [registered_cons_of_not_hasMarker marked, List.foldlM_cons, outcome_bind,
          outcome_discover_of_not_hasMarker found marked]
        exact ih found

theorem packageOf_registered (contents : Contents) :
    packageOf config contents =
      packageOf config { contents with structs := registered config contents.structs } := by
  rw [packageOf, outcome_discoverAll_registered]
  rfl

/-- The signals of a class are bound last, and without fail. -/
theorem completeFrom_records (contents : Contents) (found : Discovery) :
    completeFrom config contents found =
      (completeFrom config { contents with records := [] } found).map
        (bindSignalsOf config contents.records) := by
  unfold completeFrom
  cases bindFunctions config contents.functions found.entry with
  | error error => rfl
  | ok entry =>
      simp only [Outcome.ok_bind]
      cases (readProperties config entry.name found.decl).outcome with
      | error error => rfl
      | ok properties =>
          simp only [Outcome.ok_bind, Outcome.map_ok, Entry.Class.foldl_addProperty]
          rfl

theorem packageOf_eq_error_iff (contents : Contents) {error : ScanError} :
    packageOf config contents = .error error ↔
      packageOf config { contents with records := [] } = .error error := by
  have completed (found : List Discovery) :
      found.mapM (completeFrom config contents) =
        (found.mapM (completeFrom config { contents with records := [] })).map
          (List.map (bindSignalsOf config contents.records)) := by
    rw [← Outcome.mapM_map]
    exact congrArg (found.mapM ·) (funext (completeFrom_records contents))
  unfold packageOf
  rw [Outcome.bind_eq_error_iff, Outcome.bind_eq_error_iff]
  apply or_congr_right
  apply exists_congr
  intro found
  apply and_congr_right
  intro _
  split
  · rfl
  · split
    · rfl
    · rw [completed, Outcome.map_eq_error_iff, Outcome.map_eq_error_iff, Outcome.map_eq_error_iff]

/-- Structs without the register marker and record literals have no part in an error. -/
theorem package_eq_error_of_registered_eq {others : List SourceUnit}
    (sameClasses : registered config (others.flatMap SourceUnit.structs) =
      registered config (units.flatMap SourceUnit.structs))
    (sameFunctions : others.flatMap SourceUnit.functions = units.flatMap SourceUnit.functions)
    {error : ScanError} (failed : (package config units).outcome = .error error) :
    (package config others).outcome = .error error := by
  rw [outcome_package, packageOf_registered, packageOf_eq_error_iff] at failed ⊢
  simp only [Contents.ofUnits, sameClasses, sameFunctions]
  exact failed

/-! ## Failed scans -/

/-- The error of a failed scan diagnoses the package, a class in it is begun by a struct, and
the scan of any package with the same registered structs and the same functions fails so. -/
theorem package_error_diagnoses (config : Config) (units : List SourceUnit) {error : ScanError}
    (failed : (package config units).outcome = .error error) :
    Diagnoses config units error ∧
    (∀ className, error.className? = some className →
      ∃ address decl, BegunAt config units className address decl) ∧
    ∀ others : List SourceUnit,
      registered config (others.flatMap SourceUnit.structs) =
        registered config (units.flatMap SourceUnit.structs) →
      others.flatMap SourceUnit.functions = units.flatMap SourceUnit.functions →
      (package config others).outcome = .error error := by
  have diagnoses := diagnoses_of_package_eq_error failed
  refine ⟨diagnoses, fun className => diagnoses.exists_begunAt, ?_⟩
  intro others sameClasses sameFunctions
  exact package_eq_error_of_registered_eq sameClasses sameFunctions failed

/-- A unit with a struct that is not registered and has a tag whose key is unknown. -/
def shadeUnit : SourceUnit where
  attributes := []
  items := [.struct {
    attributes := []
    name := "Shade"
    heading := []
    fields := .named [
      ⟨[⟨.ofName "godot", .list [.word "tint", .mark '=' false, .literal "\"red\""]⟩], true,
        "tone", .path false [] (.plain "i64")⟩] }]

/-- Two functions are named as the constructor of a class, and the tag of the other struct
does not matter. -/
theorem package_error_diagnoses_spare :
    (package {} [shadeUnit, lampUnit, spareUnit]).outcome =
      .error (.duplicateLifecycle .constructor "Lamp" "make" "spare") ∧
    Diagnoses {} [shadeUnit, lampUnit, spareUnit]
      (.duplicateLifecycle .constructor "Lamp" "make" "spare") ∧
    (package {} [lampUnit, spareUnit]).outcome =
      .error (.duplicateLifecycle .constructor "Lamp" "make" "spare") := by
  have failed : (package {} [shadeUnit, lampUnit, spareUnit]).outcome =
      .error (.duplicateLifecycle .constructor "Lamp" "make" "spare") := rfl
  rcases package_error_diagnoses {} _ failed with ⟨diagnoses, _, independent⟩
  exact ⟨failed, diagnoses, independent [lampUnit, spareUnit] rfl rfl⟩

end NativeScript.Scan
