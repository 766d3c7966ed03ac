import NativeScript.Proofs.Marker
import NativeScript.Proofs.Shape

/-!
# What faults say

A fault tells what is wrong with one declaration.  A marker that cannot be read stands in a
line of the doc comment and breaks the rule that its fault names, and so does a function that
cannot be what a marker makes it.
-/

namespace NativeScript.Scan

open Source (Attribute OwnedFunction TypeExpr)

/-! ## Markers -/

/-- A line of the doc comment among attributes is a marker, and this text follows the
marker. -/
structure IsMarkerLine (marker : String) (attributes : List Attribute) (line : String)
    (rest : List Char) : Prop where
  member : line ∈ docLines attributes
  after : afterMarker? marker line = some rest

/-- What follows a lifecycle marker breaks the rule that a fault names. -/
inductive BreaksTarget (rest : List Char) : MarkerFault → Prop
  | noParentheses (ungrouped : ¬ ∃ inner, Text.trim rest = '(' :: (inner ++ [')'])) :
      BreaksTarget rest .noParentheses
  | manyParentheses {inner : List Char} (group : Text.trim rest = '(' :: (inner ++ [')']))
      (nested : '(' ∈ inner ∨ ')' ∈ inner) : BreaksTarget rest .manyParentheses
  | noClass {inner : List Char} (group : Text.trim rest = '(' :: (inner ++ [')']))
      (blank : Text.trim inner = []) : BreaksTarget rest .noClass

theorem MarkerWords.lacksAlias_of_read_eq_error {words : List (List Char)} {fault : MarkerFault}
    (failed : read words = .error fault) : LacksAlias words ∧ fault = .noAlias := by
  refine ⟨Classical.not_not.mp ((read_exact words).not_of_eq_error failed), ?_⟩
  induction words with
  | nil => cases failed
  | cons word words ih =>
      unfold read at failed
      split at failed
      · cases words with
        | nil => exact (Except.error.inj failed).symm
        | cons name words => cases failed
      · exact ih (Outcome.map_eq_error_iff.mp failed)

theorem exists_of_markerWords?_eq_error {config : Config} {name : String}
    {attributes : List Attribute} {error : ScanError}
    (failed : markerWords? config name (docLines attributes) = .error error) :
    ∃ line rest, IsMarkerLine (config.marker name) attributes line rest ∧
      LacksAlias (Text.words rest) ∧
      error = .malformedMarker (config.marker name) line .noAlias := by
  -- The lines are walked, and each of them is one of the whole comment.
  suffices walk : ∀ lines, markerWords? config name lines = .error error →
      ∃ line ∈ lines, ∃ rest, afterMarker? (config.marker name) line = some rest ∧
        LacksAlias (Text.words rest) ∧
        error = .malformedMarker (config.marker name) line .noAlias by
    rcases walk _ failed with ⟨line, member, rest, after, lacks, isError⟩
    exact ⟨line, rest, ⟨member, after⟩, lacks, isError⟩
  intro lines stopped
  induction lines with
  | nil => cases stopped
  | cons line lines ih =>
      unfold markerWords? at stopped
      split at stopped
      · rcases ih stopped with ⟨other, member, found⟩
        exact ⟨other, List.mem_cons_of_mem line member, found⟩
      · rename_i rest after
        split at stopped
        · rename_i fault unread
          rcases MarkerWords.lacksAlias_of_read_eq_error unread with ⟨lacks, rfl⟩
          exact ⟨line, List.mem_cons_self, rest, after, lacks, (Except.error.inj stopped).symm⟩
        · cases stopped

theorem breaksTarget_of_readTarget_eq_error {rest : List Char} {fault : MarkerFault}
    (failed : readTarget rest = .error fault) : BreaksTarget rest fault := by
  cases readTarget_eq_iff.mp failed with
  | noParentheses bare =>
      exact .noParentheses fun ⟨inner, group⟩ => bare inner (encloses_iff.mpr group)
  | manyParentheses encloses nested => exact .manyParentheses (encloses_iff.mp encloses) nested
  | noClass encloses _ blank =>
      exact .noClass (encloses_iff.mp encloses) (Text.trim_eq_nil_iff.mpr blank)

theorem exists_of_lifecycleTargets_eq_error {config : Config} {lifecycle : Lifecycle}
    {attributes : List Attribute} {error : ScanError}
    (failed : lifecycleTargets config lifecycle (docLines attributes) = .error error) :
    ∃ line rest fault, IsMarkerLine (config.marker lifecycle.word) attributes line rest ∧
      BreaksTarget rest fault ∧
      error = .malformedMarker (config.marker lifecycle.word) line fault := by
  suffices walk : ∀ lines, lifecycleTargets config lifecycle lines = .error error →
      ∃ line ∈ lines, ∃ rest fault,
        afterMarker? (config.marker lifecycle.word) line = some rest ∧
        BreaksTarget rest fault ∧
        error = .malformedMarker (config.marker lifecycle.word) line fault by
    rcases walk _ failed with ⟨line, member, rest, fault, after, breaks, isError⟩
    exact ⟨line, rest, fault, ⟨member, after⟩, breaks, isError⟩
  intro lines stopped
  induction lines with
  | nil => cases stopped
  | cons line lines ih =>
      unfold lifecycleTargets at stopped
      have later (rest : lifecycleTargets config lifecycle lines = .error error) :
          ∃ other ∈ line :: lines, ∃ rest fault,
            afterMarker? (config.marker lifecycle.word) other = some rest ∧
            BreaksTarget rest fault ∧
            error = .malformedMarker (config.marker lifecycle.word) other fault := by
        rcases ih rest with ⟨other, member, found⟩
        exact ⟨other, List.mem_cons_of_mem line member, found⟩
      split at stopped
      · exact later stopped
      · rename_i rest after
        split at stopped
        · rename_i fault unread
          exact ⟨line, List.mem_cons_self, rest, fault, after,
            breaksTarget_of_readTarget_eq_error unread, (Except.error.inj stopped).symm⟩
        · exact later (Outcome.map_eq_error_iff.mp stopped)

/-! ## Lifecycle functions -/

/-- A function breaks the rule for a lifecycle function of a class that a fault names. -/
inductive BreaksShape (className : String) (function : OwnedFunction) :
    Lifecycle → ShapeFault → Prop
  | method (lifecycle : Lifecycle) (hasReceiver : function.decl.hasReceiver = true) :
      BreaksShape className function lifecycle (.method function.owner)
  | parameters (lifecycle : Lifecycle) (noReceiver : function.decl.hasReceiver = false)
      (taken : function.decl.inputs ≠ []) :
      BreaksShape className function lifecycle (.parameters function.decl.inputs.length)
  | noResult (nothing : function.decl.results = []) :
      BreaksShape className function .constructor .noResult
  | manyResults (many : 1 < function.decl.results.length) :
      BreaksShape className function .constructor (.manyResults function.decl.results.length)
  | wrongResult {type : TypeExpr} (single : function.decl.results = [type])
      (other : (resultKind function.owner type).isPointerTo className = false) :
      BreaksShape className function .constructor (.wrongResult (resultKind function.owner type))
  | unwantedResults (something : function.decl.results ≠ []) :
      BreaksShape className function .destructor
        (.unwantedResults (function.decl.results.map (resultKind function.owner)))

/-- A function of the right shape breaks no rule. -/
theorem BreaksShape.not_hasShape {className : String} {function : OwnedFunction}
    {lifecycle : Lifecycle} {fault : ShapeFault}
    (breaks : BreaksShape className function lifecycle fault) :
    ¬ HasShape className function lifecycle := by
  have noInputs (shape : HasShape className function lifecycle) : function.decl.inputs = [] := by
    cases lifecycle <;> exact shape.1
  intro shape
  cases breaks with
  | method _ hasReceiver =>
      rw [Source.Function.hasReceiver, noInputs shape] at hasReceiver
      cases hasReceiver
  | parameters _ _ taken => exact taken (noInputs shape)
  | noResult nothing =>
      rcases shape with ⟨_, type, single, _⟩
      rw [nothing] at single
      cases single
  | manyResults many =>
      rcases shape with ⟨_, type, single, _⟩
      rw [single] at many
      exact Nat.lt_irrefl 1 many
  | wrongResult single other =>
      rcases shape with ⟨_, type, singleToo, isPointer⟩
      obtain rfl := List.singleton_inj.mp (single.symm.trans singleToo)
      rw [isPointer] at other
      cases other
  | unwantedResults something => exact something shape.2

theorem breaksShape_of_checkInputs_eq_error {className : String} {function : OwnedFunction}
    (lifecycle : Lifecycle) {fault : ShapeFault} (failed : checkInputs function = .error fault) :
    BreaksShape className function lifecycle fault := by
  unfold checkInputs at failed
  split at failed
  · rename_i hasReceiver
    obtain rfl := Except.error.inj failed
    exact .method lifecycle hasReceiver
  · rename_i noReceiver
    split at failed
    · cases failed
    · rename_i taken
      obtain rfl := Except.error.inj failed
      exact .parameters lifecycle (Bool.not_eq_true _ ▸ noReceiver) (mt List.isEmpty_iff.mpr taken)

theorem breaksShape_of_constructorResult_eq_error {className : String} {function : OwnedFunction}
    {fault : ShapeFault} (failed : constructorResult className function = .error fault) :
    BreaksShape className function .constructor fault := by
  rcases Outcome.bind_eq_error_iff.mp failed with inputs | ⟨_, _, results⟩
  · exact breaksShape_of_checkInputs_eq_error .constructor inputs
  · split at results
    · rename_i nothing
      obtain rfl := Except.error.inj results
      exact .noResult nothing
    · rename_i type single
      dsimp only at results
      split at results
      · cases results
      · rename_i other
        obtain rfl := Except.error.inj results
        exact .wrongResult single (Bool.not_eq_true _ ▸ other)
    · rename_i notNone notSingle
      obtain rfl := Except.error.inj results
      refine .manyResults ?_
      rcases many : function.decl.results with _ | ⟨first, _ | ⟨second, others⟩⟩
      · exact absurd many notNone
      · exact absurd many (notSingle first)
      · simp

theorem breaksShape_of_checkDestructor_eq_error {className : String} {function : OwnedFunction}
    {fault : ShapeFault} (failed : checkDestructor function = .error fault) :
    BreaksShape className function .destructor fault := by
  rcases Outcome.bind_eq_error_iff.mp failed with inputs | ⟨_, _, results⟩
  · exact breaksShape_of_checkInputs_eq_error .destructor inputs
  · split at results
    · cases results
    · rename_i something
      obtain rfl := Except.error.inj results
      exact .unwantedResults something

theorem exists_of_asConstructor_eq_error {className : String} {function : OwnedFunction}
    {error : ScanError} (failed : asConstructor className function = .error error) :
    ∃ fault, BreaksShape className function .constructor fault ∧
      error = .invalidLifecycle .constructor className function.decl.name fault := by
  unfold asConstructor at failed
  split at failed
  · cases failed
  · rename_i fault refused
    exact ⟨fault, breaksShape_of_constructorResult_eq_error refused,
      (Except.error.inj failed).symm⟩

theorem exists_of_asDestructor_eq_error {className : String} {function : OwnedFunction}
    {error : ScanError} (failed : asDestructor className function = .error error) :
    ∃ fault, BreaksShape className function .destructor fault ∧
      error = .invalidLifecycle .destructor className function.decl.name fault := by
  unfold asDestructor at failed
  split at failed
  · cases failed
  · rename_i fault refused
    exact ⟨fault, breaksShape_of_checkDestructor_eq_error refused,
      (Except.error.inj failed).symm⟩

end NativeScript.Scan
