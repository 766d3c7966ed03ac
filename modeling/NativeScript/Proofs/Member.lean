import NativeScript.Proofs.Marker
import NativeScript.Proofs.Shape
import NativeScript.Scan.Member

/-!
# What functions give to a class

A function gives a class a constructor or a destructor, by a marker that names
the class, and a method.  Binding it succeeds exactly when its markers can be
read, its shape fits and the class has no other such function; what a class gains
from a list of functions is then the list of what each of them gives.
-/

namespace NativeScript.Entry.Class

/-- A class with further members.  Of several constructors or destructors the
first one counts. -/
def gain (entry : Class) (makers : List Constructor) (disposers : List Destructor)
    (methods : List Method) : Class :=
  { entry with
    maker := (entry.maker.toList ++ makers).head?
    disposer := (entry.disposer.toList ++ disposers).head?
    methods := entry.methods ++ methods }

@[simp]
theorem gain_name (entry : Class) (makers : List Constructor) (disposers : List Destructor)
    (methods : List Method) : (entry.gain makers disposers methods).name = entry.name :=
  rfl

@[simp]
theorem gain_nil (entry : Class) : entry.gain [] [] [] = entry := by
  simp [gain]

theorem head?_toList_append {α : Type} (first second : List α) :
    (first.head?.toList ++ second).head? = (first ++ second).head? := by
  cases first <;> simp

/-- Members may be gained one after the other. -/
theorem gain_gain (entry : Class) (makers moreMakers : List Constructor)
    (disposers moreDisposers : List Destructor) (methods moreMethods : List Method) :
    (entry.gain makers disposers methods).gain moreMakers moreDisposers moreMethods =
      entry.gain (makers ++ moreMakers) (disposers ++ moreDisposers) (methods ++ moreMethods) := by
  simp only [gain, head?_toList_append, List.append_assoc]

end NativeScript.Entry.Class

namespace NativeScript.Scan

open Entry (Constructor Destructor Method)
open Outcome (Exact)
open Source (Attribute OwnedFunction)

/-! ## Slots -/

/-- Candidates of which a class takes one, without a second one. -/
def AtMostOne {α : Type} (candidates : List α) : Prop :=
  candidates.length ≤ 1

theorem atMostOne_append_singleton_iff {α : Type} {slot : Option α} {candidate : α} :
    AtMostOne (slot.toList ++ [candidate]) ↔ slot = none := by
  cases slot <;> simp [AtMostOne]

theorem atMostOne_toList {α : Type} (slot : Option α) : AtMostOne slot.toList := by
  cases slot <;> simp [AtMostOne]

/-- A slot that took its first candidate leaves room exactly as all candidates
do. -/
theorem atMostOne_and_atMostOne_iff {α : Type} {first second : List α} :
    AtMostOne first ∧ AtMostOne (first.head?.toList ++ second) ↔ AtMostOne (first ++ second) := by
  match first with
  | [] => simp [AtMostOne]
  | [candidate] => simp [AtMostOne]
  | candidate :: other :: rest => simp [AtMostOne]

/-! ## Constructor and destructor -/

instance (config : Config) (lifecycle : Lifecycle) (className : String)
    (attributes : List Attribute) : Decidable (NamesClass config lifecycle className attributes) :=
  decidable_of_iff (className ∈ targetsOf config lifecycle attributes) mem_targetsOf_iff

/-- The functions that a marker names as a lifecycle function of a class. -/
def named (config : Config) (lifecycle : Lifecycle) (className : String)
    (functions : List OwnedFunction) : List OwnedFunction :=
  functions.filter fun function =>
    NamesClass config lifecycle className function.decl.attributes

/-- The constructors that functions give to a class. -/
def makersOf (config : Config) (className : String) (functions : List OwnedFunction) :
    List Constructor :=
  (named config .constructor className functions).map (constructorOf className)

/-- The destructors that functions give to a class. -/
def disposersOf (config : Config) (className : String) (functions : List OwnedFunction) :
    List Destructor :=
  (named config .destructor className functions).map (destructorOf className)

/-- An action that is taken for the functions that a marker names. -/
theorem marked_exact (config : Config) (lifecycle : Lifecycle) (className : String)
    (attributes : List Attribute) (entry : Entry.Class) {action : Except ScanError Entry.Class}
    {accepted : Prop} {bound : Entry.Class} (exact : Exact action accepted bound) :
    Exact
      (lifecycleTargets config lifecycle (docLines attributes) >>= fun targets =>
        if targets.contains className then action else .ok entry)
      (TargetsReadable config lifecycle attributes ∧
        (NamesClass config lifecycle className attributes → accepted))
      (if NamesClass config lifecycle className attributes then bound else entry) := by
  apply (lifecycleTargets_exact config lifecycle attributes).bind
  intro readable
  by_cases names : NamesClass config lifecycle className attributes
  · have found : (targetsOf config lifecycle attributes).contains className = true := by
      simpa using mem_targetsOf_iff.mpr names
    rw [if_pos found, if_pos names]
    exact exact.congr (by simp [names]) fun _ => rfl
  · have missing : ¬ (targetsOf config lifecycle attributes).contains className = true := by
      simpa using mt mem_targetsOf_iff.mp names
    rw [if_neg missing, if_neg names]
    exact Exact.ok fun isNamed => absurd isNamed names

theorem setConstructor_exact (entry : Entry.Class) (maker : Constructor) :
    Exact (entry.setConstructor maker) (AtMostOne (entry.maker.toList ++ [maker]))
      (entry.gain [maker] [] []) := by
  refine Exact.congr ?_ atMostOne_append_singleton_iff.symm fun _ => rfl
  unfold Entry.Class.setConstructor
  cases taken : entry.maker with
  | some first => exact Exact.error (by simp)
  | none => exact (Exact.ok rfl).congr Iff.rfl fun _ => by simp [Entry.Class.gain, taken]

theorem setDestructor_exact (entry : Entry.Class) (disposer : Destructor) :
    Exact (entry.setDestructor disposer) (AtMostOne (entry.disposer.toList ++ [disposer]))
      (entry.gain [] [disposer] []) := by
  refine Exact.congr ?_ atMostOne_append_singleton_iff.symm fun _ => rfl
  unfold Entry.Class.setDestructor
  cases taken : entry.disposer with
  | some first => exact Exact.error (by simp)
  | none => exact (Exact.ok rfl).congr Iff.rfl fun _ => by simp [Entry.Class.gain, taken]

theorem outcome_bindConstructor (config : Config) (function : OwnedFunction)
    (entry : Entry.Class) :
    (bindConstructor config function entry).outcome =
      lifecycleTargets config .constructor (docLines function.decl.attributes) >>= fun targets =>
        if targets.contains entry.name then
          asConstructor entry.name function >>= entry.setConstructor
        else .ok entry := by
  simp only [bindConstructor, outcome_bind, outcome_ofExcept]
  apply congrArg
  funext targets
  cases targets.contains entry.name <;> simp

theorem outcome_bindDestructor (config : Config) (function : OwnedFunction)
    (entry : Entry.Class) :
    (bindDestructor config function entry).outcome =
      lifecycleTargets config .destructor (docLines function.decl.attributes) >>= fun targets =>
        if targets.contains entry.name then
          asDestructor entry.name function >>= entry.setDestructor
        else .ok entry := by
  simp only [bindDestructor, outcome_bind, outcome_ofExcept]
  apply congrArg
  funext targets
  cases targets.contains entry.name <;> simp

theorem bindConstructor_exact (config : Config) (function : OwnedFunction)
    (entry : Entry.Class) :
    Exact (bindConstructor config function entry).outcome
      (TargetsReadable config .constructor function.decl.attributes ∧
        (NamesClass config .constructor entry.name function.decl.attributes →
          HasShape entry.name function .constructor) ∧
        AtMostOne (entry.maker.toList ++ makersOf config entry.name [function]))
      (entry.gain (makersOf config entry.name [function]) [] []) := by
  have exactAction := (asConstructor_exact entry.name function).bind fun _ =>
    setConstructor_exact entry (constructorOf entry.name function)
  rw [outcome_bindConstructor]
  refine (marked_exact config _ _ _ entry exactAction).congr (and_congr_right fun _ => ?_) ?_
  · by_cases names : NamesClass config .constructor entry.name function.decl.attributes
    · simp [makersOf, named, names]
    · simp [makersOf, named, names, atMostOne_toList]
  · intro _
    by_cases names : NamesClass config .constructor entry.name function.decl.attributes <;>
      simp [makersOf, named, names]

theorem bindDestructor_exact (config : Config) (function : OwnedFunction)
    (entry : Entry.Class) :
    Exact (bindDestructor config function entry).outcome
      (TargetsReadable config .destructor function.decl.attributes ∧
        (NamesClass config .destructor entry.name function.decl.attributes →
          HasShape entry.name function .destructor) ∧
        AtMostOne (entry.disposer.toList ++ disposersOf config entry.name [function]))
      (entry.gain [] (disposersOf config entry.name [function]) []) := by
  have exactAction := (asDestructor_exact entry.name function).bind fun _ =>
    setDestructor_exact entry (destructorOf entry.name function)
  rw [outcome_bindDestructor]
  refine (marked_exact config _ _ _ entry exactAction).congr (and_congr_right fun _ => ?_) ?_
  · by_cases names : NamesClass config .destructor entry.name function.decl.attributes
    · simp [disposersOf, named, names]
    · simp [disposersOf, named, names, atMostOne_toList]
  · intro _
    by_cases names : NamesClass config .destructor entry.name function.decl.attributes <;>
      simp [disposersOf, named, names]

/-! ## Methods -/

/-- Whether a declaration with these attributes is public or exported. -/
def isAdmitted (config : Config) (isPublic : Bool) (attributes : List Attribute) : Bool :=
  isPublic || (markerSays? config "export" attributes).isSome

theorem isAdmitted_iff {config : Config} {isPublic : Bool} {attributes : List Attribute} :
    isAdmitted config isPublic attributes = true ↔
      isPublic = true ∨ HasMarker config "export" attributes := by
  simp [isAdmitted]

/-- The alias that the export marker among attributes gives. -/
def exportAlias? (config : Config) (attributes : List Attribute) : Option String :=
  (markerSays? config "export" attributes).bind MarkerWords.exposedAs

/-- The methods that functions give to a class. -/
def methodsOf (config : Config) (className : String) (functions : List OwnedFunction) :
    List Method :=
  (functions.filter fun function =>
    isMethodOf className function &&
      isAdmitted config function.decl.isPublic function.decl.attributes).map fun function =>
    asMethod className (exportAlias? config function.decl.attributes) function.decl

theorem bindMethod_exact (config : Config) (function : OwnedFunction) (entry : Entry.Class) :
    Exact (bindMethod config function entry).outcome
      (isMethodOf entry.name function = true →
        AliasReadable config "export" function.decl.attributes)
      (entry.gain [] [] (methodsOf config entry.name [function])) := by
  unfold bindMethod methodsOf
  cases isMethod : isMethodOf entry.name function with
  | false => exact (Exact.ok (by simp)).congr Iff.rfl fun _ => by simp [isMethod]
  | true =>
      simp only [if_true, outcome_bind, outcome_ofExcept]
      have exactMarker := markerWords?_exact config "export" function.decl.attributes
      refine (exactMarker.bind_ok ?_).congr (by simp) fun _ => rfl
      by_cases admitted :
          isAdmitted config function.decl.isPublic function.decl.attributes = true
      · have passes := admitted
        unfold isAdmitted at passes
        simp [passes, admitted, isMethod, exportAlias?, Entry.Class.gain, Entry.Class.addMethod]
      · have fails := admitted
        unfold isAdmitted at fails
        simp [fails, admitted]

/-! ## Functions -/

/-- A function that a class can take in: its markers can be read, and it has the
shape of whatever they make it. -/
structure FunctionSound (config : Config) (className : String) (function : OwnedFunction) :
    Prop where
  targets : ∀ lifecycle, TargetsReadable config lifecycle function.decl.attributes
  shape : ∀ lifecycle, NamesClass config lifecycle className function.decl.attributes →
    HasShape className function lifecycle
  exported : isMethodOf className function = true →
    AliasReadable config "export" function.decl.attributes

/-- Functions that a class can take in together. -/
structure FunctionsSound (config : Config) (entry : Entry.Class)
    (functions : List OwnedFunction) : Prop where
  each : ∀ function ∈ functions, FunctionSound config entry.name function
  makers : AtMostOne (entry.maker.toList ++ makersOf config entry.name functions)
  disposers : AtMostOne (entry.disposer.toList ++ disposersOf config entry.name functions)

/-- A class with what functions give to it. -/
def gainFrom (config : Config) (functions : List OwnedFunction) (entry : Entry.Class) :
    Entry.Class :=
  entry.gain (makersOf config entry.name functions) (disposersOf config entry.name functions)
    (methodsOf config entry.name functions)

theorem makersOf_append (config : Config) (className : String)
    (first second : List OwnedFunction) :
    makersOf config className (first ++ second) =
      makersOf config className first ++ makersOf config className second := by
  simp [makersOf, named]

theorem disposersOf_append (config : Config) (className : String)
    (first second : List OwnedFunction) :
    disposersOf config className (first ++ second) =
      disposersOf config className first ++ disposersOf config className second := by
  simp [disposersOf, named]

theorem methodsOf_append (config : Config) (className : String)
    (first second : List OwnedFunction) :
    methodsOf config className (first ++ second) =
      methodsOf config className first ++ methodsOf config className second := by
  simp [methodsOf]

theorem gainFrom_append (config : Config) (first second : List OwnedFunction)
    (entry : Entry.Class) :
    gainFrom config (first ++ second) entry =
      gainFrom config second (gainFrom config first entry) := by
  simp only [gainFrom, Entry.Class.gain_name, Entry.Class.gain_gain, makersOf_append,
    disposersOf_append, methodsOf_append]

/-- Functions are sound together exactly if the first ones are, and the others
are for the class that has taken in the first ones. -/
theorem functionsSound_append_iff {config : Config} {entry : Entry.Class}
    {first second : List OwnedFunction} :
    FunctionsSound config entry (first ++ second) ↔
      FunctionsSound config entry first ∧
        FunctionsSound config (gainFrom config first entry) second := by
  constructor
  · rintro ⟨each, makers, disposers⟩
    rw [makersOf_append, ← List.append_assoc, ← atMostOne_and_atMostOne_iff] at makers
    rw [disposersOf_append, ← List.append_assoc, ← atMostOne_and_atMostOne_iff] at disposers
    refine ⟨⟨fun function member => ?_, makers.1, disposers.1⟩,
      ⟨fun function member => ?_, makers.2, disposers.2⟩⟩
    · exact each function (List.mem_append_left second member)
    · exact each function (List.mem_append_right first member)
  · rintro ⟨⟨eachFirst, firstMakers, firstDisposers⟩, ⟨eachSecond, secondMakers, secondDisposers⟩⟩
    refine ⟨fun function member => ?_, ?_, ?_⟩
    · rcases List.mem_append.mp member with inFirst | inSecond
      · exact eachFirst function inFirst
      · exact eachSecond function inSecond
    · rw [makersOf_append, ← List.append_assoc, ← atMostOne_and_atMostOne_iff]
      exact ⟨firstMakers, secondMakers⟩
    · rw [disposersOf_append, ← List.append_assoc, ← atMostOne_and_atMostOne_iff]
      exact ⟨firstDisposers, secondDisposers⟩

theorem functionsSound_singleton_iff {config : Config} {entry : Entry.Class}
    {function : OwnedFunction} :
    FunctionsSound config entry [function] ↔
      (TargetsReadable config .constructor function.decl.attributes ∧
        (NamesClass config .constructor entry.name function.decl.attributes →
          HasShape entry.name function .constructor) ∧
        AtMostOne (entry.maker.toList ++ makersOf config entry.name [function])) ∧
      (TargetsReadable config .destructor function.decl.attributes ∧
        (NamesClass config .destructor entry.name function.decl.attributes →
          HasShape entry.name function .destructor) ∧
        AtMostOne (entry.disposer.toList ++ disposersOf config entry.name [function])) ∧
      (isMethodOf entry.name function = true →
        AliasReadable config "export" function.decl.attributes) := by
  constructor
  · rintro ⟨each, makers, disposers⟩
    obtain ⟨targets, shape, exported⟩ := each function List.mem_cons_self
    exact ⟨⟨targets _, shape _, makers⟩, ⟨targets _, shape _, disposers⟩, exported⟩
  · rintro ⟨⟨makerTargets, makerShape, makers⟩, ⟨otherTargets, otherShape, disposers⟩, exported⟩
    refine ⟨fun other member => ?_, makers, disposers⟩
    rw [List.mem_singleton.mp member]
    refine ⟨fun lifecycle => ?_, fun lifecycle => ?_, exported⟩
    · cases lifecycle with
      | constructor => exact makerTargets
      | destructor => exact otherTargets
    · cases lifecycle with
      | constructor => exact makerShape
      | destructor => exact otherShape

theorem bindFunction_exact (config : Config) (entry : Entry.Class) (function : OwnedFunction) :
    Exact (bindFunction config entry function).outcome (FunctionsSound config entry [function])
      (gainFrom config [function] entry) := by
  simp only [bindFunction, outcome_bind]
  refine Exact.congr
    ((bindConstructor_exact config function entry).bind fun _ =>
      (bindDestructor_exact config function _).bind fun _ => bindMethod_exact config function _)
    ?_ fun _ => ?_
  · rw [functionsSound_singleton_iff]
    simp [Entry.Class.gain]
  · simp [Entry.Class.gain_gain, gainFrom]

/-- The outcome of binding functions to a class, one after the other. -/
def bindFunctions (config : Config) (functions : List OwnedFunction) (entry : Entry.Class) :
    Except ScanError Entry.Class :=
  functions.foldlM (fun entry function => (bindFunction config entry function).outcome) entry

/-- A class takes in functions exactly if they are sound together. -/
theorem bindFunctions_exact (config : Config) (functions : List OwnedFunction)
    (entry : Entry.Class) :
    Exact (bindFunctions config functions entry) (FunctionsSound config entry functions)
      (gainFrom config functions entry) := by
  induction functions generalizing entry with
  | nil =>
      refine (Exact.ok ?_).congr Iff.rfl fun _ => ?_
      · exact ⟨by simp, by simp [makersOf, named, atMostOne_toList],
          by simp [disposersOf, named, atMostOne_toList]⟩
      · simp [gainFrom, makersOf, disposersOf, methodsOf, named]
  | cons function functions ih =>
      rw [bindFunctions, List.foldlM_cons]
      refine Exact.congr ((bindFunction_exact config entry function).bind fun _ => ih _) ?_
        fun _ => ?_
      · exact functionsSound_append_iff.symm
      · exact (gainFrom_append config [function] functions entry).symm

end NativeScript.Scan
