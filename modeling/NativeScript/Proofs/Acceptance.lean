import NativeScript.Proofs.Contents
import NativeScript.Proofs.Discovery
import NativeScript.Proofs.Property

/-!
# Which packages are accepted

A scan succeeds exactly when every condition below holds, each of which is about
one declaration or about two functions that a marker names for one class.  The
registry of an accepted package is then written down without a loop: its classes
are the registered structs, each with what the functions, the signal literals and
its own fields give to it.
-/

namespace NativeScript.Entry.Class

theorem foldl_addProperty (properties : List Property) (entry : Class) :
    properties.foldl addProperty entry =
      { entry with properties := entry.properties ++ properties } := by
  induction properties generalizing entry with
  | nil => simp
  | cons property properties ih =>
      rw [List.foldl_cons, ih]
      simp [addProperty]

end NativeScript.Entry.Class

namespace NativeScript.Scan

open Entry.Class (keepFirst)
open Outcome (Exact)
open Source (OwnedFunction SourceUnit Struct)

/-! ## What is demanded -/

/-- What is demanded of a package for one of its classes. -/
structure MembersSound (config : Config) (contents : Contents) (decl : Struct) : Prop where
  /-- A function that a marker names for the class has the shape of what it is
  named as. -/
  shape : ∀ function ∈ contents.functions, ∀ lifecycle,
    NamesClass config lifecycle decl.name function.decl.attributes →
    HasShape decl.name function lifecycle
  /-- No two functions are named as the same thing. -/
  single : ∀ lifecycle, contents.functions.Pairwise fun first second =>
    ¬ (NamesClass config lifecycle decl.name first.decl.attributes ∧
      NamesClass config lifecycle decl.name second.decl.attributes)
  /-- The export markers of its methods, private ones included, can be read. -/
  exported : ∀ function ∈ contents.functions, isMethodOf decl.name function = true →
    AliasReadable config "export" function.decl.attributes
  /-- Its fields can be read, the base field apart. -/
  fields : ∀ fields index field, decl.fields = .named fields → fields[index]? = some field →
    baseIndex? config decl ≠ some index → FieldSound config field

/-- What is demanded of a package.  Functions are not looked at as long as no
struct is registered. -/
structure Accepted (config : Config) (contents : Contents) : Prop where
  /-- Every register marker can be read. -/
  markers : ∀ decl ∈ contents.structs, AliasReadable config "register" decl.attributes
  /-- The registered structs have distinct names. -/
  names : ((registered config contents.structs).map Struct.name).Nodup
  /-- No function takes the reserved name. -/
  reserved : registered config contents.structs ≠ [] →
    ∀ function ∈ contents.functions, function.decl.name ≠ config.reservedInit
  /-- Every lifecycle marker names a class, registered or not. -/
  targets : registered config contents.structs ≠ [] →
    ∀ function ∈ contents.functions, ∀ lifecycle,
      TargetsReadable config lifecycle function.decl.attributes
  /-- Every registered class can take in its members. -/
  members : ∀ decl ∈ registered config contents.structs, MembersSound config contents decl

/-! ## What comes out -/

/-- The class that a registered struct becomes. -/
def classOf (config : Config) (contents : Contents) (decl : Struct) : Entry.Class where
  name := decl.name
  base := baseName config decl
  exposedAs := (registerWords config decl).exposedAs
  tool := (registerWords config decl).tool
  maker := (makersOf config decl.name contents.functions).head?
  disposer := (disposersOf config decl.name contents.functions).head?
  methods := methodsOf config decl.name contents.functions
  properties := propertiesOf config decl
  signals := (signalsOf config decl.name contents.records).foldl keepFirst []

/-- The classes of a package. -/
def classesOf (config : Config) (contents : Contents) : List Entry.Class :=
  (registered config contents.structs).map (classOf config contents)

theorem names_classesOf (config : Config) (contents : Contents) :
    (Registry.ofClasses (classesOf config contents)).names =
      (registered config contents.structs).map Struct.name := by
  simp [Registry.names, Registry.ofClasses, classesOf, classOf]

theorem classes_ofClasses (classes : List Entry.Class) :
    (Registry.ofClasses classes).classes = classes :=
  rfl

/-! ## One class -/

theorem atMostOne_filter_iff {α : Type} {passes : α → Prop} [DecidablePred passes]
    {items : List α} :
    AtMostOne (items.filter fun item => passes item) ↔
      items.Pairwise fun first second => ¬ (passes first ∧ passes second) := by
  induction items with
  | nil => simp [AtMostOne]
  | cons item items ih =>
      rw [List.pairwise_cons, ← ih]
      by_cases passed : passes item
      · simp only [List.filter_cons, passed, decide_true, if_true, true_and]
        constructor
        · intro atMost
          have others : items.filter (fun item => passes item) = [] := by
            simpa [AtMostOne] using atMost
          exact ⟨by simpa using others, by simp [others, AtMostOne]⟩
        · rintro ⟨failed, _⟩
          have others : items.filter (fun item => passes item) = [] := by simpa using failed
          simp [others, AtMostOne]
      · simp [passed]

/-- At most one function is named for a class exactly if no two are. -/
theorem atMostOne_map_named_iff {β : Type} {config : Config} {lifecycle : Lifecycle}
    {className : String} {functions : List OwnedFunction} {entryOf : OwnedFunction → β} :
    AtMostOne ((named config lifecycle className functions).map entryOf) ↔
      functions.Pairwise fun first second =>
        ¬ (NamesClass config lifecycle className first.decl.attributes ∧
          NamesClass config lifecycle className second.decl.attributes) := by
  rw [← atMostOne_filter_iff, AtMostOne, List.length_map]
  rfl

theorem functionsSound_discoveryOf_iff {config : Config} {decl : Struct}
    {functions : List OwnedFunction} :
    FunctionsSound config (discoveryOf config decl).entry functions ↔
      (∀ function ∈ functions, FunctionSound config decl.name function) ∧
        ∀ lifecycle, functions.Pairwise fun first second =>
          ¬ (NamesClass config lifecycle decl.name first.decl.attributes ∧
            NamesClass config lifecycle decl.name second.decl.attributes) := by
  constructor
  · rintro ⟨each, makers, disposers⟩
    refine ⟨each, fun lifecycle => ?_⟩
    cases lifecycle with
    | constructor => exact atMostOne_map_named_iff.mp makers
    | destructor => exact atMostOne_map_named_iff.mp disposers
  · rintro ⟨each, single⟩
    exact ⟨each, atMostOne_map_named_iff.mpr (single .constructor),
      atMostOne_map_named_iff.mpr (single .destructor)⟩

/-- What binding the functions and the fields of a class demands, sorted by what
it is about. -/
theorem membersSound_iff {config : Config} {contents : Contents} {decl : Struct} :
    (FunctionsSound config (discoveryOf config decl).entry contents.functions ∧
        ∀ field ∈ candidateFields config decl, FieldSound config field) ↔
      (∀ function ∈ contents.functions, ∀ lifecycle,
          TargetsReadable config lifecycle function.decl.attributes) ∧
        MembersSound config contents decl := by
  rw [functionsSound_discoveryOf_iff]
  constructor
  · rintro ⟨⟨each, single⟩, fields⟩
    refine ⟨fun function member => (each function member).targets, ?_⟩
    exact {
      shape := fun function member => (each function member).shape
      single
      exported := fun function member => (each function member).exported
      fields := fun named index field isNamed found other =>
        fields field (mem_candidateFields_iff.mpr ⟨named, index, isNamed, found, other⟩) }
  · rintro ⟨targets, shape, single, exported, fields⟩
    refine ⟨⟨fun function member => ⟨targets function member, shape function member,
      exported function member⟩, single⟩, ?_⟩
    intro field candidate
    rcases mem_candidateFields_iff.mp candidate with ⟨named, index, isNamed, found, other⟩
    exact fields named index field isNamed found other

theorem completeFrom_exact (config : Config) (contents : Contents) (decl : Struct) :
    Exact (completeFrom config contents (discoveryOf config decl))
      ((∀ function ∈ contents.functions, ∀ lifecycle,
          TargetsReadable config lifecycle function.decl.attributes) ∧
        MembersSound config contents decl)
      (classOf config contents decl) := by
  have exactFunctions :=
    bindFunctions_exact config contents.functions (discoveryOf config decl).entry
  have exactFields := readProperties_exact config decl
  refine Exact.congr (exactFunctions.bind fun _ => exactFields.bind_ok rfl) membersSound_iff
    fun _ => ?_
  rw [Entry.Class.foldl_addProperty]
  rfl

/-! ## The package -/

/-- Classes are completed exactly if all lifecycle markers can be read and every
class can take in its members. -/
theorem completeAll_exact (config : Config) (contents : Contents) {decls : List Struct}
    (nonempty : decls ≠ []) :
    Exact ((discoveries config decls).mapM (completeFrom config contents))
      ((∀ function ∈ contents.functions, ∀ lifecycle,
          TargetsReadable config lifecycle function.decl.attributes) ∧
        ∀ decl ∈ decls, MembersSound config contents decl)
      (decls.map (classOf config contents)) := by
  rw [discoveries, List.mapM_map]
  refine (Exact.mapM decls fun decl _ => completeFrom_exact config contents decl).congr ?_
    fun _ => rfl
  constructor
  · intro each
    rcases List.exists_mem_of_ne_nil decls nonempty with ⟨decl, member⟩
    exact ⟨(each decl member).1, fun decl member => (each decl member).2⟩
  · rintro ⟨targets, members⟩ decl member
    exact ⟨targets, members decl member⟩

/-- Members are bound exactly if what is demanded of functions and fields holds,
which is nothing if there is no class. -/
theorem bindAll_exact (config : Config) (contents : Contents) (decls : List Struct) :
    Exact
      (if (discoveries config decls).isEmpty then
        .ok Registry.empty
      else if contents.functions.any (·.decl.name == config.reservedInit) then
        .error (.reservedName config.reservedInit)
      else
        ((discoveries config decls).mapM (completeFrom config contents)).map Registry.ofClasses)
      (decls ≠ [] →
        (∀ function ∈ contents.functions, function.decl.name ≠ config.reservedInit) ∧
        (∀ function ∈ contents.functions, ∀ lifecycle,
          TargetsReadable config lifecycle function.decl.attributes) ∧
        ∀ decl ∈ decls, MembersSound config contents decl)
      (Registry.ofClasses (decls.map (classOf config contents))) := by
  by_cases empty : decls = []
  · subst empty
    exact Exact.ok fun nonempty => absurd rfl nonempty
  · rw [if_neg (by simpa [discoveries] using empty)]
    by_cases taken : contents.functions.any (·.decl.name == config.reservedInit) = true
    · rw [if_pos taken]
      apply Exact.error
      intro demanded
      rcases List.any_eq_true.mp taken with ⟨function, member, same⟩
      exact (demanded empty).1 function member (eq_of_beq same)
    · have free : ∀ function ∈ contents.functions, function.decl.name ≠ config.reservedInit := by
        intro function member same
        exact taken (List.any_eq_true.mpr ⟨function, member, beq_iff_eq.mpr same⟩)
      rw [if_neg taken]
      refine (completeAll_exact config contents empty).map.congr ?_ fun _ => rfl
      constructor
      · intro members _
        exact ⟨free, members⟩
      · intro demanded
        exact (demanded empty).2

theorem accepted_iff {config : Config} {contents : Contents} :
    Accepted config contents ↔
      ((∀ decl ∈ contents.structs, AliasReadable config "register" decl.attributes) ∧
          ((registered config contents.structs).map Struct.name).Nodup) ∧
        (registered config contents.structs ≠ [] →
          (∀ function ∈ contents.functions, function.decl.name ≠ config.reservedInit) ∧
          (∀ function ∈ contents.functions, ∀ lifecycle,
            TargetsReadable config lifecycle function.decl.attributes) ∧
          ∀ decl ∈ registered config contents.structs, MembersSound config contents decl) := by
  constructor
  · rintro ⟨markers, names, reserved, targets, members⟩
    exact ⟨⟨markers, names⟩, fun nonempty => ⟨reserved nonempty, targets nonempty, members⟩⟩
  · rintro ⟨⟨markers, names⟩, rest⟩
    exact {
      markers
      names
      reserved := fun nonempty => (rest nonempty).1
      targets := fun nonempty => (rest nonempty).2.1
      members := fun decl member => (rest (List.ne_nil_of_mem member)).2.2 decl member }

/-- The outcome of a scan, exactly. -/
theorem package_exact (config : Config) (units : List SourceUnit) :
    Exact (package config units).outcome (Accepted config (.ofUnits units))
      (.ofClasses (classesOf config (.ofUnits units))) := by
  rw [outcome_package]
  refine Exact.congr
    ((discoverAll_exact config _).bind fun _ => bindAll_exact config _ _)
    accepted_iff.symm fun _ => rfl

/-- A scan succeeds exactly on the packages that are accepted. -/
theorem package_succeeds_iff (config : Config) (units : List SourceUnit) :
    (∃ registry, (package config units).outcome = .ok registry) ↔
      Accepted config (.ofUnits units) :=
  (package_exact config units).exists_iff

end NativeScript.Scan
