import Mathlib.Data.List.Forall2
import NativeScript.Proofs.Acceptance

/-!
# Class names on the side of the engine

The engine knows a class by the alias in its register marker, or by the name of its struct if
the marker gives none.  A scan keeps the names of the structs apart and compares no aliases.
Two classes therefore share a name on the side of the engine exactly if their markers give the
same alias, or one marker gives the name of the other struct, whose marker gives none.
-/

namespace NativeScript.Scan

open Source (SourceUnit Struct)

/-! ## Aliases -/

/-- The words after a marker give an alias: the one behind the first `as`. -/
def WordsGive (words : List (List Char)) (exposed : String) : Prop :=
  ∃ before word after, words = before ++ word :: exposed.toList :: after ∧
    (∀ other ∈ before, announcesAlias other = false) ∧ announcesAlias word = true

theorem wordsGive_cons_of_announces {word : List Char} (announces : announcesAlias word = true)
    {words : List (List Char)} {exposed : String} :
    WordsGive (word :: words) exposed ↔ words.head? = some exposed.toList := by
  constructor
  · rintro ⟨before, found, after, split, passed, _⟩
    cases before with
    | nil =>
        obtain ⟨_, rfl⟩ := List.cons.inj split
        rfl
    | cons other before =>
        obtain ⟨rfl, _⟩ := List.cons.inj split
        rw [(List.forall_mem_cons.mp passed).1] at announces
        cases announces
  · intro isNext
    obtain ⟨after, rfl⟩ := List.head?_eq_some_iff.mp isNext
    exact ⟨[], word, after, rfl, by simp, announces⟩

theorem wordsGive_cons_of_not {word : List Char} (passes : announcesAlias word = false)
    {words : List (List Char)} {exposed : String} :
    WordsGive (word :: words) exposed ↔ WordsGive words exposed := by
  constructor
  · rintro ⟨before, found, after, split, passed, announces⟩
    cases before with
    | nil =>
        obtain ⟨rfl, _⟩ := List.cons.inj split
        rw [passes] at announces
        cases announces
    | cons other before =>
        obtain ⟨rfl, rfl⟩ := List.cons.inj split
        exact ⟨before, found, after, rfl, (List.forall_mem_cons.mp passed).2, announces⟩
  · rintro ⟨before, found, after, rfl, passed, announces⟩
    exact ⟨word :: before, found, after, rfl, List.forall_mem_cons.mpr ⟨passes, passed⟩,
      announces⟩

theorem MarkerWords.exposedAs_ofWords_eq_some_iff {words : List (List Char)} {exposed : String} :
    (ofWords words).exposedAs = some exposed ↔ WordsGive words exposed := by
  induction words with
  | nil => simp [ofWords, WordsGive]
  | cons word words ih =>
      cases announces : announcesAlias word with
      | false => rw [ofWords_cons_of_not announces, wordsGive_cons_of_not announces, ih]
      | true =>
          rw [wordsGive_cons_of_announces announces]
          cases words with
          | nil => simp [ofWords, fromAlias_cons_of_announces announces]
          | cons name words =>
              rw [ofWords_cons_of_announces announces, List.head?_cons, Option.some_inj,
                Option.some_inj, ← String.toList_inj, String.toList_ofList]

/-- The register marker of a struct gives an alias. -/
def GivesAlias (config : Config) (decl : Struct) (exposed : String) : Prop :=
  ∃ rest, firstMarker? config "register" decl.attributes = some rest ∧
    WordsGive (Text.words rest) exposed

variable {config : Config} {decl first second : Struct} {exposed name : String}

theorem exposedAs_registerWords_eq_some_iff :
    (registerWords config decl).exposedAs = some exposed ↔ GivesAlias config decl exposed := by
  unfold registerWords markerSays? GivesAlias
  cases firstMarker? config "register" decl.attributes with
  | none => simp
  | some rest => simp [MarkerWords.exposedAs_ofWords_eq_some_iff]

theorem exposedAs_registerWords_eq_none_iff :
    (registerWords config decl).exposedAs = none ↔ ∀ exposed, ¬ GivesAlias config decl exposed := by
  simp [Option.eq_none_iff_forall_ne_some, exposedAs_registerWords_eq_some_iff]

/-! ## Names -/

/-- The name by which the engine knows the class of a struct. -/
inductive KnownAs (config : Config) (decl : Struct) : String → Prop
  | exposed {name : String} (given : GivesAlias config decl name) : KnownAs config decl name
  | own (bare : ∀ exposed, ¬ GivesAlias config decl exposed) : KnownAs config decl decl.name

theorem knownAs_iff :
    KnownAs config decl name ↔ (registerWords config decl).exposedAs.getD decl.name = name := by
  cases words : (registerWords config decl).exposedAs with
  | none =>
      have bare := exposedAs_registerWords_eq_none_iff.mp words
      constructor
      · rintro (given | _)
        · exact absurd given (bare name)
        · rfl
      · rintro rfl
        exact .own bare
  | some exposed =>
      have given := exposedAs_registerWords_eq_some_iff.mp words
      constructor
      · rintro (other | bare)
        · rw [← exposedAs_registerWords_eq_some_iff, words] at other
          exact Option.some.inj other
        · exact absurd given (bare exposed)
      · rintro rfl
        exact .exposed given

/-- The marker of one struct gives an alias that the class of the other is known by. -/
inductive TakesNameOf (config : Config) (first second : Struct) : Prop
  | exposed {name : String} (given : GivesAlias config first name)
      (givenToo : GivesAlias config second name)
  | own (given : GivesAlias config first second.name)
      (bare : ∀ exposed, ¬ GivesAlias config second exposed)

/-- Structs of different names share one on the side of the engine if one of them takes that
of the other. -/
theorem exists_knownAs_iff (apart : first.name ≠ second.name) :
    (∃ name, KnownAs config first name ∧ KnownAs config second name) ↔
      TakesNameOf config first second ∨ TakesNameOf config second first := by
  constructor
  · rintro ⟨name, knownFirst, knownSecond⟩
    cases knownFirst with
    | exposed given =>
        cases knownSecond with
        | exposed givenToo => exact Or.inl (.exposed given givenToo)
        | own bare => exact Or.inl (.own given bare)
    | own bare =>
        generalize shared : first.name = name at knownSecond
        cases knownSecond with
        | exposed given =>
            subst shared
            exact Or.inr (.own given bare)
        | own _ => exact absurd shared apart
  · rintro ((⟨given, givenToo⟩ | ⟨given, bare⟩) | (⟨given, givenToo⟩ | ⟨given, bare⟩))
    · exact ⟨_, .exposed given, .exposed givenToo⟩
    · exact ⟨_, .exposed given, .own bare⟩
    · exact ⟨_, .exposed givenToo, .exposed given⟩
    · exact ⟨_, .own bare, .exposed given⟩

/-! ## The names of a registry -/

theorem registeredName_classOf (contents : Contents) :
    (classOf config contents decl).registeredName =
      (registerWords config decl).exposedAs.getD decl.name :=
  rfl

theorem knownAs_registeredName_classOf (contents : Contents) :
    KnownAs config decl (classOf config contents decl).registeredName :=
  knownAs_iff.mpr (registeredName_classOf contents).symm

theorem nodup_registeredNames_iff (contents : Contents) {decls : List Struct}
    (distinct : (decls.map Struct.name).Nodup) :
    ((decls.map (classOf config contents)).map Entry.Class.registeredName).Nodup ↔
      decls.Pairwise fun first second =>
        ¬ TakesNameOf config first second ∧ ¬ TakesNameOf config second first := by
  rw [List.map_map, List.Nodup, List.pairwise_map]
  rw [List.Nodup, List.pairwise_map] at distinct
  have apart_iff {first second : Struct} (apart : first.name ≠ second.name) :
      (classOf config contents first).registeredName ≠
          (classOf config contents second).registeredName ↔
        ¬ TakesNameOf config first second ∧ ¬ TakesNameOf config second first := by
    rw [← not_or, ← exists_knownAs_iff apart]
    simp only [knownAs_iff, exists_eq_left', registeredName_classOf]
    exact not_congr eq_comm
  constructor
  · intro differ
    exact (distinct.and differ).imp fun both => (apart_iff both.1).mp both.2
  · intro free
    exact (distinct.and free).imp fun both => (apart_iff both.1).mpr both.2

/-- A scanned package has classes of different names, and on the side of the engine their
names differ exactly if no struct takes the name of another. -/
theorem package_engineNames (config : Config) (units : List SourceUnit) {registry : Registry}
    (isOk : (package config units).outcome = .ok registry) :
    registry.names.Nodup ∧
    List.Forall₂ (fun decl entry => KnownAs config decl entry.registeredName)
      (registered config (units.flatMap SourceUnit.structs)) registry.classes ∧
    ((registry.classes.map Entry.Class.registeredName).Nodup ↔
      (registered config (units.flatMap SourceUnit.structs)).Pairwise fun first second =>
        ¬ TakesNameOf config first second ∧ ¬ TakesNameOf config second first) := by
  rcases (package_exact config units registry).mp isOk with ⟨accepted, rfl⟩
  refine ⟨?_, ?_, nodup_registeredNames_iff (.ofUnits units) accepted.names⟩
  · rw [names_classesOf]
    exact accepted.names
  · rw [classes_ofClasses, classesOf, List.forall₂_map_right_iff]
    exact List.forall₂_same.mpr fun decl _ => knownAs_registeredName_classOf (.ofUnits units)

/-- A unit with two structs, of which the second one is registered with this line. -/
def heroUnit (line : String) : SourceUnit where
  attributes := []
  items := [
    .struct ⟨[docComment "godot::register as Hero"], "Knight", [], .none⟩,
    .struct ⟨[docComment line], "Wizard", [], .none⟩]

/-- The classes of such a unit. -/
def heroRegistry (exposed : Option String) : Registry :=
  .ofClasses [
    { name := "Knight", exposedAs := some "Hero" },
    { name := "Wizard", exposedAs := exposed }]

/-- With an alias for one struct, both have a name of their own. -/
theorem package_engineNames_hero :
    (package {} [heroUnit "godot::register"]).outcome = .ok (heroRegistry none) ∧
    (registered {} (heroUnit "godot::register").structs).Pairwise fun first second =>
      ¬ TakesNameOf {} first second ∧ ¬ TakesNameOf {} second first := by
  have isOk : (package {} [heroUnit "godot::register"]).outcome = .ok (heroRegistry none) := rfl
  have differ : ((heroRegistry none).classes.map Entry.Class.registeredName).Nodup := by decide
  exact ⟨isOk, (package_engineNames {} [heroUnit "godot::register"] isOk).2.2.mp differ⟩

/-- A scan may give two classes one name on the side of the engine. -/
theorem exists_registeredNames_not_nodup :
    (package {} [heroUnit "godot::register as Hero"]).outcome =
      .ok (heroRegistry (some "Hero")) ∧
    (heroRegistry (some "Hero")).classes.map Entry.Class.registeredName = ["Hero", "Hero"] ∧
    ¬ ((heroRegistry (some "Hero")).classes.map Entry.Class.registeredName).Nodup :=
  ⟨rfl, rfl, by decide⟩

end NativeScript.Scan
