import Mathlib.Data.List.Chain
import Mathlib.Data.List.Nodup
import NativeScript.Proofs.Acceptance
import NativeScript.Proofs.LetterCase

/-!
# Names in snake case

A name is made of words: they end at underscores, and before a capital behind a lower-case
letter or a digit.  Snake case puts an underscore between the words and lowers their capitals,
so names become the same exactly if their words are, up to that lowering.  Names in camel case
have the words' bounds in their capitals, and stay apart.
-/

namespace NativeScript.Text

/-! ## Lowered capitals -/

/-- A character, lowered if it is a capital. -/
def lowerCapital (char : Char) : List Char :=
  if isUpper char then lowered char else [char]

theorem underscore_notMem_lowerCapital {char : Char} (other : char ≠ '_') :
    '_' ∉ lowerCapital char := by
  unfold lowerCapital
  split
  · exact underscore_notMem_lowered other
  · simpa using other.symm

/-- A text with its capitals lowered. -/
def lowerCapitals (text : List Char) : List Char :=
  text.flatMap lowerCapital

/-! ## Splitting -/

section

variable {α : Type} [BEq α] [LawfulBEq α] {separator : α}

theorem splitOn_append_of_notMem {first : List α} (clean : separator ∉ first) (rest : List α) :
    (first ++ rest).splitOn separator = (rest.splitOn separator).modifyHead (first ++ ·) := by
  induction first with
  | nil =>
      rw [List.nil_append]
      cases rest.splitOn separator <;> rfl
  | cons item first ih =>
      rw [List.mem_cons, not_or] at clean
      have other : (item == separator) = false := beq_eq_false_iff_ne.mpr (Ne.symm clean.1)
      rw [List.cons_append, List.splitOn_cons_eq_if_modifyHead, other, if_neg Bool.false_ne_true,
        ih clean.2, List.modifyHead_modifyHead]
      rfl

/-- A text may be split before or after its items are changed, if the separator is kept and
no other item gives one. -/
theorem splitOn_flatMap {change : α → List α} (keeps : change separator = [separator])
    (clean : ∀ item, item ≠ separator → separator ∉ change item) (text : List α) :
    (text.flatMap change).splitOn separator =
      (text.splitOn separator).map (List.flatMap change) := by
  induction text with
  | nil => rfl
  | cons item text ih =>
      rw [List.flatMap_cons, List.splitOn_cons_eq_if_modifyHead]
      by_cases same : item = separator
      · subst same
        rw [keeps, List.singleton_append, List.splitOn_cons_eq_if_modifyHead, beq_self_eq_true,
          if_pos rfl, if_pos rfl, ih]
        rfl
      · rw [splitOn_append_of_notMem (clean item same), ih, beq_eq_false_iff_ne.mpr same,
          if_neg Bool.false_ne_true]
        cases text.splitOn separator <;> simp

theorem splitOn_inj {first second : List α} :
    first.splitOn separator = second.splitOn separator ↔ first = second := by
  constructor
  · intro same
    have joined := congrArg [separator].intercalate same
    rwa [List.intercalate_splitOn, List.intercalate_splitOn] at joined
  · rintro rfl
    rfl

end

theorem splitOn_lowerCapitals (text : List Char) :
    (lowerCapitals text).splitOn '_' = (text.splitOn '_').map lowerCapitals :=
  splitOn_flatMap (show lowerCapital '_' = ['_'] from rfl)
    (fun _ => underscore_notMem_lowerCapital) text

end NativeScript.Text

namespace NativeScript.Entry

/-! ## Words -/

/-- Whether a word ends behind a character if a capital follows: it is a lower-case letter or a
digit. -/
def endsWord (char : Char) : Bool :=
  !Text.isUpper char && (Text.isLower char || char.isDigit)

/-- What stands between two words of which the second one begins with a capital; nothing if no
word ends there. -/
def gap (ends : Bool) : List Char → List Char
  | [] => []
  | next :: _ => if ends && Text.isUpper next then ['_'] else []

/-- A name with an underscore between any two words. -/
def spaced : List Char → List Char
  | [] => []
  | char :: name => char :: (gap (endsWord char) name ++ spaced name)

theorem snakeCaseFrom_cons (afterLower : Bool) (char : Char) (name : List Char) :
    snakeCaseFrom afterLower (char :: name) =
      gap afterLower (char :: name) ++ Text.lowerCapital char ++
        snakeCaseFrom (endsWord char) name := by
  cases capital : Text.isUpper char <;> cases afterLower <;>
    simp [snakeCaseFrom, gap, Text.lowerCapital, endsWord, capital]

@[simp]
theorem gap_false (name : List Char) : gap false name = [] := by
  cases name <;> simp [gap]

/-- A capital starts a new word where one may have ended. -/
theorem snakeCaseFrom_true_of_isUpper {char : Char} (name : List Char)
    (capital : Text.isUpper char = true) :
    snakeCaseFrom true (char :: name) = '_' :: snakeCaseFrom false (char :: name) := by
  rw [snakeCaseFrom_cons, snakeCaseFrom_cons, gap_false, gap, capital]
  rfl

theorem lowerCapitals_gap (ends : Bool) (name : List Char) :
    Text.lowerCapitals (gap ends name) = gap ends name := by
  cases name with
  | nil => rfl
  | cons next name =>
      change Text.lowerCapitals (if ends && Text.isUpper next then ['_'] else []) =
        if ends && Text.isUpper next then ['_'] else []
      cases ends && Text.isUpper next <;> rfl

theorem snakeCaseFrom_eq (afterLower : Bool) (name : List Char) :
    snakeCaseFrom afterLower name = gap afterLower name ++ Text.lowerCapitals (spaced name) := by
  induction name generalizing afterLower with
  | nil => rfl
  | cons char name ih =>
      have split : Text.lowerCapitals (spaced (char :: name)) =
          Text.lowerCapital char ++ (gap (endsWord char) name ++
            Text.lowerCapitals (spaced name)) := by
        rw [← lowerCapitals_gap]
        simp only [spaced, Text.lowerCapitals, List.flatMap_cons, List.flatMap_append]
      rw [snakeCaseFrom_cons, ih, split, List.append_assoc]

/-- The words of a name. -/
def words (name : String) : List (List Char) :=
  (spaced name.toList).splitOn '_'

/-- Names have the same words, if their capitals are lowered. -/
def SameWords (first second : String) : Prop :=
  (words first).map Text.lowerCapitals = (words second).map Text.lowerCapitals

/-- Names become one in snake case exactly if they have the same words. -/
theorem snakeCase_eq_iff {first second : String} :
    snakeCase first = snakeCase second ↔ SameWords first second := by
  have whole (name : List Char) : snakeCaseFrom false name = Text.lowerCapitals (spaced name) := by
    rw [snakeCaseFrom_eq, gap_false, List.nil_append]
  unfold snakeCase SameWords words
  rw [String.ofList_inj, whole, whole, ← Text.splitOn_inj, Text.splitOn_lowerCapitals,
    Text.splitOn_lowerCapitals]

theorem initFunction_eq_iff {first second : String} :
    initFunction first = initFunction second ↔ SameWords first second :=
  (String.append_right_inj _).trans snakeCase_eq_iff

/-! ## Camel case -/

/-- A name in camel case begins with a capital and has no underscore, and each of its other
capitals stands behind a lower-case letter or a digit.  All its capitals are ASCII letters. -/
structure IsCamelCase (name : List Char) : Prop where
  begins : ∃ first rest, name = first :: rest ∧ first.isUpper = true
  single : '_' ∉ name
  ascii : ∀ char ∈ name, Text.isUpper char = true → char.isUpper = true
  apart : name.IsChain fun char next => Text.isUpper next = true → endsWord char = true

theorem snakeCaseFrom_of_not_isUpper {char : Char} (ends : Bool) (name : List Char)
    (small : Text.isUpper char = false) :
    snakeCaseFrom ends (char :: name) = char :: snakeCaseFrom (endsWord char) name := by
  rw [snakeCaseFrom_cons, gap, small, Bool.and_false, Text.lowerCapital, small]
  rfl

/-- What follows in a name in camel case where a word may have ended. -/
structure IsCamelRest (ends : Bool) (name : List Char) : Prop where
  single : '_' ∉ name
  ascii : ∀ char ∈ name, Text.isUpper char = true → char.isUpper = true
  begins : ∀ next ∈ name.head?, Text.isUpper next = true → ends = true
  apart : name.IsChain fun char next => Text.isUpper next = true → endsWord char = true

namespace IsCamelRest

variable {ends : Bool} {char : Char} {name : List Char}

theorem tail (rest : IsCamelRest ends (char :: name)) : IsCamelRest (endsWord char) name where
  single := fun member => rest.single (List.mem_cons_of_mem char member)
  ascii := fun other member => rest.ascii other (List.mem_cons_of_mem char member)
  begins := by
    intro next isNext
    obtain ⟨later, rfl⟩ := List.head?_eq_some_iff.mp isNext
    exact List.rel_of_isChain_cons_cons rest.apart
  apart := rest.apart.tail

theorem snakeCaseFrom_of_isUpper (rest : IsCamelRest ends (char :: name))
    (capital : Text.isUpper char = true) :
    snakeCaseFrom ends (char :: name) =
      '_' :: char.toLower :: snakeCaseFrom (endsWord char) name := by
  have isAscii := rest.ascii char List.mem_cons_self capital
  rw [snakeCaseFrom_cons, rest.begins char rfl capital, Text.lowerCapital, if_pos capital,
    Text.lowered_of_asciiUpper isAscii, gap, capital]
  rfl

theorem snakeCaseFrom_ne_nil (rest : IsCamelRest ends (char :: name)) :
    snakeCaseFrom ends (char :: name) ≠ [] := by
  cases capital : Text.isUpper char with
  | true => simp [rest.snakeCaseFrom_of_isUpper capital]
  | false => simp [snakeCaseFrom_of_not_isUpper ends name capital]

end IsCamelRest

/-- An underscore tells where a capital was. -/
theorem snakeCaseFrom_inj {ends ended : Bool} {first second : List Char}
    (rest : IsCamelRest ends first) (other : IsCamelRest ended second)
    (same : snakeCaseFrom ends first = snakeCaseFrom ended second) : first = second := by
  induction first generalizing ends ended second with
  | nil =>
      cases second with
      | nil => rfl
      | cons next second => exact absurd same.symm other.snakeCaseFrom_ne_nil
  | cons char first ih =>
      cases second with
      | nil => exact absurd same rest.snakeCaseFrom_ne_nil
      | cons next second =>
          have notMark : char ≠ '_' := fun mark => rest.single (mark ▸ List.mem_cons_self)
          have notMarkToo : next ≠ '_' := fun mark => other.single (mark ▸ List.mem_cons_self)
          -- An underscore comes out first exactly for a capital, so both are capitals or neither.
          cases capital : Text.isUpper char <;> cases capitalToo : Text.isUpper next
          · rw [snakeCaseFrom_of_not_isUpper _ _ capital,
              snakeCaseFrom_of_not_isUpper _ _ capitalToo] at same
            obtain ⟨rfl, same⟩ := List.cons.inj same
            rw [ih rest.tail other.tail same]
          · rw [snakeCaseFrom_of_not_isUpper _ _ capital,
              other.snakeCaseFrom_of_isUpper capitalToo] at same
            exact absurd (List.cons.inj same).1 notMark
          · rw [rest.snakeCaseFrom_of_isUpper capital,
              snakeCaseFrom_of_not_isUpper _ _ capitalToo] at same
            exact absurd (List.cons.inj same).1.symm notMarkToo
          · rw [rest.snakeCaseFrom_of_isUpper capital,
              other.snakeCaseFrom_of_isUpper capitalToo] at same
            obtain ⟨lowered, same⟩ := List.cons.inj (List.cons.inj same).2
            obtain rfl := Text.toLower_inj (rest.ascii char List.mem_cons_self capital)
              (other.ascii next List.mem_cons_self capitalToo) lowered
            rw [ih rest.tail other.tail same]

namespace IsCamelCase

theorem isCamelRest {name : List Char} (camel : IsCamelCase name) : IsCamelRest true name where
  single := camel.single
  ascii := camel.ascii
  begins := fun _ _ _ => rfl
  apart := camel.apart

theorem snakeCaseFrom_true {name : List Char} (camel : IsCamelCase name) :
    snakeCaseFrom true name = '_' :: snakeCaseFrom false name := by
  rcases camel.begins with ⟨first, rest, rfl, capital⟩
  exact snakeCaseFrom_true_of_isUpper rest (Text.isUpper_of_asciiUpper capital)

/-- Names in camel case are told apart by their generated functions. -/
theorem eq_of_initFunction_eq {first second : String} (camel : IsCamelCase first.toList)
    (other : IsCamelCase second.toList) (same : initFunction first = initFunction second) :
    first = second := by
  have sameCase : snakeCase first = snakeCase second := (String.append_right_inj _).mp same
  have sameText := congrArg ('_' :: ·) (String.ofList_inj.mp sameCase)
  rw [← camel.snakeCaseFrom_true, ← other.snakeCaseFrom_true] at sameText
  exact String.toList_inj.mp (snakeCaseFrom_inj camel.isCamelRest other.isCamelRest sameText)

end IsCamelCase

end NativeScript.Entry

namespace NativeScript.Scan

open Entry (IsCamelCase SameWords)
open Source (SourceUnit Struct)

/-! ## The generated functions of a registry -/

theorem initFunctions_classesOf (config : Config) (contents : Contents) :
    (Registry.ofClasses (classesOf config contents)).initFunctions =
      (registered config contents.structs).map fun decl => Entry.initFunction decl.name := by
  simp only [Registry.initFunctions, classes_ofClasses, classesOf, List.map_map]
  rfl

/-- The generated functions of a scanned package, one to a registered struct, have different
names exactly if no two structs have the same words in their names, and so they do if all of
these are in camel case. -/
theorem package_initFunctions (config : Config) (units : List SourceUnit) {registry : Registry}
    (isOk : (package config units).outcome = .ok registry) :
    registry.initFunctions = ((registered config (units.flatMap SourceUnit.structs)).map
      fun decl => Entry.initFunction decl.name) ∧
    (registry.initFunctions.Nodup ↔
      (registered config (units.flatMap SourceUnit.structs)).Pairwise fun first second =>
        ¬ SameWords first.name second.name) ∧
    ((∀ decl ∈ registered config (units.flatMap SourceUnit.structs),
        IsCamelCase decl.name.toList) → registry.initFunctions.Nodup) := by
  rcases (package_exact config units registry).mp isOk with ⟨accepted, rfl⟩
  rw [initFunctions_classesOf]
  refine ⟨rfl, ?_, ?_⟩
  · rw [List.Nodup, List.pairwise_map]
    simp only [Ne, Entry.initFunction_eq_iff]
    rfl
  · intro camel
    refine List.Nodup.map_on ?_ (List.Nodup.of_map Struct.name accepted.names)
    intro first isFirst second isSecond same
    exact List.inj_on_of_nodup_map accepted.names isFirst isSecond
      ((camel first isFirst).eq_of_initFunction_eq (camel second isSecond) same)

/-- A unit with two registered structs. -/
def barUnit (first second : String) : SourceUnit where
  attributes := []
  items := [
    .struct ⟨[docComment "godot::register"], first, [], .none⟩,
    .struct ⟨[docComment "godot::register"], second, [], .none⟩]

/-- The classes of such a unit. -/
def barRegistry (first second : String) : Registry :=
  .ofClasses [{ name := first }, { name := second }]

/-- Two structs in camel case have a generated function each. -/
theorem package_initFunctions_bar :
    (package {} [barUnit "HpBar" "HitBox2D"]).outcome = .ok (barRegistry "HpBar" "HitBox2D") ∧
    (barRegistry "HpBar" "HitBox2D").initFunctions =
      ["native_script_init_hp_bar", "native_script_init_hit_box2_d"] ∧
    (barRegistry "HpBar" "HitBox2D").initFunctions.Nodup := by
  have isOk : (package {} [barUnit "HpBar" "HitBox2D"]).outcome =
      .ok (barRegistry "HpBar" "HitBox2D") := rfl
  rcases package_initFunctions {} [barUnit "HpBar" "HitBox2D"] isOk with ⟨_, _, inCamelCase⟩
  refine ⟨isOk, rfl, inCamelCase fun decl isClass => ?_⟩
  have member := List.mem_of_mem_filter isClass
  -- The list of a name's characters is searched, not the finite type of all characters.
  rcases List.mem_pair.mp member with rfl | rfl
  · exact ⟨⟨_, _, rfl, rfl⟩, by decide, @of_decide_eq_true _ (List.decidableBAll _ _) rfl,
      by decide⟩
  · exact ⟨⟨_, _, rfl, rfl⟩, by decide, @of_decide_eq_true _ (List.decidableBAll _ _) rfl,
      by decide⟩

/-- A scan may give two classes one generated function. -/
theorem exists_initFunctions_not_nodup :
    (package {} [barUnit "HPBar" "Hpbar"]).outcome = .ok (barRegistry "HPBar" "Hpbar") ∧
    (barRegistry "HPBar" "Hpbar").initFunctions =
      ["native_script_init_hpbar", "native_script_init_hpbar"] ∧
    ¬ (barRegistry "HPBar" "Hpbar").initFunctions.Nodup :=
  ⟨rfl, rfl, by decide⟩

end NativeScript.Scan
