import NativeScript.Proofs.Outcome
import NativeScript.Scan.Marker

/-!
# What markers say

The words after a register or export marker are read up to the first `as` and
the word behind it.  They cannot be read exactly when that `as` is the last word.
A lifecycle marker names a class exactly when one pair of parentheses with a name
in it follows.
-/

namespace NativeScript.Scan

open Outcome (Exact)
open Source (Attribute)

/-! ## Words after a marker -/

/-- Whether a word announces an alias. -/
def announcesAlias (word : List Char) : Bool :=
  Text.sameFolded word "as".toList

/-- The words from the first `as` on. -/
def fromAlias (words : List (List Char)) : List (List Char) :=
  words.dropWhile fun word => !announcesAlias word

/-- Words that announce an alias and end without one. -/
def LacksAlias (words : List (List Char)) : Prop :=
  (fromAlias words).length = 1

/-- What words after a marker say: the word behind the first `as` is the alias,
and `tool` counts before it. -/
def MarkerWords.ofWords (words : List (List Char)) : MarkerWords where
  tool := (words.takeWhile fun word => !announcesAlias word).any
    (Text.sameFolded · "tool".toList)
  exposedAs := (fromAlias words)[1]?.map String.ofList

@[simp]
theorem fromAlias_nil : fromAlias [] = [] :=
  rfl

theorem fromAlias_cons_of_announces {word : List Char} (announces : announcesAlias word = true)
    (words : List (List Char)) : fromAlias (word :: words) = word :: words := by
  simp [fromAlias, announces]

theorem fromAlias_cons_of_not {word : List Char} (passed : announcesAlias word = false)
    (words : List (List Char)) : fromAlias (word :: words) = fromAlias words := by
  simp [fromAlias, passed]

namespace MarkerWords

theorem ofWords_cons_of_announces {word : List Char} (announces : announcesAlias word = true)
    (name : List Char) (words : List (List Char)) :
    ofWords (word :: name :: words) = { exposedAs := some (String.ofList name) } := by
  rw [ofWords, fromAlias_cons_of_announces announces]
  simp [announces]

theorem ofWords_cons_of_not {word : List Char} (passed : announcesAlias word = false)
    (words : List (List Char)) :
    ofWords (word :: words) =
      { ofWords words with
        tool := Text.sameFolded word "tool".toList || (ofWords words).tool } := by
  rw [ofWords, fromAlias_cons_of_not passed, List.takeWhile_cons, passed]
  rfl

theorem read_exact (words : List (List Char)) :
    Exact (read words) (¬ LacksAlias words) (ofWords words) := by
  induction words with
  | nil => exact Exact.ok (by simp [LacksAlias])
  | cons word words ih =>
      cases announces : announcesAlias word with
      | false =>
          have step : read (word :: words) = (read words).map fun found =>
              { found with tool := Text.sameFolded word "tool".toList || found.tool } :=
            if_neg (Bool.not_eq_true _ ▸ announces)
          rw [step]
          exact ih.map.congr (by rw [LacksAlias, LacksAlias, fromAlias_cons_of_not announces])
            fun _ => (ofWords_cons_of_not announces words).symm
      | true =>
          cases words with
          | nil =>
              have step : read [word] = .error .noAlias := if_pos announces
              rw [step]
              exact Exact.error (by simp [LacksAlias, fromAlias_cons_of_announces announces])
          | cons name words =>
              have step : read (word :: name :: words) =
                  .ok { exposedAs := some (String.ofList name) } := if_pos announces
              rw [step, ofWords_cons_of_announces announces]
              exact Exact.ok (by simp [LacksAlias, fromAlias_cons_of_announces announces])

end MarkerWords

/-! ## Register and export markers -/

/-- The attribute that a line of a doc comment stands for. -/
def docComment (line : String) : Attribute where
  path := ⟨false, [], "doc", true⟩
  content := .value (.text line)

/-- What follows the first marker of a name in the doc comment among
attributes. -/
def firstMarker? (config : Config) (name : String) (attributes : List Attribute) :
    Option (List Char) :=
  (docLines attributes).findSome? (afterMarker? (config.marker name))

/-- Whether a marker of a name stands among attributes. -/
def HasMarker (config : Config) (name : String) (attributes : List Attribute) : Prop :=
  (firstMarker? config name attributes).isSome = true

/-- Attributes whose first marker of a name, if there is one, gives an alias
after its `as`, if that has one. -/
def AliasReadable (config : Config) (name : String) (attributes : List Attribute) : Prop :=
  ∀ rest, firstMarker? config name attributes = some rest → ¬ LacksAlias (Text.words rest)

/-- What the first marker of a name among attributes says. -/
def markerSays? (config : Config) (name : String) (attributes : List Attribute) :
    Option MarkerWords :=
  (firstMarker? config name attributes).map fun rest => MarkerWords.ofWords (Text.words rest)

@[simp]
theorem markerSays?_isSome_iff {config : Config} {name : String} {attributes : List Attribute} :
    (markerSays? config name attributes).isSome = true ↔ HasMarker config name attributes := by
  simp [markerSays?, HasMarker]

theorem markerWords?_exact (config : Config) (name : String) (attributes : List Attribute) :
    Exact (markerWords? config name (docLines attributes))
      (AliasReadable config name attributes) (markerSays? config name attributes) := by
  unfold AliasReadable markerSays? firstMarker?
  induction docLines attributes with
  | nil => exact Exact.ok (by simp)
  | cons line lines ih =>
      cases after : afterMarker? (config.marker name) line with
      | none => simpa [markerWords?, after] using ih
      | some rest =>
          have exact := MarkerWords.read_exact (Text.words rest)
          cases outcome : MarkerWords.read (Text.words rest) with
          | error fault =>
              have lacks := Classical.not_not.mp (exact.not_of_eq_error outcome)
              simp only [markerWords?, after, outcome, List.findSome?_cons]
              exact Exact.error (by simpa using lacks)
          | ok found =>
              rcases (exact found).mp outcome with ⟨readable, rfl⟩
              simp only [markerWords?, after, outcome, List.findSome?_cons]
              exact Exact.ok (by simpa using readable)

/-! ## Lifecycle markers -/

variable {rest inner : List Char}

/-- A text is, up to blanks, a pair of parentheses with `inner` between them. -/
def Encloses (rest inner : List Char) : Prop :=
  ∃ before after, rest = before ++ ('(' :: (inner ++ ')' :: after)) ∧ Text.AllBlank before ∧
    Text.AllBlank after

theorem encloses_iff : Encloses rest inner ↔ Text.trim rest = '(' :: (inner ++ [')']) := by
  have opening : Text.isBlank '(' = false := by decide
  have closing : Text.isBlank ')' = false := by decide
  have last : ('(' :: (inner ++ [')'])).getLast? = some ')' := by
    rw [← List.cons_append, List.getLast?_concat]
  rw [Text.trim_eq_iff, Encloses]
  simp [opening, closing, last]

/-- What stands between the parentheses around a text. -/
theorem insideParentheses_eq_some_iff :
    (Text.after? ['('] (Text.trim rest)).bind (Text.before? [')']) = some inner ↔
      Encloses rest inner := by
  rw [encloses_iff]
  simp only [Option.bind_eq_some_iff, Text.after?_eq_some_iff, Text.before?_eq_some_iff]
  constructor
  · rintro ⟨behind, group, rfl⟩
    exact group
  · intro group
    exact ⟨inner ++ [')'], group, rfl⟩

/-- What a text behind a lifecycle marker says: a class, or the first rule that it breaks. -/
inductive ReadsTarget (rest : List Char) : Except MarkerFault String → Prop
  | noParentheses (bare : ∀ inner, ¬ Encloses rest inner) :
      ReadsTarget rest (.error .noParentheses)
  | manyParentheses {inner : List Char} (encloses : Encloses rest inner)
      (nested : '(' ∈ inner ∨ ')' ∈ inner) : ReadsTarget rest (.error .manyParentheses)
  | noClass {inner : List Char} (encloses : Encloses rest inner)
      (flat : ¬ ('(' ∈ inner ∨ ')' ∈ inner)) (blank : Text.AllBlank inner) :
      ReadsTarget rest (.error .noClass)
  | target {inner : List Char} (encloses : Encloses rest inner)
      (flat : ¬ ('(' ∈ inner ∨ ')' ∈ inner)) (filled : ¬ Text.AllBlank inner) :
      ReadsTarget rest (.ok (String.ofList (Text.trim inner)))

theorem readTarget_eq_iff {outcome : Except MarkerFault String} :
    readTarget rest = outcome ↔ ReadsTarget rest outcome := by
  constructor
  · rintro rfl
    unfold readTarget
    split
    · rename_i outside
      refine .noParentheses fun inner encloses => ?_
      rw [insideParentheses_eq_some_iff.mpr encloses] at outside
      cases outside
    · rename_i inner inside
      have encloses := insideParentheses_eq_some_iff.mp inside
      split
      · rename_i nested
        exact .manyParentheses encloses (by simpa using nested)
      · rename_i flat
        have flat : ¬ ('(' ∈ inner ∨ ')' ∈ inner) := by simpa using flat
        split
        · rename_i blank
          exact .noClass encloses flat (Text.trim_eq_nil_iff.mp (List.isEmpty_iff.mp blank))
        · rename_i filled
          refine .target encloses flat fun blank => filled ?_
          rw [Text.trim_eq_nil_iff.mpr blank, List.isEmpty_nil]
  · intro reads
    unfold readTarget
    cases reads with
    | noParentheses bare =>
        cases inside : (Text.after? ['('] (Text.trim rest)).bind (Text.before? [')']) with
        | none => rfl
        | some inner => exact absurd (insideParentheses_eq_some_iff.mp inside) (bare inner)
    | @manyParentheses inner encloses nested =>
        rw [insideParentheses_eq_some_iff.mpr encloses]
        exact if_pos (by simpa using nested)
    | @noClass inner encloses flat blank =>
        rw [insideParentheses_eq_some_iff.mpr encloses]
        have isBlank : (Text.trim inner).isEmpty = true := by
          rw [Text.trim_eq_nil_iff.mpr blank, List.isEmpty_nil]
        exact (if_neg (by simpa using flat)).trans (if_pos isBlank)
    | @target inner encloses flat filled =>
        rw [insideParentheses_eq_some_iff.mpr encloses]
        have isFilled : ¬ (Text.trim inner).isEmpty = true := fun blank =>
          filled (Text.trim_eq_nil_iff.mp (List.isEmpty_iff.mp blank))
        exact (if_neg (by simpa using flat)).trans (if_neg isFilled)

/-- A text after a lifecycle marker that names a class: one pair of parentheses
with the name between them. -/
def IsTarget (rest : List Char) (className : String) : Prop :=
  ∃ inner, Text.trim rest = '(' :: (inner ++ [')']) ∧ '(' ∉ inner ∧ ')' ∉ inner ∧
    Text.trim inner ≠ [] ∧ className = String.ofList (Text.trim inner)

theorem readTarget_eq_ok_iff {className : String} :
    readTarget rest = .ok className ↔ IsTarget rest className := by
  rw [readTarget_eq_iff]
  constructor
  · intro reads
    cases reads with
    | target encloses flat filled =>
        rw [not_or] at flat
        exact ⟨_, encloses_iff.mp encloses, flat.1, flat.2, mt Text.trim_eq_nil_iff.mp filled, rfl⟩
  · rintro ⟨inner, group, opened, closed, filled, rfl⟩
    exact .target (encloses_iff.mpr group) (not_or.mpr ⟨opened, closed⟩)
      (mt Text.trim_eq_nil_iff.mpr filled)

/-- Attributes in which every marker of a lifecycle function names a class. -/
def TargetsReadable (config : Config) (lifecycle : Lifecycle) (attributes : List Attribute) :
    Prop :=
  ∀ line ∈ docLines attributes, ∀ rest,
    afterMarker? (config.marker lifecycle.word) line = some rest → ∃ target, IsTarget rest target

/-- Whether a marker of a lifecycle function among attributes names a class. -/
def NamesClass (config : Config) (lifecycle : Lifecycle) (className : String)
    (attributes : List Attribute) : Prop :=
  ∃ line ∈ docLines attributes, ∃ rest,
    afterMarker? (config.marker lifecycle.word) line = some rest ∧ IsTarget rest className

/-- The class that one line names as a marker of a lifecycle function. -/
def lineTarget? (config : Config) (lifecycle : Lifecycle) (line : String) : Option String :=
  (afterMarker? (config.marker lifecycle.word) line).bind fun rest => (readTarget rest).toOption

/-- The classes that attributes name as markers of a lifecycle function. -/
def targetsOf (config : Config) (lifecycle : Lifecycle) (attributes : List Attribute) :
    List String :=
  (docLines attributes).filterMap (lineTarget? config lifecycle)

theorem lineTarget?_eq_some_iff {config : Config} {lifecycle : Lifecycle} {line : String}
    {className : String} :
    lineTarget? config lifecycle line = some className ↔
      ∃ rest, afterMarker? (config.marker lifecycle.word) line = some rest ∧
        IsTarget rest className := by
  simp only [lineTarget?, Option.bind_eq_some_iff, ← readTarget_eq_ok_iff]
  apply exists_congr
  intro rest
  apply and_congr_right
  intro after
  cases readTarget rest <;> simp [Except.toOption]

theorem mem_targetsOf_iff {config : Config} {lifecycle : Lifecycle} {className : String}
    {attributes : List Attribute} :
    className ∈ targetsOf config lifecycle attributes ↔
      NamesClass config lifecycle className attributes := by
  simp only [targetsOf, List.mem_filterMap, lineTarget?_eq_some_iff, NamesClass]

theorem lifecycleTargets_exact (config : Config) (lifecycle : Lifecycle)
    (attributes : List Attribute) :
    Exact (lifecycleTargets config lifecycle (docLines attributes))
      (TargetsReadable config lifecycle attributes) (targetsOf config lifecycle attributes) := by
  unfold TargetsReadable targetsOf
  induction docLines attributes with
  | nil => exact Exact.ok (by simp)
  | cons line lines ih =>
      cases after : afterMarker? (config.marker lifecycle.word) line with
      | none => simpa [lifecycleTargets, lineTarget?, after] using ih
      | some rest =>
          cases outcome : readTarget rest with
          | error fault =>
              simp only [lifecycleTargets, after, outcome]
              apply Exact.error
              intro readable
              rcases readable line List.mem_cons_self rest after with ⟨target, isTarget⟩
              rw [readTarget_eq_ok_iff.mpr isTarget] at outcome
              cases outcome
          | ok target =>
              have named : lineTarget? config lifecycle line = some target := by
                simp [lineTarget?, after, outcome, Except.toOption]
              simp only [lifecycleTargets, after, outcome, List.filterMap_cons, named]
              refine ih.map.congr ?_ fun _ => rfl
              have isTarget : ∃ target, IsTarget rest target :=
                ⟨target, readTarget_eq_ok_iff.mp outcome⟩
              simp [after, isTarget]

end NativeScript.Scan
