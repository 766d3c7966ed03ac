import Mathlib.Data.List.Forall2
import NativeScript.Proofs.MarkerGrammar

/-!
# The grammar of lifecycle markers

Behind a lifecycle marker stands, up to blanks, the name of a class in one pair of parentheses.
A text that is nothing of the kind breaks the first of three rules: it is in parentheses, there
are no others inside, and what is inside is not blank.  Every marker line of a doc comment
counts, in the order of the lines, and the first one that breaks a rule is reported.
-/

namespace NativeScript.Scan

/-! ## One line -/

/-- A line is a marker line, and what follows the marker says this. -/
def LineReads (marker line : String) (outcome : Except MarkerFault String) : Prop :=
  ∃ rest, IsMarked marker line rest ∧ ReadsTarget rest outcome

/-- A line that names a class if it is a marker line. -/
def LineSound (marker line : String) : Prop :=
  Marked marker line → ∃ target, LineReads marker line (.ok target)

/-- The marker lines among lines. -/
def markedLines (marker : String) (lines : List String) : List String :=
  lines.filter fun line => decide (Marked marker line)

variable {marker line : String} {config : Config} {lifecycle : Lifecycle}

theorem lineReads_iff {outcome : Except MarkerFault String} :
    LineReads marker line outcome ↔
      (afterMarker? marker line).map readTarget = some outcome := by
  simp only [LineReads, Option.map_eq_some_iff, afterMarker?_eq_some_iff, readTarget_eq_iff]

theorem LineReads.marked {outcome : Except MarkerFault String}
    (reads : LineReads marker line outcome) : Marked marker line :=
  reads.imp fun _ => And.left

theorem LineReads.unique {first second : Except MarkerFault String}
    (reads : LineReads marker line first) (readsToo : LineReads marker line second) :
    first = second :=
  Option.some.inj ((lineReads_iff.mp reads).symm.trans (lineReads_iff.mp readsToo))

theorem Marked.exists_lineReads (marked : Marked marker line) :
    ∃ outcome, LineReads marker line outcome :=
  marked.elim fun _ isMarked => ⟨_, _, isMarked, readTarget_eq_iff.mp rfl⟩

theorem LineReads.lineSound {target : String} (reads : LineReads marker line (.ok target)) :
    LineSound marker line :=
  fun _ => ⟨target, reads⟩

theorem LineReads.not_lineSound {fault : MarkerFault}
    (reads : LineReads marker line (.error fault)) : ¬ LineSound marker line := by
  intro sound
  obtain ⟨target, readsToo⟩ := sound reads.marked
  cases reads.unique readsToo

/-- A line has no marker, or names a class, or breaks a rule. -/
theorem line_cases (marker line : String) :
    ¬ Marked marker line ∨ (∃ target, LineReads marker line (.ok target)) ∨
      ∃ fault, LineReads marker line (.error fault) := by
  by_cases marked : Marked marker line
  · obtain ⟨outcome, reads⟩ := marked.exists_lineReads
    cases outcome with
    | ok target => exact .inr (.inl ⟨target, reads⟩)
    | error fault => exact .inr (.inr ⟨fault, reads⟩)
  · exact .inl marked

/-! ## All lines -/

theorem lifecycleTargets_cons_of_not_marked
    (unmarked : ¬ Marked (config.marker lifecycle.word) line) (lines : List String) :
    lifecycleTargets config lifecycle (line :: lines) =
      lifecycleTargets config lifecycle lines := by
  rw [lifecycleTargets, afterMarker?_eq_none_iff.mpr unmarked]

theorem LineReads.lifecycleTargets_cons {target : String}
    (reads : LineReads (config.marker lifecycle.word) line (.ok target)) (lines : List String) :
    lifecycleTargets config lifecycle (line :: lines) =
      (lifecycleTargets config lifecycle lines).map (target :: ·) := by
  obtain ⟨rest, isMarked, readsTarget⟩ := reads
  rw [lifecycleTargets, afterMarker?_eq_some_iff.mpr isMarked]
  simp only [readTarget_eq_iff.mpr readsTarget]

theorem LineReads.lifecycleTargets_cons_of_error {fault : MarkerFault}
    (reads : LineReads (config.marker lifecycle.word) line (.error fault)) (lines : List String) :
    lifecycleTargets config lifecycle (line :: lines) =
      .error (.malformedMarker (config.marker lifecycle.word) line fault) := by
  obtain ⟨rest, isMarked, readsTarget⟩ := reads
  rw [lifecycleTargets, afterMarker?_eq_some_iff.mpr isMarked]
  simp only [readTarget_eq_iff.mpr readsTarget]

variable {lines : List String}

theorem markedLines_cons_of_not_marked (unmarked : ¬ Marked marker line) (lines : List String) :
    markedLines marker (line :: lines) = markedLines marker lines :=
  List.filter_cons_of_neg (by simpa using unmarked)

theorem markedLines_cons (marked : Marked marker line) (lines : List String) :
    markedLines marker (line :: lines) = line :: markedLines marker lines :=
  List.filter_cons_of_pos (by simpa using marked)

/-- Lines without a marker do not count. -/
theorem lifecycleTargets_markedLines (config : Config) (lifecycle : Lifecycle)
    (lines : List String) :
    lifecycleTargets config lifecycle (markedLines (config.marker lifecycle.word) lines) =
      lifecycleTargets config lifecycle lines := by
  induction lines with
  | nil => rfl
  | cons line lines ih =>
      rcases line_cases (config.marker lifecycle.word) line with
        unmarked | ⟨target, reads⟩ | ⟨fault, reads⟩
      · rw [markedLines_cons_of_not_marked unmarked, ih,
          lifecycleTargets_cons_of_not_marked unmarked]
      · rw [markedLines_cons reads.marked, reads.lifecycleTargets_cons,
          reads.lifecycleTargets_cons, ih]
      · rw [markedLines_cons reads.marked, reads.lifecycleTargets_cons_of_error,
          reads.lifecycleTargets_cons_of_error]

theorem exists_lifecycleTargets_eq_ok_iff :
    (∃ targets, lifecycleTargets config lifecycle lines = .ok targets) ↔
      ∀ line ∈ lines, LineSound (config.marker lifecycle.word) line := by
  induction lines with
  | nil => exact iff_of_true ⟨[], rfl⟩ (by simp)
  | cons line lines ih =>
      rw [List.forall_mem_cons, ← ih]
      rcases line_cases (config.marker lifecycle.word) line with
        unmarked | ⟨target, reads⟩ | ⟨fault, reads⟩
      · have sound : LineSound (config.marker lifecycle.word) line :=
          fun marked => absurd marked unmarked
        rw [lifecycleTargets_cons_of_not_marked unmarked]
        simp [sound]
      · rw [reads.lifecycleTargets_cons]
        cases lifecycleTargets config lifecycle lines <;> simp [reads.lineSound, Except.map]
      · rw [reads.lifecycleTargets_cons_of_error]
        simp [reads.not_lineSound]

theorem lifecycleTargets_eq_ok_iff {targets : List String} :
    lifecycleTargets config lifecycle lines = .ok targets ↔
      List.Forall₂ (fun line target => LineReads (config.marker lifecycle.word) line (.ok target))
        (markedLines (config.marker lifecycle.word) lines) targets := by
  induction lines generalizing targets with
  | nil => simp [lifecycleTargets, markedLines, eq_comm (a := [])]
  | cons line lines ih =>
      rcases line_cases (config.marker lifecycle.word) line with
        unmarked | ⟨target, reads⟩ | ⟨fault, reads⟩
      · rw [lifecycleTargets_cons_of_not_marked unmarked, markedLines_cons_of_not_marked unmarked]
        exact ih
      · rw [reads.lifecycleTargets_cons, markedLines_cons reads.marked,
          List.forall₂_cons_left_iff]
        constructor
        · intro isOk
          cases later : lifecycleTargets config lifecycle lines with
          | error error => rw [later] at isOk; cases isOk
          | ok others =>
              rw [later] at isOk
              cases isOk
              exact ⟨target, others, reads, ih.mp later, rfl⟩
        · rintro ⟨other, others, readsToo, further, rfl⟩
          cases reads.unique readsToo
          rw [ih.mpr further]
          rfl
      · rw [reads.lifecycleTargets_cons_of_error, markedLines_cons reads.marked,
          List.forall₂_cons_left_iff]
        refine iff_of_false (by simp) ?_
        rintro ⟨target, _, readsToo, _⟩
        cases reads.unique readsToo

/-- The first line that is not sound, and the rule that it breaks. -/
def IsFirstFault (marker : String) (lines : List String) (line : String) (fault : MarkerFault) :
    Prop :=
  ∃ before after, lines = before ++ line :: after ∧
    (∀ other ∈ before, LineSound marker other) ∧ LineReads marker line (.error fault)

theorem isFirstFault_cons_iff {first : String} {fault : MarkerFault} :
    IsFirstFault marker (first :: lines) line fault ↔
      (first = line ∧ LineReads marker line (.error fault)) ∨
        (LineSound marker first ∧ IsFirstFault marker lines line fault) := by
  constructor
  · rintro ⟨before, after, split, sound, reads⟩
    cases before with
    | nil =>
        cases split
        exact .inl ⟨rfl, reads⟩
    | cons other before =>
        obtain ⟨rfl, rfl⟩ := List.cons.inj split
        obtain ⟨here, later⟩ := List.forall_mem_cons.mp sound
        exact .inr ⟨here, before, after, rfl, later, reads⟩
  · rintro (⟨rfl, reads⟩ | ⟨here, before, after, rfl, sound, reads⟩)
    · exact ⟨[], lines, rfl, by simp, reads⟩
    · exact ⟨first :: before, after, rfl, List.forall_mem_cons.mpr ⟨here, sound⟩, reads⟩

theorem isFirstFault_cons_of_lineSound {first : String} {fault : MarkerFault}
    (sound : LineSound marker first) :
    IsFirstFault marker (first :: lines) line fault ↔ IsFirstFault marker lines line fault := by
  rw [isFirstFault_cons_iff]
  constructor
  · rintro (⟨rfl, reads⟩ | ⟨_, further⟩)
    · exact absurd sound reads.not_lineSound
    · exact further
  · intro further
    exact .inr ⟨sound, further⟩

theorem lifecycleTargets_eq_error_iff {error : ScanError} :
    lifecycleTargets config lifecycle lines = .error error ↔
      ∃ line fault, IsFirstFault (config.marker lifecycle.word) lines line fault ∧
        error = .malformedMarker (config.marker lifecycle.word) line fault := by
  induction lines with
  | nil => simp [lifecycleTargets, IsFirstFault]
  | cons first lines ih =>
      rcases line_cases (config.marker lifecycle.word) first with
        unmarked | ⟨target, reads⟩ | ⟨fault, reads⟩
      · have sound : LineSound (config.marker lifecycle.word) first :=
          fun marked => absurd marked unmarked
        rw [lifecycleTargets_cons_of_not_marked unmarked, ih]
        simp only [isFirstFault_cons_of_lineSound sound]
      · rw [reads.lifecycleTargets_cons, Outcome.map_eq_error_iff, ih]
        simp only [isFirstFault_cons_of_lineSound reads.lineSound]
      · rw [reads.lifecycleTargets_cons_of_error]
        constructor
        · rintro ⟨⟩
          exact ⟨first, fault, isFirstFault_cons_iff.mpr (.inl ⟨rfl, reads⟩), rfl⟩
        · rintro ⟨line, other, isFirst, rfl⟩
          rcases isFirstFault_cons_iff.mp isFirst with ⟨rfl, readsToo⟩ | ⟨sound, _⟩
          · cases reads.unique readsToo
            rfl
          · exact absurd sound reads.not_lineSound

/-! ## The grammar -/

/-- The lifecycle markers of a doc comment can be read exactly if every marker line has a group
behind its marker that names a class, and they name the classes of the marker lines in order.
Otherwise the first line without such a group is reported, with the first rule that it breaks.
Lines without the marker have no influence. -/
theorem lifecycleTargets_grammar (config : Config) (lifecycle : Lifecycle) (lines : List String) :
    let marker := config.marker lifecycle.word
    let outcome := lifecycleTargets config lifecycle lines
    ((∃ targets, outcome = .ok targets) ↔ ∀ line ∈ lines, LineSound marker line) ∧
      (∀ targets, outcome = .ok targets ↔
        List.Forall₂ (fun line target => LineReads marker line (.ok target))
          (markedLines marker lines) targets) ∧
      (∀ error, outcome = .error error ↔
        ∃ line fault, IsFirstFault marker lines line fault ∧
          error = .malformedMarker marker line fault) ∧
      outcome = lifecycleTargets config lifecycle (markedLines marker lines) :=
  ⟨exists_lifecycleTargets_eq_ok_iff, fun _ => lifecycleTargets_eq_ok_iff,
    fun _ => lifecycleTargets_eq_error_iff,
    (lifecycleTargets_markedLines config lifecycle lines).symm⟩

/-- One parenthesis is not a pair of them. -/
example : lifecycleTargets {} .constructor ["godot::constructor( Lamp )", "godot::constructor("] =
    .error (.malformedMarker "godot::constructor" "godot::constructor(" .noParentheses) := by
  decide

end NativeScript.Scan
