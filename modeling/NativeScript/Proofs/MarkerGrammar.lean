import NativeScript.Proofs.Bytes
import NativeScript.Proofs.Fault

/-!
# The grammar of markers

A line is a marker line exactly if its bytes begin with those of the marker, up to the case of
ASCII letters, and a word ends there.  Of register and export markers the first one in a doc
comment decides alone: the word behind the first `as` is the alias, and `tool` counts before it.
-/

namespace NativeScript.Scan

/-! ## Marker lines -/

/-- The bytes of a line begin with those of a marker, up to the case of ASCII letters, and `rest`
goes on behind them: with nothing, a blank or a parenthesis. -/
structure IsMarked (marker line : String) (rest : List Char) : Prop where
  starts : Text.StartsLike marker.toList line.toList
  behind : Text.bytes rest = (Text.bytes line.toList).drop (Text.bytes marker.toList).length
  ends : ∀ char ∈ rest.head?, Text.isBlank char = true ∨ char = '('

/-- A line with a marker. -/
def Marked (marker line : String) : Prop :=
  ∃ rest, IsMarked marker line rest

variable {marker line : String} {rest : List Char}

theorem endsWord_eq_true_iff :
    endsWord rest = true ↔ ∀ char ∈ rest.head?, Text.isBlank char = true ∨ char = '(' := by
  cases rest <;> simp [endsWord]

theorem afterMarker?_eq_some_iff :
    afterMarker? marker line = some rest ↔ IsMarked marker line rest := by
  rw [afterMarker?, Option.filter_eq_some_iff, Text.afterFolded?_eq_some_iff_bytes,
    endsWord_eq_true_iff]
  constructor
  · rintro ⟨⟨starts, behind⟩, ends⟩
    exact ⟨starts, behind, ends⟩
  · rintro ⟨starts, behind, ends⟩
    exact ⟨⟨starts, behind⟩, ends⟩

theorem afterMarker?_isSome_iff :
    (afterMarker? marker line).isSome = true ↔ Marked marker line := by
  rw [Option.isSome_iff_exists]
  exact exists_congr fun _ => afterMarker?_eq_some_iff

theorem afterMarker?_eq_none_iff : afterMarker? marker line = none ↔ ¬ Marked marker line := by
  rw [← afterMarker?_isSome_iff, Option.not_isSome_iff_eq_none]

instance (marker line : String) : Decidable (Marked marker line) :=
  decidable_of_iff _ afterMarker?_isSome_iff

/-! ## Words behind a marker -/

namespace MarkerWords

variable {words : List (List Char)}

theorem fromAlias_eq_drop : fromAlias words = words.drop (words.findIdx announcesAlias) := by
  simp [fromAlias, List.dropWhile_eq_drop_findIdx_not]

/-- Words lack an alias exactly if the first `as` is the last of them. -/
theorem lacksAlias_iff : LacksAlias words ↔ words.findIdx announcesAlias + 1 = words.length := by
  have within : words.findIdx announcesAlias ≤ words.length := List.findIdx_le_length
  rw [LacksAlias, fromAlias_eq_drop, List.length_drop]
  omega

theorem ofWords_exposedAs :
    (ofWords words).exposedAs =
      words[words.findIdx announcesAlias + 1]?.map String.ofList := by
  rw [ofWords, fromAlias_eq_drop, List.getElem?_drop]

theorem ofWords_tool_iff :
    (ofWords words).tool = true ↔
      ∃ word ∈ words.take (words.findIdx announcesAlias),
        Text.sameFolded word "tool".toList = true := by
  simp [ofWords, List.takeWhile_eq_take_findIdx_not, List.any_eq_true]

theorem read_eq_error_iff {fault : MarkerFault} :
    read words = .error fault ↔ LacksAlias words ∧ fault = .noAlias := by
  refine ⟨lacksAlias_of_read_eq_error, ?_⟩
  rintro ⟨lacks, rfl⟩
  cases outcome : read words with
  | error fault => rw [(lacksAlias_of_read_eq_error outcome).2]
  | ok found => exact absurd lacks ((read_exact words found).mp outcome).1

/-- Of `as` itself only that it is there is read, and of the words behind it only the first. -/
theorem read_cons_of_announces {word other : List Char} {words others : List (List Char)}
    (announces : announcesAlias word = true) (announcesToo : announcesAlias other = true)
    (same : words.head? = others.head?) : read (word :: words) = read (other :: others) := by
  refine (if_pos announces).trans (.trans ?_ (if_pos announcesToo).symm)
  cases words <;> cases others <;> simp_all

theorem read_cons_of_not {word : List Char} (passed : announcesAlias word = false)
    (words : List (List Char)) :
    read (word :: words) = (read words).map fun found =>
      { found with tool := Text.sameFolded word "tool".toList || found.tool } :=
  if_neg (Bool.not_eq_true _ ▸ passed)

end MarkerWords

/-! ## The first marker line -/

variable {config : Config} {name : String} {lines others : List String}

theorem markerWords?_cons_of_not_marked (unmarked : ¬ Marked (config.marker name) line)
    (lines : List String) :
    markerWords? config name (line :: lines) = markerWords? config name lines := by
  rw [markerWords?, afterMarker?_eq_none_iff.mpr unmarked]

/-- What a doc comment says whose first marker line is this one. -/
def firstSays (marker line : String) (rest : List Char) : Except ScanError (Option MarkerWords) :=
  match MarkerWords.read (Text.words rest) with
  | .error fault => .error (.malformedMarker marker line fault)
  | .ok found => .ok (some found)

theorem markerWords?_cons_of_isMarked (marked : IsMarked (config.marker name) line rest)
    (lines : List String) :
    markerWords? config name (line :: lines) = firstSays (config.marker name) line rest := by
  rw [markerWords?, afterMarker?_eq_some_iff.mpr marked]
  rfl

theorem markerWords?_eq_ok_none_iff :
    markerWords? config name lines = .ok none ↔
      ∀ line ∈ lines, ¬ Marked (config.marker name) line := by
  induction lines with
  | nil => simp [markerWords?]
  | cons line lines ih =>
      rw [List.forall_mem_cons]
      by_cases marked : Marked (config.marker name) line
      · obtain ⟨rest, isMarked⟩ := marked
        rw [markerWords?_cons_of_isMarked isMarked, firstSays]
        have found : Marked (config.marker name) line := ⟨rest, isMarked⟩
        cases MarkerWords.read (Text.words rest) <;> simp [found]
      · rw [markerWords?_cons_of_not_marked marked, ih]
        simp [marked]

/-- The first marker line of a doc comment, and what follows the marker. -/
def IsFirstMarked (marker : String) (lines : List String) (line : String) (rest : List Char) :
    Prop :=
  ∃ before after, lines = before ++ line :: after ∧ (∀ other ∈ before, ¬ Marked marker other) ∧
    IsMarked marker line rest

theorem IsFirstMarked.markerWords?_eq (first : IsFirstMarked (config.marker name) lines line rest) :
    markerWords? config name lines = firstSays (config.marker name) line rest := by
  obtain ⟨before, after, rfl, unmarked, marked⟩ := first
  induction before with
  | nil => exact markerWords?_cons_of_isMarked marked after
  | cons other before ih =>
      obtain ⟨here, later⟩ := List.forall_mem_cons.mp unmarked
      rw [List.cons_append, markerWords?_cons_of_not_marked here]
      exact ih later

/-! ## The case of markers and keywords -/

/-- A text behind a marker, with the words `tool` before the first `as` and that `as` in another
case.  Behind the alias there may be anything. -/
inductive SameButKeywords : List Char → List Char → Prop
  | same (text : List Char) : SameButKeywords text text
  | announced {before word other after : List Char} (isWord : Text.FirstWord before word after)
      (isWordToo : Text.FirstWord before other after) (announces : announcesAlias word = true)
      (announcesToo : announcesAlias other = true) :
      SameButKeywords (before ++ (word ++ after)) (before ++ (other ++ after))
  | named {before word other between exposed after changed : List Char}
      (isWord : Text.FirstWord before word (between ++ (exposed ++ after)))
      (isWordToo : Text.FirstWord before other (between ++ (exposed ++ changed)))
      (announces : announcesAlias word = true) (announcesToo : announcesAlias other = true)
      (isAlias : Text.FirstWord between exposed after)
      (isAliasToo : Text.FirstWord between exposed changed) :
      SameButKeywords (before ++ (word ++ (between ++ (exposed ++ after))))
        (before ++ (other ++ (between ++ (exposed ++ changed))))
  | tool {before word other after changed : List Char}
      (isWord : Text.FirstWord before word after)
      (isWordToo : Text.FirstWord before other changed)
      (isTool : Text.sameFolded word "tool".toList = true)
      (isToolToo : Text.sameFolded other "tool".toList = true)
      (further : SameButKeywords after changed) :
      SameButKeywords (before ++ (word ++ after)) (before ++ (other ++ changed))
  | other {before word after changed : List Char} (isWord : Text.FirstWord before word after)
      (isWordToo : Text.FirstWord before word changed) (passed : announcesAlias word = false)
      (further : SameButKeywords after changed) :
      SameButKeywords (before ++ (word ++ after)) (before ++ (word ++ changed))

theorem announcesAlias_of_isTool {word : List Char}
    (isTool : Text.sameFolded word "tool".toList = true) : announcesAlias word = false := by
  rw [announcesAlias, Text.sameFolded, beq_iff_eq.mp isTool]
  decide

theorem SameButKeywords.read_eq {text changed : List Char} (same : SameButKeywords text changed) :
    MarkerWords.read (Text.words text) = MarkerWords.read (Text.words changed) := by
  induction same with
  | same text => rfl
  | announced isWord isWordToo announces announcesToo =>
      rw [isWord.words_eq, isWordToo.words_eq]
      exact MarkerWords.read_cons_of_announces announces announcesToo rfl
  | named isWord isWordToo announces announcesToo isAlias isAliasToo =>
      rw [isWord.words_eq, isWordToo.words_eq]
      refine MarkerWords.read_cons_of_announces announces announcesToo ?_
      rw [isAlias.words_eq, isAliasToo.words_eq, List.head?_cons, List.head?_cons]
  | tool isWord isWordToo isTool isToolToo _ ih =>
      rw [isWord.words_eq, isWordToo.words_eq,
        MarkerWords.read_cons_of_not (announcesAlias_of_isTool isTool),
        MarkerWords.read_cons_of_not (announcesAlias_of_isTool isToolToo), ih, isTool, isToolToo]
  | other isWord isWordToo passed _ ih =>
      rw [isWord.words_eq, isWordToo.words_eq, MarkerWords.read_cons_of_not passed,
        MarkerWords.read_cons_of_not passed, ih]

/-- A line of a doc comment, with the marker and its keywords in another case if it is a marker
line. -/
inductive Recased (marker : String) : String → String → Prop
  | same (line : String) : Recased marker line line
  | marked {line other : String} {rest changed : List Char} (isMarked : IsMarked marker line rest)
      (isMarkedToo : IsMarked marker other changed) (same : SameButKeywords rest changed) :
      Recased marker line other

/-- Outcomes that differ at most in the line that an error quotes. -/
inductive SameButLine {α : Type} : Except ScanError α → Except ScanError α → Prop
  | ok (found : α) : SameButLine (.ok found) (.ok found)
  | error (marker line other : String) (fault : MarkerFault) :
      SameButLine (.error (.malformedMarker marker line fault))
        (.error (.malformedMarker marker other fault))

theorem SameButKeywords.sameButLine {text changed : List Char}
    (same : SameButKeywords text changed) (marker line other : String) :
    SameButLine (firstSays marker line text) (firstSays marker other changed) := by
  unfold firstSays
  rw [same.read_eq]
  cases MarkerWords.read (Text.words changed) with
  | error fault => exact .error marker line other fault
  | ok found => exact .ok (some found)

theorem sameButLine_markerWords?
    (recased : List.Forall₂ (Recased (config.marker name)) lines others) :
    SameButLine (markerWords? config name lines) (markerWords? config name others) := by
  induction recased with
  | nil => exact .ok none
  | @cons line _ _ _ here _ ih =>
      cases here with
      | same =>
          by_cases marked : Marked (config.marker name) line
          · obtain ⟨rest, isMarked⟩ := marked
            rw [markerWords?_cons_of_isMarked isMarked, markerWords?_cons_of_isMarked isMarked]
            exact (SameButKeywords.same rest).sameButLine _ line line
          · rw [markerWords?_cons_of_not_marked marked, markerWords?_cons_of_not_marked marked]
            exact ih
      | marked isMarked isMarkedToo same =>
          rw [markerWords?_cons_of_isMarked isMarked, markerWords?_cons_of_isMarked isMarkedToo]
          exact same.sameButLine _ _ _

/-! ## The grammar -/

/-- A register or export marker is read from the first marker line of a doc comment alone.  With
the words behind the marker, and the place of the first `as` among them or their number if there
is none, it is malformed exactly if this `as` is the last word; else the word after it is the
alias, and `tool` counts before it.  The case of the marker, of `as` and of `tool` does not
matter, and a line is never cut inside a character. -/
theorem markerWords?_grammar (config : Config) (name : String) (lines : List String) :
    let marker := config.marker name
    let outcome := markerWords? config name lines
    (outcome = .ok none ↔ ∀ line ∈ lines, ¬ Marked marker line) ∧
      (∀ line rest words, IsFirstMarked marker lines line rest → Text.SplitsInto rest words →
        let place := words.findIdx announcesAlias
        (outcome = .error (.malformedMarker marker line .noAlias) ↔ place + 1 = words.length) ∧
          (place + 1 ≠ words.length → ∃ found, outcome = .ok (some found) ∧
            found.exposedAs = words[place + 1]?.map String.ofList ∧
            (found.tool = true ↔
              ∃ word ∈ words.take place, Text.sameFolded word "tool".toList = true))) ∧
      (∀ others, List.Forall₂ (Recased marker) lines others →
        SameButLine outcome (markerWords? config name others)) ∧
      ∀ line : String, Text.StartsLike marker.toList line.toList →
        ∃ head rest, line.toList = head ++ rest ∧
          Text.bytes head = (Text.bytes line.toList).take (Text.bytes marker.toList).length := by
  intro marker outcome
  refine ⟨markerWords?_eq_ok_none_iff, ?_, fun _ => sameButLine_markerWords?,
    fun _ => Text.StartsLike.exists_cut⟩
  intro line rest words first splits place
  have isOutcome : outcome = firstSays marker line rest := first.markerWords?_eq
  rw [isOutcome, firstSays, Text.words_eq_iff.mpr splits]
  by_cases lacks : LacksAlias words
  · have isLast := MarkerWords.lacksAlias_iff.mp lacks
    rw [MarkerWords.read_eq_error_iff.mpr ⟨lacks, rfl⟩]
    exact ⟨iff_of_true rfl isLast, fun further => absurd isLast further⟩
  · have isOk := (MarkerWords.read_exact words).eq_ok lacks
    have notLast := mt MarkerWords.lacksAlias_iff.mpr lacks
    rw [isOk]
    exact ⟨iff_of_false nofun notLast, fun _ => ⟨_, rfl,
      MarkerWords.ofWords_exposedAs, MarkerWords.ofWords_tool_iff⟩⟩

/-- The marker ends inside the last character of the first line, so the second line is the first
one with the marker, and the third one does not count. -/
theorem markerWords?_grammar_gizmo :
    let line := "Godot::REGISTER tool AS Gizmo as"
    let lines := ["godot::registe\u00e9", line, "godot::register as"]
    let words := ["tool", "AS", "Gizmo", "as"].map String.toList
    IsFirstMarked "godot::register" lines line " tool AS Gizmo as".toList ∧
      Text.SplitsInto " tool AS Gizmo as".toList words ∧
      ∃ found, markerWords? {} "register" lines = .ok (some found) ∧
        found.exposedAs = some "Gizmo" ∧ found.tool = true := by
  intro line lines words
  have first : IsFirstMarked "godot::register" lines line " tool AS Gizmo as".toList :=
    ⟨["godot::registe\u00e9"], ["godot::register as"], rfl, by decide,
      afterMarker?_eq_some_iff.mp (by decide)⟩
  have splits : Text.SplitsInto " tool AS Gizmo as".toList words :=
    Text.words_eq_iff.mp (by decide)
  obtain ⟨found, isOk, isAlias, isTool⟩ :=
    ((markerWords?_grammar {} "register" lines).2.1 line _ words first splits).2 (by decide)
  refine ⟨first, splits, found, isOk, isAlias, isTool.mpr ?_⟩
  exact ⟨"tool".toList, by decide, by decide⟩

end NativeScript.Scan
