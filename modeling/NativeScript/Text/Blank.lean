/-!
# Blank characters

White space is the Unicode property `White_Space`.  Lines of text are trimmed at
both ends, and split into the words between their blanks.
-/

namespace NativeScript.Text

/-- Whether a character has the property `White_Space`. -/
def isBlank (char : Char) : Bool :=
  let point := char.toNat
  decide (0x09 ≤ point ∧ point ≤ 0x0D) || decide (0x2000 ≤ point ∧ point ≤ 0x200A) ||
    [0x20, 0x85, 0xA0, 0x1680, 0x2028, 0x2029, 0x202F, 0x205F, 0x3000].contains point

/-- Text without the blanks at its start. -/
def trimStart (text : List Char) : List Char :=
  text.dropWhile isBlank

/-- Text without the blanks at its end. -/
def trimEnd (text : List Char) : List Char :=
  (trimStart text.reverse).reverse

/-- Text without the blanks at its two ends. -/
def trim (text : List Char) : List Char :=
  trimEnd (trimStart text)

/-! ## What is trimmed -/

/-- Text of blanks alone. -/
def AllBlank (text : List Char) : Prop :=
  ∀ char ∈ text, isBlank char = true

/-- Dropping leading blanks cuts a text before its first other character. -/
theorem trimStart_eq_iff {text rest : List Char} :
    trimStart text = rest ↔
      ∃ before, text = before ++ rest ∧ AllBlank before ∧
        ∀ char ∈ rest.head?, isBlank char = false := by
  constructor
  · rintro rfl
    refine ⟨text.takeWhile isBlank, List.takeWhile_append_dropWhile.symm,
      List.all_eq_true.mp List.all_takeWhile, fun char isHead => ?_⟩
    have other := List.head?_dropWhile_not isBlank text
    rw [trimStart, Option.mem_def] at isHead
    rwa [isHead] at other
  · rintro ⟨before, rfl, blank, other⟩
    rw [trimStart, List.dropWhile_append_of_pos blank]
    cases rest with
    | nil => rfl
    | cons char rest => exact List.dropWhile_cons_of_neg (by simp [other char rfl])

theorem trimEnd_eq_iff {text rest : List Char} :
    trimEnd text = rest ↔
      ∃ after, text = rest ++ after ∧ AllBlank after ∧
        ∀ char ∈ rest.getLast?, isBlank char = false := by
  rw [trimEnd, List.reverse_eq_iff, trimStart_eq_iff]
  simp only [List.head?_reverse, List.reverse_eq_append_iff, List.reverse_reverse, AllBlank]
  constructor
  · rintro ⟨before, rfl, blank, other⟩
    exact ⟨before.reverse, rfl, by simpa using blank, other⟩
  · rintro ⟨after, rfl, blank, other⟩
    exact ⟨after.reverse, by simp, by simpa using blank, other⟩

/-- Trimming cuts a text before its first and behind its last character that is not blank. -/
theorem trim_eq_iff {text inner : List Char} :
    trim text = inner ↔
      ∃ before after, text = before ++ (inner ++ after) ∧ AllBlank before ∧ AllBlank after ∧
        (∀ char ∈ inner.head?, isBlank char = false) ∧
        ∀ char ∈ inner.getLast?, isBlank char = false := by
  rw [trim, trimEnd_eq_iff]
  constructor
  · rintro ⟨after, isStart, blankAfter, last⟩
    rcases trimStart_eq_iff.mp isStart with ⟨before, rfl, blankBefore, first⟩
    refine ⟨before, after, rfl, blankBefore, blankAfter, fun char isHead => ?_, last⟩
    exact first char (by simp [List.head?_append, Option.mem_def.mp isHead])
  · rintro ⟨before, after, rfl, blankBefore, blankAfter, first, last⟩
    cases inner with
    | nil =>
        have blank : AllBlank (before ++ after) := fun char member =>
          (List.mem_append.mp member).elim (blankBefore char) (blankAfter char)
        have nothing : trimStart (before ++ after) = [] :=
          trimStart_eq_iff.mpr ⟨before ++ after, by simp, blank, by simp⟩
        exact ⟨[], nothing, by simp [AllBlank], last⟩
    | cons char inner =>
        exact ⟨after, trimStart_eq_iff.mpr ⟨before, rfl, blankBefore, first⟩, blankAfter, last⟩

theorem trim_eq_nil_iff {text : List Char} : trim text = [] ↔ AllBlank text := by
  rw [trim_eq_iff]
  constructor
  · rintro ⟨before, after, rfl, blankBefore, blankAfter, _⟩
    intro char member
    exact (List.mem_append.mp member).elim (blankBefore char) (blankAfter char)
  · intro blank
    exact ⟨text, [], by simp, blank, by simp [AllBlank], by simp, by simp⟩

/-! ## Words -/

/-- The words of a text from left to right, where `word` holds the characters
of the word being read, the last one first. -/
def wordsFrom (word : List Char) : List Char → List (List Char)
  | [] => if word.isEmpty then [] else [word.reverse]
  | char :: text =>
      if isBlank char then
        if word.isEmpty then wordsFrom [] text else word.reverse :: wordsFrom [] text
      else
        wordsFrom (char :: word) text

/-- The longest runs of characters that are not blank. -/
def words (text : List Char) : List (List Char) :=
  wordsFrom [] text

/-- Text that consists of blanks, a word without any, and text that does not go on the word. -/
structure FirstWord (before word after : List Char) : Prop where
  blank : AllBlank before
  filled : word ≠ []
  solid : ∀ char ∈ word, isBlank char = false
  ends : ∀ char ∈ after.head?, isBlank char = true

/-- Text consists of words, with blanks around and between them. -/
inductive SplitsInto : List Char → List (List Char) → Prop
  | blank {text : List Char} (blank : AllBlank text) : SplitsInto text []
  | word {before word after : List Char} {found : List (List Char)}
      (first : FirstWord before word after) (others : SplitsInto after found) :
      SplitsInto (before ++ (word ++ after)) (word :: found)

theorem SplitsInto.cons_blank {char : Char} {text : List Char} {found : List (List Char)}
    (isBlank : isBlank char = true) (splits : SplitsInto text found) :
    SplitsInto (char :: text) found := by
  have longer {before : List Char} (blank : AllBlank before) : AllBlank (char :: before) :=
    List.forall_mem_cons.mpr ⟨isBlank, blank⟩
  cases splits with
  | blank blank => exact .blank (longer blank)
  | @word before word after found first others =>
      exact @SplitsInto.word (char :: before) word after found
        { first with blank := longer first.blank } others

theorem splitsInto_wordsFrom {word : List Char} (solid : ∀ char ∈ word, isBlank char = false)
    (text : List Char) : SplitsInto (word.reverse ++ text) (wordsFrom word text) := by
  -- What was read of a word is the word, once a blank or the end follows.
  have finished {word after : List Char} {found : List (List Char)}
      (solid : ∀ char ∈ word, isBlank char = false) (isFilled : word.isEmpty = false)
      (ends : ∀ char ∈ after.head?, isBlank char = true) (others : SplitsInto after found) :
      SplitsInto (word.reverse ++ after) (word.reverse :: found) :=
    @SplitsInto.word [] word.reverse after found
      ⟨by simp [AllBlank], by simpa using isFilled, by simpa using solid, ends⟩ others
  induction text generalizing word with
  | nil =>
      unfold wordsFrom
      cases isFilled : word.isEmpty with
      | true => exact .blank (by simp_all [AllBlank])
      | false => exact finished solid isFilled (by simp) (.blank (by simp [AllBlank]))
  | cons char text ih =>
      unfold wordsFrom
      cases blank : isBlank char with
      | false =>
          have longer := ih (List.forall_mem_cons.mpr ⟨blank, solid⟩)
          rwa [List.reverse_cons, List.append_assoc] at longer
      | true =>
          have rest : SplitsInto text (wordsFrom [] text) := @ih [] (by simp)
          have others := rest.cons_blank blank
          cases isFilled : word.isEmpty with
          | true =>
              obtain rfl := List.isEmpty_iff.mp isFilled
              exact others
          | false => exact finished solid isFilled (by simp [blank]) others

theorem wordsFrom_nil_append {before : List Char} (blank : AllBlank before) (text : List Char) :
    wordsFrom [] (before ++ text) = wordsFrom [] text := by
  induction before with
  | nil => rfl
  | cons char before ih =>
      obtain ⟨isBlank, blank⟩ := List.forall_mem_cons.mp blank
      rw [List.cons_append, wordsFrom, if_pos isBlank]
      exact ih blank

theorem wordsFrom_append {word : List Char} (solid : ∀ char ∈ word, isBlank char = false)
    (start after : List Char) :
    wordsFrom start (word ++ after) = wordsFrom (word.reverse ++ start) after := by
  induction word generalizing start with
  | nil => rfl
  | cons char word ih =>
      obtain ⟨notBlank, solid⟩ := List.forall_mem_cons.mp solid
      rw [List.cons_append, wordsFrom, if_neg (Bool.eq_false_iff.mp notBlank), ih solid,
        List.reverse_cons, List.append_assoc]
      rfl

/-- The words of a text are its first word and those behind it. -/
theorem FirstWord.words_eq {before word after : List Char} (first : FirstWord before word after) :
    words (before ++ (word ++ after)) = word :: words after := by
  have isFilled : word.reverse.isEmpty = false := by simp [first.filled]
  rw [words, wordsFrom_nil_append first.blank, wordsFrom_append first.solid, List.append_nil]
  cases after with
  | nil => simp [words, wordsFrom, isFilled]
  | cons char after => simp [words, wordsFrom, isFilled, first.ends char rfl]

/-- Text is split into its words in one way. -/
theorem words_eq_iff {text : List Char} {found : List (List Char)} :
    words text = found ↔ SplitsInto text found := by
  constructor
  · rintro rfl
    exact @splitsInto_wordsFrom [] (by simp) text
  · intro splits
    induction splits with
    | @blank text blank =>
        rw [words, ← List.append_nil text, wordsFrom_nil_append blank]
        rfl
    | word first _ ih => rw [first.words_eq, ih]

end NativeScript.Text
