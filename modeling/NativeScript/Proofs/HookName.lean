import NativeScript.Proofs.SnakeCase

/-!
# The names of virtual hooks

A hook such as `_physics_process` is declared as `v_physics_process` or as `VPhysicsProcess`.
Snake case finds the words of the second spelling again if each of them but the last has two
characters or more: behind a word of one letter the next capital starts no new word.
-/

namespace NativeScript.Text

/-! ## Capitals and other characters -/

theorem isUpper_eq_false_of_isLower {char : Char} (small : isLower char = true) :
    isUpper char = false := by
  unfold isLower at small
  unfold isUpper
  split at small
  · rename_i ascii
    rw [if_pos ascii, Bool.eq_false_iff]
    intro capital
    have bounds := asciiLower_iff.mp small
    have boundsToo := asciiUpper_iff.mp capital
    omega
  · rename_i beyond
    rw [if_neg beyond]
    exact uppercase_contains_eq_false small

theorem isUpper_eq_false_of_isDigit {char : Char} (digit : char.isDigit = true) :
    isUpper char = false := by
  have bounds := Char.isDigit_iff_toNat.mp digit
  have ascii : char.val < 128 :=
    UInt32.lt_iff_toNat_lt.mpr (Nat.lt_of_le_of_lt bounds.2 (by decide))
  rw [isUpper, if_pos ascii, Bool.eq_false_iff]
  intro capital
  have boundsToo := asciiUpper_iff.mp capital
  have nine : '9'.toNat = 57 := rfl
  omega

theorem asciiUpper_toUpper {char : Char} (letter : char.isLower = true) :
    char.toUpper.isUpper = true := by
  have bounds := asciiLower_iff.mp letter
  have raised := toNat_toUpper letter
  rw [asciiUpper_iff]
  omega

theorem isUpper_toUpper {char : Char} (letter : char.isLower = true) :
    isUpper char.toUpper = true :=
  isUpper_of_asciiUpper (asciiUpper_toUpper letter)

/-- A capital is lowered to the letter that it was made from. -/
theorem lowerCapital_toUpper {char : Char} (letter : char.isLower = true) :
    lowerCapital char.toUpper = [char] := by
  have back : char.toUpper.toLower = char := by
    rw [← Char.toNat_inj, toNat_toLower (asciiUpper_toUpper letter), toNat_toUpper letter]
  rw [lowerCapital, if_pos (isUpper_toUpper letter),
    lowered_of_asciiUpper (asciiUpper_toUpper letter), back]

end NativeScript.Text

namespace NativeScript.Entry

/-! ## Small characters -/

/-- A lower-case letter is no capital, and neither is a digit. -/
theorem endsWord_iff {char : Char} :
    endsWord char = true ↔ Text.isLower char = true ∨ char.isDigit = true := by
  rw [endsWord, Bool.and_eq_true, Bool.or_eq_true, Bool.not_eq_true']
  constructor
  · exact And.right
  · rintro (small | digit)
    · exact ⟨Text.isUpper_eq_false_of_isLower small, .inl small⟩
    · exact ⟨Text.isUpper_eq_false_of_isDigit digit, .inr digit⟩

theorem isUpper_eq_false_of_endsWord {char : Char} (ends : endsWord char = true) :
    Text.isUpper char = false := by
  rw [endsWord, Bool.and_eq_true, Bool.not_eq_true'] at ends
  exact ends.1

/-- Small characters stay as they are; a word ends behind them, unless there are none. -/
theorem snakeCaseFrom_append_of_endsWord {text : List Char}
    (small : ∀ char ∈ text, endsWord char = true) (ends : Bool) (name : List Char) :
    snakeCaseFrom ends (text ++ name) = text ++ snakeCaseFrom (ends || !text.isEmpty) name := by
  induction text generalizing ends with
  | nil => simp
  | cons char text ih =>
      obtain ⟨endsHere, others⟩ := List.forall_mem_cons.mp small
      rw [List.cons_append,
        snakeCaseFrom_of_not_isUpper _ _ (isUpper_eq_false_of_endsWord endsHere), endsHere,
        ih others]
      simp

/-! ## Words run together -/

/-- A word of a hook's name: an ASCII lower-case letter, then lower-case letters and digits. -/
inductive IsHookWord : List Char → Prop
  | mk {first : Char} {rest : List Char} (letter : first.isLower = true)
      (others : ∀ char ∈ rest, Text.isLower char = true ∨ char.isDigit = true) :
      IsHookWord (first :: rest)

/-- A word with its first letter as a capital. -/
def capitalized : List Char → List Char
  | [] => []
  | first :: rest => first.toUpper :: rest

/-- A capitalised word begins behind an underscore if one may stand there, and ends if it has
more than its capital. -/
theorem IsHookWord.snakeCaseFrom_capitalized {word : List Char} (isWord : IsHookWord word)
    (ends : Bool) (name : List Char) :
    snakeCaseFrom ends (capitalized word ++ name) =
      (if ends then ['_'] else []) ++
        (word ++ snakeCaseFrom (decide (2 ≤ word.length)) name) := by
  cases isWord with
  | @mk first rest letter others =>
      have capital := Text.isUpper_toUpper letter
      have noEnd : endsWord first.toUpper = false := by simp [endsWord, capital]
      have small : ∀ char ∈ rest, endsWord char = true := fun char member =>
        endsWord_iff.mpr (others char member)
      have behind : (false || !rest.isEmpty) = decide (2 ≤ (first :: rest).length) := by
        cases rest <;> simp
      rw [capitalized, List.cons_append, snakeCaseFrom_cons, Text.lowerCapital_toUpper letter,
        noEnd, snakeCaseFrom_append_of_endsWord small, behind, gap, capital, Bool.and_true,
        List.append_assoc]
      rfl

/-- Words run together are found again exactly if a word ends behind each of them but the
last. -/
theorem snakeCaseFrom_flatMap_capitalized_iff {words : List (List Char)}
    (areWords : ∀ word ∈ words, IsHookWord word) :
    snakeCaseFrom true (words.flatMap capitalized) = words.flatMap ('_' :: ·) ↔
      ∀ word ∈ words.dropLast, 2 ≤ word.length := by
  induction words with
  | nil => simp [snakeCaseFrom]
  | cons word words ih =>
      obtain ⟨isWord, others⟩ := List.forall_mem_cons.mp areWords
      rw [List.flatMap_cons, List.flatMap_cons, isWord.snakeCaseFrom_capitalized]
      simp only [if_true, List.cons_append, List.nil_append, List.cons.injEq, true_and,
        List.append_cancel_left_eq]
      cases words with
      | nil => simp [snakeCaseFrom]
      | cons next words =>
          rw [List.dropLast_cons_cons, List.forall_mem_cons]
          by_cases long : 2 ≤ word.length
          · rw [decide_eq_true long, ih others]
            exact (and_iff_right long).symm
          · -- The next word follows at once, and begins with no underscore.
            refine iff_of_false (fun same => ?_) fun both => long both.1
            have isNext := others next List.mem_cons_self
            rw [decide_eq_false long, List.flatMap_cons, isNext.snakeCaseFrom_capitalized] at same
            cases isNext with
            | mk letter _ =>
                obtain ⟨rfl, _⟩ := List.cons.inj same
                exact absurd letter (by decide)

/-! ## Spellings of a hook -/

/-- The name of a hook, declared as `v_physics_process`. -/
def snakeSpelling (words : List (List Char)) : String :=
  String.ofList ('v' :: '_' :: ['_'].intercalate words)

/-- The name of a hook, declared as `VPhysicsProcess`. -/
def camelSpelling (words : List (List Char)) : String :=
  String.ofList ('V' :: words.flatMap capitalized)

/-- The name of a hook on the side of the engine, such as `_physics_process`. -/
def hookSpelling (words : List (List Char)) : String :=
  String.ofList ('_' :: ['_'].intercalate words)

theorem intercalate_cons {α : Type} (separator : α) (word : List α) (words : List (List α)) :
    [separator].intercalate (word :: words) = word ++ words.flatMap (separator :: ·) := by
  induction words generalizing word with
  | nil => simp
  | cons next words ih =>
      rw [List.intercalate_cons_cons, ih next, List.append_assoc]
      rfl

theorem hookSpelling_cons (word : List Char) (words : List (List Char)) :
    hookSpelling (word :: words) = String.ofList ((word :: words).flatMap ('_' :: ·)) := by
  rw [hookSpelling, intercalate_cons]
  rfl

/-! ## What the engine calls -/

theorem hookName_snakeSpelling {word : List Char} (isWord : IsHookWord word)
    (words : List (List Char)) :
    hookName (snakeSpelling (word :: words)) = hookSpelling (word :: words) := by
  cases isWord with
  | mk letter others =>
      unfold hookName snakeSpelling hookSpelling
      rw [intercalate_cons, String.toList_ofList]
      rfl

theorem hookName_camelSpelling {word : List Char} (isWord : IsHookWord word)
    (words : List (List Char)) :
    hookName (camelSpelling (word :: words)) =
      String.ofList (snakeCaseFrom true ((word :: words).flatMap capitalized)) := by
  cases isWord with
  | @mk first rest letter others =>
      have capital := Text.isUpper_toUpper letter
      have noSnake (name : List Char) : snakeHookName? ('V' :: name) = none := rfl
      rw [hookName, camelSpelling, String.toList_ofList, noSnake, Option.getD_none,
        List.flatMap_cons, capitalized, List.cons_append, camelHookName?, if_pos capital,
        Option.getD_some, snakeCaseFrom_true_of_isUpper _ capital]

/-- A name that begins with an underscore stays as it is. -/
theorem hookName_underscore (name : List Char) :
    hookName (String.ofList ('_' :: name)) = String.ofList ('_' :: name) := by
  have noSnake : snakeHookName? ('_' :: name) = none := rfl
  have noCamel : camelHookName? ('_' :: name) = none := rfl
  rw [hookName, String.toList_ofList, noSnake, noCamel]
  rfl

/-- The engine's name of a method is its own, or begins with an underscore. -/
theorem hookName_eq_or (name : String) :
    hookName name = name ∨ ∃ rest, hookName name = String.ofList ('_' :: rest) := by
  unfold hookName
  cases snake : snakeHookName? name.toList with
  | some found =>
      unfold snakeHookName? at snake
      split at snake
      · obtain rfl := Option.some.inj snake
        exact .inr ⟨_, rfl⟩
      · cases snake
  | none =>
      cases camel : camelHookName? name.toList with
      | some found =>
          unfold camelHookName? at camel
          split at camel
          · split at camel
            · obtain rfl := Option.some.inj camel
              exact .inr ⟨_, rfl⟩
            · cases camel
          · cases camel
      | none => exact .inl String.ofList_toList

/-- A hook has one name on the side of the engine, whichever way its declaration spells it, if
each of its words but the last has two characters or more, and only then.  The name on the side
of the engine, declared in turn, stays the same. -/
theorem hookName_spellings :
    (∀ words ≠ [], (∀ word ∈ words, IsHookWord word) →
      hookName (snakeSpelling words) = hookSpelling words ∧
      (hookName (camelSpelling words) = hookSpelling words ↔
        ∀ word ∈ words.dropLast, 2 ≤ word.length)) ∧
    ∀ name, hookName (hookName name) = hookName name := by
  constructor
  · intro words nonempty areWords
    cases words with
    | nil => exact absurd rfl nonempty
    | cons word words =>
        have isWord := areWords word List.mem_cons_self
        refine ⟨hookName_snakeSpelling isWord words, ?_⟩
        rw [hookName_camelSpelling isWord, hookSpelling_cons, String.ofList_inj]
        exact snakeCaseFrom_flatMap_capitalized_iff areWords
  · intro name
    rcases hookName_eq_or name with own | ⟨rest, isHook⟩
    · rw [own, own]
    · rw [isHook, hookName_underscore]

/-- The two spellings of one hook. -/
theorem hookName_spellings_physicsProcess :
    hookName "v_physics_process" = "_physics_process" ∧
      hookName "VPhysicsProcess" = "_physics_process" := by
  have isPhysics : IsHookWord "physics".toList :=
    .mk rfl (@of_decide_eq_true _ (List.decidableBAll _ _) rfl)
  have isProcess : IsHookWord "process".toList :=
    .mk rfl (@of_decide_eq_true _ (List.decidableBAll _ _) rfl)
  have spelled := hookName_spellings.1 ["physics".toList, "process".toList]
    (List.cons_ne_nil _ _)
    (List.forall_mem_cons.mpr ⟨isPhysics, List.forall_mem_singleton.mpr isProcess⟩)
  exact ⟨spelled.1, spelled.2.mpr (by decide)⟩

/-- Behind a word of one letter the next capital starts no new word. -/
example : hookName "VAButton" = "_abutton" := by
  rfl

end NativeScript.Entry
