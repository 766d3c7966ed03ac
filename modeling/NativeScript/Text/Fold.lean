/-!
# Folding the case of letters

Markers and tags are recognised whatever the case of their ASCII letters.  All
other characters count as they are.
-/

namespace NativeScript.Text

/-- ASCII letters in lower case, all other characters as they are. -/
def foldCase (text : List Char) : List Char :=
  text.map Char.toLower

/-- Whether two texts differ at most in the case of ASCII letters. -/
def sameFolded (left right : List Char) : Bool :=
  foldCase left == foldCase right

/-- What follows `lead`, in any case, at the start of a text. -/
def afterFolded? : List Char → List Char → Option (List Char)
  | [], text => some text
  | _ :: _, [] => none
  | expected :: lead, char :: text =>
      if char.toLower = expected.toLower then afterFolded? lead text else none

/-- A text is split by what it begins with up to case, and nothing is lost. -/
theorem afterFolded?_eq_some_iff {lead text rest : List Char} :
    afterFolded? lead text = some rest ↔
      ∃ head, text = head ++ rest ∧ sameFolded head lead = true := by
  induction lead generalizing text with
  | nil =>
      simp only [afterFolded?, sameFolded, foldCase, beq_iff_eq, List.map_nil, List.map_eq_nil_iff]
      constructor
      · intro same
        exact ⟨[], by simpa using same, rfl⟩
      · rintro ⟨head, rfl, rfl⟩
        rfl
  | cons expected lead ih =>
      cases text with
      | nil => simp [afterFolded?, sameFolded, foldCase]
      | cons char text =>
          simp only [afterFolded?]
          split
          · rename_i same
            rw [ih]
            constructor
            · rintro ⟨head, rfl, folded⟩
              exact ⟨char :: head, rfl, by simp_all [sameFolded, foldCase]⟩
            · rintro ⟨head, split, folded⟩
              cases head with
              | nil => simp [sameFolded, foldCase] at folded
              | cons first head =>
                  simp only [List.cons_append, List.cons.injEq] at split
                  exact ⟨head, split.2, by simp_all [sameFolded, foldCase]⟩
          · rename_i differs
            constructor
            · simp
            · rintro ⟨head, split, folded⟩
              cases head with
              | nil => simp [sameFolded, foldCase] at folded
              | cons first head =>
                  simp only [List.cons_append, List.cons.injEq] at split
                  simp_all [sameFolded, foldCase]

end NativeScript.Text
