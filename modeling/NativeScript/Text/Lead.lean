/-!
# Leading text

Many texts are recognised by how they begin.  `after? lead text` is what follows
`lead` at the start of `text`, and it is defined exactly when `text` begins with
`lead`.
-/

namespace NativeScript.Text

/-- What follows `lead` at the start of a text. -/
def after? : List Char → List Char → Option (List Char)
  | [], text => some text
  | _ :: _, [] => none
  | expected :: lead, char :: text => if char = expected then after? lead text else none

/-- Text is split by what it begins with, and nothing is lost. -/
theorem after?_eq_some_iff {lead text rest : List Char} :
    after? lead text = some rest ↔ text = lead ++ rest := by
  induction lead generalizing text with
  | nil => simp [after?]
  | cons expected lead ih =>
      cases text with
      | nil => simp [after?]
      | cons char text =>
          by_cases same : char = expected <;> simp [after?, same, ih]

/-- A text begins with whatever it was built from. -/
@[simp]
theorem after?_append (lead rest : List Char) : after? lead (lead ++ rest) = some rest :=
  after?_eq_some_iff.2 rfl

/-- What precedes `tail` at the end of a text. -/
def before? (tail text : List Char) : Option (List Char) :=
  (after? tail.reverse text.reverse).map List.reverse

/-- Text is split by what it ends with, and nothing is lost. -/
theorem before?_eq_some_iff {tail text rest : List Char} :
    before? tail text = some rest ↔ text = rest ++ tail := by
  simp only [before?, Option.map_eq_some_iff, after?_eq_some_iff]
  constructor
  · rintro ⟨start, reversed, rfl⟩
    have := congrArg List.reverse reversed
    simpa using this
  · rintro rfl
    exact ⟨rest.reverse, by simp, by simp⟩

end NativeScript.Text
