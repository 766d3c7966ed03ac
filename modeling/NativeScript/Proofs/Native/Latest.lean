/-!
# The last effect

A history is a list of operations, the last one first.  An operation may have an effect, which
may depend on what happened before it.  Whatever only effects can change is at every time what
the last effect has made it.
-/

namespace NativeScript.Native

variable {α β : Type}

/-- A value that the last operation of a history with an effect has given. -/
inductive Latest (effect : List α → α → β → Prop) : List α → β → Prop
  | now {past : List α} {operation : α} {value : β} (has : effect past operation value) :
      Latest effect (operation :: past) value
  | earlier {past : List α} {operation : α} {value : β}
      (silent : ∀ other, ¬ effect past operation other) (latest : Latest effect past value) :
      Latest effect (operation :: past) value

variable {effect : List α → α → β → Prop} {history : List α} {value : β}

section

variable (observe : List α → β)
  (effective : ∀ {past operation value}, effect past operation value →
    observe (operation :: past) = value)
  (stable : ∀ {past operation}, (∀ value, ¬ effect past operation value) →
    observe (operation :: past) = observe past)

include effective stable in
/-- What is observed after an effect is the effect, so it stays the last one. -/
theorem Latest.observe_eq (latest : Latest effect history value) : observe history = value := by
  induction latest with
  | now has => exact effective has
  | earlier silent _ ih => rw [stable silent, ih]

include stable in
/-- Without an effect, what is observed is what was there from the start. -/
theorem observe_eq_of_not_latest (never : ∀ value, ¬ Latest effect history value) :
    observe history = observe [] := by
  induction history with
  | nil => rfl
  | cons operation past ih =>
      have silent : ∀ value, ¬ effect past operation value :=
        fun value has => never value (.now has)
      rw [stable silent]
      exact ih fun value latest => never value (.earlier silent latest)

include effective stable in
/-- What only effects change is what the last effect has made it, and if there has been none it
is what it was at the start. -/
theorem observe_eq_iff :
    observe history = value ↔
      Latest effect history value ∨
        (∀ other, ¬ Latest effect history other) ∧ observe [] = value := by
  by_cases isChanged : ∃ other, Latest effect history other
  · rcases isChanged with ⟨other, latest⟩
    have isOther := latest.observe_eq observe effective stable
    constructor
    · intro isValue
      left
      rwa [← isValue, isOther]
    · rintro (latestValue | ⟨never, _⟩)
      · exact latestValue.observe_eq observe effective stable
      · exact absurd latest (never other)
  · have never := not_exists.mp isChanged
    rw [observe_eq_of_not_latest observe stable never]
    simp [never]

end

end NativeScript.Native
