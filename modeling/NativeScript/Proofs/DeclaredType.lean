import Mathlib.Logic.Function.Iterate
import NativeScript.Proofs.ScalarBoxing

/-!
# Declared types

The engine is told the type of a property, and glue code takes values of the same kind out of
their boxes.  The two tables behind this agree on every kind: the declared type is that of what
the accessor takes out.  The one exception is a name that spells the tag of the empty value,
which is declared as empty and taken out as an object.
-/

namespace NativeScript

open Engine (VariantType)

/-- The type of what an accessor takes out of a box: the one of its own name.  Unsigned numbers
are of the type of signed ones, and what stays in its box has the empty type. -/
def Accessor.type : Accessor → VariantType
  | uint => .int
  | raw => .nil
  | accessor => (VariantType.all.find? (·.name == accessor.name)).getD .nil

/-- Every accessor has a type, and but for two of them it has the name of the accessor. -/
theorem Accessor.name_type (accessor : Accessor) :
    accessor.type.name =
      match accessor with
      | uint => int.name
      | raw => "Nil"
      | _ => accessor.name := by
  cases accessor <;> rfl

/-- A kind is a name, plain or in the binding namespace and behind any pointers, that spells the
tag of the empty value. -/
def Kind.NamesNil (kind : Kind) : Prop :=
  ∃ name, (kind.stripPointers = .named name ∨ kind.stripPointers = .binding name) ∧
    VariantType.ofTag? name = some .nil

/-! ## Families -/

namespace Builtin

/-- No listed name spells the tag of the empty value. -/
theorem ofTag?_ne_nil_of_listed :
    ∀ family ∈ families, ∀ name ∈ family.2, VariantType.ofTag? name ≠ some .nil := by
  decide

theorem ofName?_eq_value_nil_iff {name : String} :
    ofName? name = some (value .nil) ↔ VariantType.ofTag? name = some .nil := by
  rw [ofName?_eq_value_iff]
  refine and_iff_right_of_imp fun spells family member listed => ?_
  exact ofTag?_ne_nil_of_listed family member name listed spells

/-- The type of a family is that of its accessor, unless it is the empty value. -/
theorem type_eq_iff {family : Builtin} :
    family.type = (Accessor.ofBuiltin family).type ↔ family ≠ value .nil := by
  cases family with
  | value type => cases type <;> decide
  | _ => decide

end Builtin

theorem Kind.namesNil_iff {kind : Kind} :
    kind.NamesNil ↔ Builtin.ofKind? kind.stripPointers = some (.value .nil) := by
  simp only [NamesNil, Builtin.ofKind?_eq_some_iff, Builtin.ofName?_eq_value_nil_iff]

/-! ## The tables -/

/-- The type of an array is that of its accessor. -/
theorem arrayType_eq (element : Kind) :
    arrayType element = (Accessor.ofElement element).type := by
  fun_cases Accessor.ofElement element
  all_goals
    rename_i family
    simp only [arrayType, Accessor.ofElement, family]
    rfl

/-- The declared type is that of the accessor, unless the kind is of the family of the empty
value. -/
theorem Kind.declaredType_eq_iff {kind : Kind} :
    kind.declaredType = (Accessor.ofKind kind).type ↔
      Builtin.ofKind? kind.stripPointers ≠ some (.value .nil) := by
  unfold declaredType Accessor.ofKind
  cases stripped : kind.stripPointers with
  | array element => simp [arrayType_eq, Builtin.ofKind?]
  | map key value => simp only [Builtin.ofKind?]; decide
  | _ =>
      dsimp only
      generalize Builtin.ofKind? _ = family?
      cases family? with
      | none => decide
      | some family => simp [Builtin.type_eq_iff]

/-- What is declared as empty and taken out as an object is of the family of the empty value. -/
theorem Kind.ofKind?_eq_nil_iff {kind : Kind} :
    Builtin.ofKind? kind.stripPointers = some (.value .nil) ↔
      Accessor.ofKind kind = .object ∧ kind.declaredType = .nil := by
  constructor
  · intro isNil
    unfold declaredType Accessor.ofKind
    cases stripped : kind.stripPointers with
    | array element => rw [stripped] at isNil; cases isNil
    | map key value => rw [stripped] at isNil; cases isNil
    | _ => rw [stripped] at isNil; simp only [isNil]; exact ⟨rfl, rfl⟩
  · rintro ⟨isObject, isEmpty⟩
    by_contra other
    have agree := declaredType_eq_iff.mpr other
    rw [isObject, isEmpty] at agree
    cases agree

/-- Pointers around a kind are stripped, however many there are. -/
theorem Kind.stripPointers_iterate (depth : Nat) (kind : Kind) :
    (pointer^[depth] kind).stripPointers = kind.stripPointers := by
  induction depth with
  | zero => rfl
  | succ depth ih => rw [Function.iterate_succ_apply', stripPointers, ih]

theorem Accessor.ofElement_iterate (depth : Nat) (element : Kind) :
    ofElement (Kind.pointer^[depth] element) = ofElement element := by
  rw [ofElement, ofElement, Kind.stripPointers_iterate]

/-- The declared type of a kind is that of its accessor, except for the names that spell the tag
of the empty value, which are declared as empty and taken out as objects.  Neither depends on
pointers around a kind or around the elements of an array, nor on what a map holds. -/
theorem Kind.declaredType_accessor (kind : Kind) :
    (kind.declaredType = (Accessor.ofKind kind).type ↔ ¬ kind.NamesNil) ∧
    (kind.NamesNil ↔ Accessor.ofKind kind = .object ∧ kind.declaredType = .nil) ∧
    (∀ depth, (pointer^[depth] kind).declaredType = kind.declaredType ∧
      Accessor.ofKind (pointer^[depth] kind) = .ofKind kind) ∧
    (∀ depth, (array (pointer^[depth] kind)).declaredType = (array kind).declaredType ∧
      Accessor.ofKind (array (pointer^[depth] kind)) = .ofKind (array kind)) ∧
    ∀ key value, (map key value).declaredType = .dictionary ∧
      Accessor.ofKind (map key value) = .dictionary := by
  refine ⟨?_, ?_, fun depth => ⟨?_, ?_⟩, fun depth => ⟨?_, ?_⟩, fun _ _ => ⟨rfl, rfl⟩⟩
  · rw [declaredType_eq_iff, namesNil_iff]
  · rw [namesNil_iff, ofKind?_eq_nil_iff]
  · rw [declaredType, declaredType, stripPointers_iterate]
  · rw [Accessor.ofKind, Accessor.ofKind, stripPointers_iterate]
  · exact (arrayType_eq _).trans ((congrArg _ (Accessor.ofElement_iterate depth kind)).trans
      (arrayType_eq kind).symm)
  · exact Accessor.ofElement_iterate depth kind

example : (Kind.pointer (.named "NIL")).declaredType = .nil ∧
    Accessor.ofKind (.pointer (.named "NIL")) = .object := by
  decide

end NativeScript
