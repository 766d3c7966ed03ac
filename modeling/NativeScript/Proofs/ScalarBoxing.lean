import NativeScript.Conversion
import NativeScript.Proofs.Tag

/-!
# Scalars in and out of their boxes

A parameter and a single result of one kind should pass through their boxes as the same scalar.
The tables know a scalar by names that are listed and, among the value types of the engine, by
any other spelling of its tag.  The accessor of a kind follows both; the boxing follows the
listed names alone and leaves a scalar under any other spelling as it is.
-/

namespace NativeScript

open Engine (VariantType)

/-! ## Value types by their tags -/

namespace Engine

/-- A tag names the value type whose name it spells. -/
theorem VariantType.ofTag?_eq_some_iff {text : String} {type : VariantType} :
    ofTag? text = some type ↔ Text.foldCase type.name.toList = Tag.key "VariantType" text := by
  have member : type ∈ all := by cases type <;> decide
  rw [ofTag?, isTable.find?_eq_some_iff]
  constructor
  · rintro ⟨name, isEntry, same⟩
    obtain ⟨_, _, isNamed⟩ := List.mem_map.mp isEntry
    obtain ⟨rfl, rfl⟩ := Prod.mk.inj isNamed
    exact same
  · intro same
    exact ⟨type.name, List.mem_map.mpr ⟨type, member, rfl⟩, same⟩

end Engine

/-! ## Scalars -/

/-- A scalar that can be put into a box and taken out of it. -/
inductive Scalar where
  | bool
  | uint
  | int
  | real
  | string
deriving DecidableEq

namespace Scalar

/-- The accessor that takes a scalar out of its box. -/
def accessor : Scalar → Accessor
  | bool => .bool
  | uint => .uint
  | int => .int
  | real => .real
  | string => .string

/-- The boxing that puts a scalar into a box. -/
def boxing : Scalar → Boxing
  | bool => .bool
  | uint => .uint
  | int => .int
  | real => .real
  | string => .string

/-- What boxes a scalar and what takes it out of the box have one name. -/
theorem name_boxing (scalar : Scalar) : scalar.boxing.name = scalar.accessor.name := by
  cases scalar <;> rfl

/-- The families whose listed names are those of a scalar. -/
def families : Scalar → List Builtin
  | bool => [.bool]
  | uint => [.byte, .uint]
  | int => [.int]
  | real => [.real]
  | string => [.string]

/-- The value type of the engine that a scalar is, if it is one by itself. -/
def type? : Scalar → Option VariantType
  | bool => some .bool
  | uint => none
  | int => some .int
  | real => some .real
  | string => some .string

theorem value_notMem_families (scalar : Scalar) (type : VariantType) :
    Builtin.value type ∉ scalar.families := by
  cases scalar <;> simp [families]

end Scalar

/-! ## Other spellings -/

/-- A name spells the tag of a scalar in a way that is not listed. -/
structure IsLooseName (name : String) : Prop where
  unlisted : ∀ family ∈ Builtin.families, name ∉ family.2
  spells : ∃ scalar type, Scalar.type? scalar = some type ∧
    Engine.Tag.key "VariantType" name = Text.foldCase type.name.toList

/-- A kind that is such a name, plain or in the binding namespace, behind any pointers. -/
def Kind.IsLoose (kind : Kind) : Prop :=
  ∃ name, (kind.stripPointers = .named name ∨ kind.stripPointers = .binding name) ∧
    IsLooseName name

namespace Builtin

theorem families_ne_value : ∀ listed ∈ families, ∀ type, listed.1 ≠ value type := by
  simp [families]

theorem ofName?_eq_value_iff {name : String} {type : VariantType} :
    ofName? name = some (value type) ↔
      (∀ family ∈ families, name ∉ family.2) ∧ VariantType.ofTag? name = some type := by
  unfold ofName?
  cases found : families.find? (·.2.contains name) with
  | some listed =>
      have member := List.mem_of_find?_eq_some found
      have isListed : name ∈ listed.2 := by simpa using List.find?_some found
      constructor
      · intro isValue
        exact absurd (Option.some.inj isValue) (families_ne_value listed member type)
      · rintro ⟨unlisted, _⟩
        exact absurd isListed (unlisted listed member)
  | none =>
      have unlisted : ∀ family ∈ families, name ∉ family.2 := by
        simpa using List.find?_eq_none.mp found
      rw [and_iff_right unlisted]
      simp

theorem ofKind?_eq_some_iff {kind : Kind} {family : Builtin} :
    ofKind? kind = some family ↔
      ∃ name, (kind = .named name ∨ kind = .binding name) ∧ ofName? name = some family := by
  constructor
  · intro isFamily
    unfold ofKind? at isFamily
    split at isFamily
    · rename_i name
      exact ⟨name, Or.inl rfl, isFamily⟩
    · rename_i space member
      split at isFamily
      · rename_i same
        exact ⟨member, Or.inr (by rw [same]; rfl), isFamily⟩
      · cases isFamily
    · cases isFamily
  · rintro ⟨name, rfl | rfl, isFamily⟩
    · exact isFamily
    · exact isFamily

end Builtin

theorem isLooseName_iff {name : String} :
    IsLooseName name ↔ ∃ scalar type, Scalar.type? scalar = some type ∧
      Builtin.ofName? name = some (.value type) := by
  simp only [Builtin.ofName?_eq_value_iff, Engine.VariantType.ofTag?_eq_some_iff]
  constructor
  · rintro ⟨unlisted, scalar, type, isScalar, same⟩
    exact ⟨scalar, type, isScalar, unlisted, same.symm⟩
  · rintro ⟨scalar, type, isScalar, unlisted, same⟩
    exact ⟨unlisted, scalar, type, isScalar, same.symm⟩

theorem Kind.isLoose_iff {kind : Kind} :
    kind.IsLoose ↔ ∃ scalar type, Scalar.type? scalar = some type ∧
      Builtin.ofKind? kind.stripPointers = some (.value type) := by
  simp only [IsLoose, isLooseName_iff, Builtin.ofKind?_eq_some_iff]
  constructor
  · rintro ⟨name, isName, scalar, type, isScalar, isValue⟩
    exact ⟨scalar, type, isScalar, name, isName, isValue⟩
  · rintro ⟨scalar, type, isScalar, name, isName, isValue⟩
    exact ⟨name, isName, scalar, type, isScalar, isValue⟩

/-! ## The tables -/

variable {kind : Kind} {scalar : Scalar}

/-- A single result is boxed as a scalar by the listed names. -/
theorem Boxing.ofResults_eq_boxing_iff :
    ofResults [kind] = scalar.boxing ↔
      ∃ family ∈ scalar.families, Builtin.ofKind? kind.stripPointers = some family := by
  change ofResult kind = scalar.boxing ↔ _
  unfold ofResult
  cases Builtin.ofKind? kind.stripPointers with
  | none => cases scalar <;> simp [Scalar.boxing]
  | some family => cases family <;> cases scalar <;> simp [Scalar.boxing, Scalar.families]

theorem Accessor.ofBuiltin_eq_accessor_iff {family : Builtin} :
    ofBuiltin family = scalar.accessor ↔
      family ∈ scalar.families ∨ ∃ type, scalar.type? = some type ∧ family = .value type := by
  cases family with
  | value type =>
      cases type <;> cases scalar <;>
        simp [ofBuiltin, ofType, Scalar.accessor, Scalar.families, Scalar.type?]
  | _ => cases scalar <;> simp [ofBuiltin, Scalar.accessor, Scalar.families]

/-- An element of an array does not make it a scalar. -/
theorem Accessor.ofElement_ne_accessor (element : Kind) : ofElement element ≠ scalar.accessor := by
  unfold ofElement
  split <;> cases scalar <;> simp [Scalar.accessor]

/-- An argument is taken out as a scalar by the listed names and by any spelling of its tag. -/
theorem Accessor.ofKind_eq_accessor_iff :
    ofKind kind = scalar.accessor ↔
      ∃ family, Builtin.ofKind? kind.stripPointers = some family ∧
        (family ∈ scalar.families ∨
          ∃ type, scalar.type? = some type ∧ family = .value type) := by
  unfold ofKind
  cases stripped : kind.stripPointers with
  | array element => simp [ofElement_ne_accessor, Builtin.ofKind?]
  | map key value => cases scalar <;> simp [Scalar.accessor, Builtin.ofKind?]
  | _ =>
      simp only [← ofBuiltin_eq_accessor_iff]
      generalize Builtin.ofKind? _ = family?
      cases family? with
      | none => cases scalar <;> simp [Scalar.accessor]
      | some family => simp

theorem Boxing.ofResults_raw_or_scalar (kind : Kind) :
    ofResults [kind] = .raw ∨ ∃ scalar : Scalar, ofResults [kind] = scalar.boxing := by
  change ofResult kind = .raw ∨ ∃ scalar : Scalar, ofResult kind = scalar.boxing
  unfold ofResult
  split
  · exact Or.inr ⟨.bool, rfl⟩
  · exact Or.inr ⟨.uint, rfl⟩
  · exact Or.inr ⟨.uint, rfl⟩
  · exact Or.inr ⟨.int, rfl⟩
  · exact Or.inr ⟨.real, rfl⟩
  · exact Or.inr ⟨.string, rfl⟩
  · exact Or.inl rfl

theorem Scalar.boxing_ne_raw (scalar : Scalar) : scalar.boxing ≠ .raw := by
  cases scalar <;> simp [boxing]

/-- Another spelling of its tag is taken out as the scalar. -/
theorem Kind.IsLoose.exists_accessor (isLoose : kind.IsLoose) :
    ∃ scalar : Scalar, Accessor.ofKind kind = scalar.accessor := by
  rcases isLoose_iff.mp isLoose with ⟨scalar, type, isScalar, isValue⟩
  exact ⟨scalar, Accessor.ofKind_eq_accessor_iff.mpr
    ⟨.value type, isValue, Or.inr ⟨type, isScalar, rfl⟩⟩⟩

theorem Boxing.ofResults_eq_boxing_iff_accessor :
    ofResults [kind] = scalar.boxing ↔
      Accessor.ofKind kind = scalar.accessor ∧ ¬ kind.IsLoose := by
  constructor
  · intro isBoxed
    rcases ofResults_eq_boxing_iff.mp isBoxed with ⟨family, isListed, isFamily⟩
    refine ⟨Accessor.ofKind_eq_accessor_iff.mpr ⟨family, isFamily, Or.inl isListed⟩, ?_⟩
    intro isLoose
    rcases Kind.isLoose_iff.mp isLoose with ⟨_, type, _, isValue⟩
    obtain rfl := Option.some.inj (isFamily.symm.trans isValue)
    exact scalar.value_notMem_families type isListed
  · rintro ⟨isTaken, notLoose⟩
    rcases Accessor.ofKind_eq_accessor_iff.mp isTaken with
      ⟨family, isFamily, isListed | ⟨type, isScalar, rfl⟩⟩
    · exact ofResults_eq_boxing_iff.mpr ⟨family, isListed, isFamily⟩
    · exact absurd (Kind.isLoose_iff.mpr ⟨scalar, type, isScalar, isFamily⟩) notLoose

/-- A single result of a kind is boxed as a scalar exactly if an argument of this kind is taken
out as that scalar and the kind is no loose spelling, and is left as it is in every other case.
Boxing agrees with taking out for exactly the kinds that are no loose spelling. -/
theorem Kind.boxing_scalar_iff (kind : Kind) :
    (∀ scalar : Scalar, Boxing.ofResults [kind] = scalar.boxing ↔
      Accessor.ofKind kind = scalar.accessor ∧ ¬ kind.IsLoose) ∧
    (Boxing.ofResults [kind] = .raw ↔
      kind.IsLoose ∨ ∀ scalar : Scalar, Accessor.ofKind kind ≠ scalar.accessor) ∧
    ((∀ scalar : Scalar, Boxing.ofResults [kind] = scalar.boxing ↔
      Accessor.ofKind kind = scalar.accessor) ↔ ¬ kind.IsLoose) := by
  have boxed_iff (scalar : Scalar) := @Boxing.ofResults_eq_boxing_iff_accessor kind scalar
  refine ⟨boxed_iff, ⟨fun isRaw => ?_, fun unboxed => ?_⟩, fun agree isLoose => ?_,
    fun notLoose scalar => by simp [boxed_iff, notLoose]⟩
  · by_cases isLoose : kind.IsLoose
    · exact Or.inl isLoose
    · refine Or.inr fun scalar isTaken => scalar.boxing_ne_raw ?_
      rw [← (boxed_iff scalar).mpr ⟨isTaken, isLoose⟩, isRaw]
  · rcases Boxing.ofResults_raw_or_scalar kind with isRaw | ⟨scalar, isBoxed⟩
    · exact isRaw
    · rcases (boxed_iff scalar).mp isBoxed with ⟨isTaken, notLoose⟩
      rcases unboxed with isLoose | notTaken
      · exact absurd isLoose notLoose
      · exact absurd isTaken (notTaken scalar)
  · rcases isLoose.exists_accessor with ⟨scalar, isTaken⟩
    exact ((boxed_iff scalar).mp ((agree scalar).mpr isTaken)).2 isLoose

/-- A kind that is taken out as a truth value and is not boxed as one. -/
theorem Kind.exists_boxing_ne_accessor :
    Accessor.ofKind (.named "BOOL") = Scalar.bool.accessor ∧
    Boxing.ofResults [.named "BOOL"] = .raw ∧
    ¬ (Boxing.ofResults [.named "BOOL"] = Scalar.bool.boxing ↔
      Accessor.ofKind (.named "BOOL") = Scalar.bool.accessor) := by
  decide

end NativeScript
