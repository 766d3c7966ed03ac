import Mathlib.Data.List.Forall2
import Mathlib.Data.Option.Basic
import NativeScript.Proofs.HookName
import NativeScript.Scan.Declaration

/-!
# Raw names

A name may be spelled raw, behind `r#`, and is the same name to the language then.  A scan keeps
names as they are spelled, so it takes the two spellings for two names, and the escape reaches
the engine.  The relations below say of two declarations that they are one and the same but for
the spelling of their names.
-/

namespace NativeScript.Source

/-! ## Names -/

/-- The raw spelling of a name. -/
def rawName (plain : String) : String :=
  "r#" ++ plain

/-- A name is spelled raw. -/
def IsRaw (name : String) : Prop :=
  ∃ plain, name = rawName plain

theorem toList_rawName (plain : String) : (rawName plain).toList = 'r' :: '#' :: plain.toList := by
  rw [rawName, String.toList_append]
  rfl

theorem isRaw_iff {name : String} :
    IsRaw name ↔ (Text.after? ['r', '#'] name.toList).isSome = true := by
  rw [Option.isSome_iff_exists]
  simp only [Text.after?_eq_some_iff]
  constructor
  · rintro ⟨plain, rfl⟩
    exact ⟨plain.toList, toList_rawName plain⟩
  · rintro ⟨rest, split⟩
    refine ⟨String.ofList rest, String.toList_inj.mp ?_⟩
    rw [split, toList_rawName, String.toList_ofList]
    rfl

instance (name : String) : Decidable (IsRaw name) :=
  decidable_of_iff _ isRaw_iff.symm

/-- The second of two names is the first one, as it is or spelled raw. -/
inductive Respelled (name : String) : String → Prop
  | same : Respelled name name
  | raw (isPlain : ¬ IsRaw name) : Respelled name (rawName name)

variable {name other : String}

/-- Nothing but a plain name is spelled as a plain one. -/
theorem Respelled.eq_of_not_isRaw (respelled : Respelled name other) (isPlain : ¬ IsRaw other) :
    other = name := by
  cases respelled with
  | same => rfl
  | raw => exact absurd ⟨name, rfl⟩ isPlain

/-- A raw name has no other spelling. -/
theorem Respelled.eq_of_isRaw (respelled : Respelled name other) (isRaw : IsRaw name) :
    other = name := by
  cases respelled with
  | same => rfl
  | raw isPlain => exact absurd isRaw isPlain

/-! ## Declarations -/

/-- A field of another name. -/
def Field.rename (field : Field) (name : String) : Field :=
  { field with name }

/-- A function of another name. -/
def Function.rename (decl : Function) (name : String) : Function :=
  { decl with name }

/-- Two fields are the same but for the spelling of their names. -/
def Field.Respelled (field other : Field) : Prop :=
  ∃ name, Source.Respelled field.name name ∧ other = field.rename name

/-- The fields of two structs are the same but for the spelling of their names. -/
inductive Fields.Respelled : Fields → Fields → Prop
  | named {fields others : List Field} (each : List.Forall₂ Field.Respelled fields others) :
      Respelled (.named fields) (.named others)
  | numbered (fields : List TupleField) : Respelled (.numbered fields) (.numbered fields)
  | none : Respelled .none .none

/-- Two structs are the same but for the spelling of their names and of those of their
fields. -/
def Struct.Respelled (decl other : Struct) : Prop :=
  ∃ name fields, Source.Respelled decl.name name ∧ decl.fields.Respelled fields ∧
    other = { decl with name, fields }

/-- Two functions are the same but for the spelling of their names and of those of the types
that their `impl` blocks are for. -/
def OwnedFunction.Respelled (function other : OwnedFunction) : Prop :=
  ∃ owner name, Option.Rel Source.Respelled function.owner owner ∧
    Source.Respelled function.decl.name name ∧ other = ⟨owner, function.decl.rename name⟩

/-- Two packages declare the same structs and functions, in the same order, but for the spelling
of their names, of those of fields and of those of the types that `impl` blocks are for.  All
else in them may differ. -/
structure AllRespelled (units others : List SourceUnit) : Prop where
  structs : List.Forall₂ Struct.Respelled (units.flatMap SourceUnit.structs)
    (others.flatMap SourceUnit.structs)
  functions : List.Forall₂ OwnedFunction.Respelled (units.flatMap SourceUnit.functions)
    (others.flatMap SourceUnit.functions)

theorem Fields.Respelled.types {fields others : Fields} (respelled : fields.Respelled others) :
    others.types = fields.types := by
  cases respelled with
  | named each =>
      simp only [Fields.types]
      induction each with
      | nil => rfl
      | cons isOther _ ih =>
          obtain ⟨_, _, rfl⟩ := isOther
          exact congrArg (_ :: ·) ih
  | numbered fields => rfl
  | none => rfl

end NativeScript.Source

namespace NativeScript.Entry

open Source (rawName)

/-- A name on the side of the engine is raw exactly if the declared one is, and is the same name
then. -/
def ShowsEscape (declared shown : String) : Prop :=
  ∀ plain, shown = rawName plain ↔ declared = rawName plain

theorem showsEscape_self (name : String) : ShowsEscape name name :=
  fun _ => Iff.rfl

/-- A raw name is that of no virtual hook. -/
theorem hookName_rawName (plain : String) : hookName (rawName plain) = rawName plain := by
  have noSnake : snakeHookName? ('r' :: '#' :: plain.toList) = none := rfl
  have noCamel : camelHookName? ('r' :: '#' :: plain.toList) = none := rfl
  rw [hookName, Source.toList_rawName, noSnake, noCamel]
  exact (String.toList_inj.mp (by rw [Source.toList_rawName, String.toList_ofList]; rfl)).symm

theorem showsEscape_hookName (name : String) : ShowsEscape name (hookName name) := by
  intro plain
  constructor
  · intro isRaw
    rcases hookName_eq_or name with own | ⟨rest, isHook⟩
    · rw [← own, isRaw]
    · have underscore := congrArg String.toList (isHook.symm.trans isRaw)
      rw [Source.toList_rawName, String.toList_ofList] at underscore
      cases underscore
  · rintro rfl
    exact hookName_rawName plain

end NativeScript.Entry
