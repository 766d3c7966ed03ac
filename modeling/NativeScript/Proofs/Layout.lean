import NativeScript.Proofs.Contents
import NativeScript.Proofs.Marker

/-!
# Units and modules

How a package is cut into units, and its units into modules, leaves no trace in
its contents: structs, functions and record literals are collected from left to
right, through every module.  Attributes stay where they are, since a record
literal may stand in one.
-/

namespace NativeScript.Source

/-! ## Items one after the other -/

theorem structsOfItems_append (first second : List Item) :
    structsOfItems (first ++ second) = structsOfItems first ++ structsOfItems second := by
  induction first with
  | nil => rfl
  | cons item first ih =>
      rw [List.cons_append, structsOfItems, structsOfItems, ih, List.append_assoc]

theorem functionsOfItems_append (first second : List Item) :
    functionsOfItems (first ++ second) = functionsOfItems first ++ functionsOfItems second := by
  induction first with
  | nil => rfl
  | cons item first ih =>
      rw [List.cons_append, functionsOfItems, functionsOfItems, ih, List.append_assoc]

theorem codeOfItems_append (first second : List Item) :
    codeOfItems (first ++ second) = codeOfItems first ++ codeOfItems second := by
  induction first with
  | nil => rfl
  | cons item first ih =>
      rw [List.cons_append, codeOfItems, codeOfItems, ih, List.append_assoc]

theorem Code.recordsAll_append (owner : Option String) (first second : List Code) :
    recordsAll owner (first ++ second) = recordsAll owner first ++ recordsAll owner second := by
  induction first with
  | nil => rfl
  | cons code first ih =>
      rw [List.cons_append, recordsAll, recordsAll, ih, List.append_assoc]

/-! ## Splicing a module -/

/-- The second list of items is the first one with the items of one module
without attributes in place of the module, which may stand inside other
modules. -/
inductive Spliced : List Item → List Item → Prop
  | here (before items after : List Item) :
      Spliced (before ++ .module [] items :: after) (before ++ (items ++ after))
  | inside (before after : List Item) (attributes : List Attribute) {items spliced : List Item}
      (inner : Spliced items spliced) :
      Spliced (before ++ .module attributes items :: after)
        (before ++ .module attributes spliced :: after)

namespace Spliced

variable {items spliced : List Item}

theorem structs (step : Spliced items spliced) : structsOfItems items = structsOfItems spliced := by
  induction step with
  | here before items after =>
      simp only [structsOfItems_append, structsOfItems, Item.structs]
  | inside before after attributes inner ih =>
      simp only [structsOfItems_append, structsOfItems, Item.structs, ih]

theorem functions (step : Spliced items spliced) :
    functionsOfItems items = functionsOfItems spliced := by
  induction step with
  | here before items after =>
      simp only [functionsOfItems_append, functionsOfItems, Item.functions]
  | inside before after attributes inner ih =>
      simp only [functionsOfItems_append, functionsOfItems, Item.functions, ih]

/-- Splicing keeps the code inside items.  Of the items in the body of a function
nothing but this is kept, so a module in a body may be spliced as well. -/
theorem code (step : Spliced items spliced) : codeOfItems items = codeOfItems spliced := by
  induction step with
  | here before items after =>
      simp only [codeOfItems_append, codeOfItems, Item.code, codeOfAttributes, List.flatMap_nil,
        List.nil_append]
  | inside before after attributes inner ih =>
      simp only [codeOfItems_append, codeOfItems, Item.code, ih]

end Spliced

end NativeScript.Source

namespace NativeScript.Source

/-! ## Joining units -/

theorem structs_joined (units : List SourceUnit) :
    units.flatMap SourceUnit.structs = structsOfItems (units.flatMap SourceUnit.items) := by
  induction units with
  | nil => rfl
  | cons unit units ih =>
      rw [List.flatMap_cons, List.flatMap_cons, structsOfItems_append, ih]
      rfl

theorem functions_joined (units : List SourceUnit) :
    units.flatMap SourceUnit.functions = functionsOfItems (units.flatMap SourceUnit.items) := by
  induction units with
  | nil => rfl
  | cons unit units ih =>
      rw [List.flatMap_cons, List.flatMap_cons, functionsOfItems_append, ih]
      rfl

theorem records_joined {units : List SourceUnit} (plain : ∀ unit ∈ units, unit.attributes = []) :
    units.flatMap SourceUnit.records =
      Code.recordsAll none (codeOfItems (units.flatMap SourceUnit.items)) := by
  induction units with
  | nil => rfl
  | cons unit units ih =>
      have plainUnit : unit.records = Code.recordsAll none (codeOfItems unit.items) := by
        rw [SourceUnit.records, SourceUnit.code, plain unit List.mem_cons_self]
        rfl
      have plainRest := ih fun other member => plain other (List.mem_cons_of_mem unit member)
      rw [List.flatMap_cons, List.flatMap_cons, codeOfItems_append, Code.recordsAll_append,
        plainUnit, plainRest]

end NativeScript.Source

namespace NativeScript.Scan

open Source (Attribute Item SourceUnit Spliced Struct)

/-- Units without attributes have the contents of their items in one unit. -/
theorem contents_joined {units : List SourceUnit} (plain : ∀ unit ∈ units, unit.attributes = []) :
    Contents.ofUnits units = .ofUnits [⟨[], units.flatMap SourceUnit.items⟩] := by
  simp only [Contents.ofUnits, Source.structs_joined units, Source.functions_joined units,
    Source.records_joined plain, List.flatMap_cons, List.flatMap_nil, List.append_nil]
  rfl

/-- A module in a unit has the contents of its items in its place. -/
theorem contents_spliced {items spliced : List Item} (step : Spliced items spliced)
    (before after : List SourceUnit) (attributes : List Attribute) :
    Contents.ofUnits (before ++ ⟨attributes, items⟩ :: after) =
      .ofUnits (before ++ ⟨attributes, spliced⟩ :: after) := by
  simp only [Contents.ofUnits, List.flatMap_append, List.flatMap_cons, SourceUnit.structs,
    SourceUnit.functions, SourceUnit.records, SourceUnit.code, step.structs, step.functions,
    step.code]

/-- How a package is cut into units and modules cannot be told from the outcome
of its scan, be it a registry or an error. -/
theorem package_layout (config : Config) :
    (∀ units : List SourceUnit, (∀ unit ∈ units, unit.attributes = []) →
      (package config units).outcome =
        (package config [⟨[], units.flatMap SourceUnit.items⟩]).outcome) ∧
    ∀ (before after : List SourceUnit) (attributes : List Attribute) (items spliced : List Item),
      Spliced items spliced →
      (package config (before ++ ⟨attributes, items⟩ :: after)).outcome =
        (package config (before ++ ⟨attributes, spliced⟩ :: after)).outcome := by
  constructor
  · intro units plain
    rw [outcome_package, outcome_package, contents_joined plain]
  · intro before after attributes items spliced step
    rw [outcome_package, outcome_package, contents_spliced step before after attributes]

/-- A struct with a register marker. -/
def probeStruct : Struct where
  attributes := [docComment "godot::register"]
  name := "Probe"
  heading := []
  fields := .none

/-- A class is found in a unit of its own and in a module within a module. -/
theorem package_layout_probe :
    (package {} [⟨[], []⟩, ⟨[], [.struct probeStruct]⟩]).outcome =
      (package {} [⟨[], [.struct probeStruct]⟩]).outcome ∧
    (package {} [⟨[], [.module [docComment ""] [.module [] [.struct probeStruct]]]⟩]).outcome =
      (package {} [⟨[], [.module [docComment ""] [.struct probeStruct]]⟩]).outcome := by
  rcases package_layout {} with ⟨joined, spliced⟩
  have inner : Spliced [.module [] [.struct probeStruct]] [.struct probeStruct] :=
    .here [] [.struct probeStruct] []
  exact ⟨joined _ (by simp), spliced [] [] [] _ _ (.inside [] [] [docComment ""] inner)⟩

end NativeScript.Scan
