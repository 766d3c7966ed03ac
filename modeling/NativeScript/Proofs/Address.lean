import NativeScript.Proofs.InOrder
import NativeScript.Source.Tree

/-!
# Where record literals stand

Code is a tree, and a piece of it is addressed by the way down to it: which part of the
whole, which part of that, and so on.  Addresses are compared number by number, so code
comes before its own parts, and these in the order of the text.  The record literals of a
piece of code are those that stand at an address in it, in this order, each with the
innermost `impl` block around it.
-/

namespace NativeScript.Source.Code

/-! ## Parts -/

/-- The code directly inside code, from left to right. -/
def parts : Code → List Code
  | text _ => []
  | name _ inner => inner
  | record _ inner fields rest => inner ++ fields.map Prod.snd ++ rest
  | call function arguments => function :: arguments
  | methodCall receiver _ inner arguments => receiver :: (inner ++ arguments)
  | enclosed before inner => before ++ [inner]
  | list elements => elements.map Prod.snd
  | macroList _ => []
  | owned _ inner => inner
  | other inner => inner

/-- The type that the innermost `impl` block around the parts of code is for, by that of
the block around the code itself. -/
def ownerInside (owner : Option String) : Code → Option String
  | owned inner _ => inner
  | _ => owner

theorem sizeOf_lt_of_mem_parts {part code : Code} (member : part ∈ code.parts) :
    sizeOf part < sizeOf code := by
  have inList {codes : List Code} (inside : part ∈ codes) : sizeOf part < sizeOf codes :=
    List.sizeOf_lt_of_mem inside
  have inPairs {γ : Type} [SizeOf γ] {pairs : List (γ × Code)}
      (inside : part ∈ pairs.map Prod.snd) : sizeOf part < sizeOf pairs := by
    obtain ⟨⟨key, value⟩, isPair, rfl⟩ := List.mem_map.mp inside
    have smaller := List.sizeOf_lt_of_mem isPair
    rw [Prod.mk.sizeOf_spec] at smaller
    change sizeOf value < sizeOf pairs
    omega
  cases code with
  | text value => cases member
  | macroList elements => cases member
  | _ => grind [parts]

/-! ## Record literals, part by part -/

theorem recordsAll_eq_flatMap (owner : Option String) (codes : List Code) :
    recordsAll owner codes = codes.flatMap (records owner) := by
  induction codes with
  | nil => rfl
  | cons code codes ih => rw [recordsAll, ih, List.flatMap_cons]

theorem recordsFields_eq_flatMap (owner : Option String) (fields : List (Option String × Code)) :
    recordsFields owner fields = (fields.map Prod.snd).flatMap (records owner) := by
  induction fields with
  | nil => rfl
  | cons field fields ih => rw [recordsFields, ih, List.map_cons, List.flatMap_cons]

theorem recordsElements_eq_flatMap (owner : Option String) (elements : List (String × Code)) :
    recordsElements owner elements = (elements.map Prod.snd).flatMap (records owner) := by
  induction elements with
  | nil => rfl
  | cons element elements ih => rw [recordsElements, ih, List.map_cons, List.flatMap_cons]

/-- The record literal that a piece of code is. -/
def literal? (owner : Option String) : Code → Option RecordLiteral
  | record path _ fields _ => some ⟨owner, path, fields⟩
  | _ => none

/-- The record literals in code are the code itself, if it is one, and those in its
parts. -/
theorem records_eq (owner : Option String) (code : Code) :
    code.records owner =
      (code.literal? owner).toList ++ code.parts.flatMap (records (code.ownerInside owner)) := by
  cases code <;>
    simp [records, parts, literal?, ownerInside, recordsAll_eq_flatMap, recordsFields_eq_flatMap,
      recordsElements_eq_flatMap]

/-! ## Addresses -/

/-- A record literal stands at an address in code, which lies in an `impl` block for the
type named `owner`, if in any. -/
inductive StandsAt : Option String → Code → List Nat → RecordLiteral → Prop
  | here (owner : Option String) (path : Path) (inner : List Code)
      (fields : List (Option String × Code)) (rest : List Code) :
      StandsAt owner (record path inner fields rest) [] ⟨owner, path, fields⟩
  | part {owner : Option String} {code part : Code} {index : Nat} {address : List Nat}
      {literal : RecordLiteral} (isPart : code.parts[index]? = some part)
      (stands : StandsAt (code.ownerInside owner) part address literal) :
      StandsAt owner code (index :: address) literal

/-- Where the value of a field stands, by the address of its record literal and its number. -/
def fieldAddress? : Code → List Nat → Nat → Option (List Nat)
  | record _ inner fields _, [], number =>
      if number < fields.length then some [inner.length + number] else none
  | _, [], _ => none
  | code, index :: address, number =>
      code.parts[index]?.bind fun part => (part.fieldAddress? address number).map (index :: ·)

theorem standsAt_nil_iff {owner : Option String} {code : Code} {literal : RecordLiteral} :
    StandsAt owner code [] literal ↔ code.literal? owner = some literal := by
  constructor
  · rintro ⟨⟩
    rfl
  · intro isLiteral
    cases code with
    | record path inner fields rest =>
        obtain rfl := Option.some.inj isLiteral
        exact .here owner path inner fields rest
    | _ => cases isLiteral

theorem standsAt_cons_iff {owner : Option String} {code : Code} {index : Nat}
    {address : List Nat} {literal : RecordLiteral} :
    StandsAt owner code (index :: address) literal ↔
      ∃ part, code.parts[index]? = some part ∧
        StandsAt (code.ownerInside owner) part address literal := by
  constructor
  · rintro ⟨⟩
    rename_i part isPart stands
    exact ⟨part, isPart, stands⟩
  · rintro ⟨part, isPart, stands⟩
    exact .part isPart stands

/-- The record literals in code are listed in the order of their addresses. -/
theorem inOrder_records (code : Code) (owner : Option String) :
    InOrder (StandsAt owner code) (code.records owner) := by
  have node := InOrder.node (code.literal? owner) fun part (member : part ∈ code.parts) =>
    inOrder_records part (code.ownerInside owner)
  rw [records_eq]
  refine node.congr fun address literal => ?_
  cases address with
  | nil => exact standsAt_nil_iff.symm
  | cons index address => exact standsAt_cons_iff.symm
termination_by sizeOf code
decreasing_by exact sizeOf_lt_of_mem_parts member

end NativeScript.Source.Code
