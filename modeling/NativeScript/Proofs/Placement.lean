import NativeScript.Proofs.InOrder
import NativeScript.Scan.Declaration

/-!
# Where declarations stand

Items form a tree whose branches are the modules, and an item is addressed by the way down
to it.  A package is the tree of its units, in their order.  Its structs stand at the
addresses of their items, and its functions at those of their items too, those of an
`impl` block each with its number among the members.
-/

namespace NativeScript.Source

/-! ## Items -/

/-- The items directly inside an item. -/
def Item.parts : Item → List Item
  | .module _ items => items
  | _ => []

/-- An item stands at an address in an item. -/
inductive Item.StandsAt : Item → List Nat → Item → Prop
  | here (item : Item) : StandsAt item [] item
  | part {whole part item : Item} {index : Nat} {address : List Nat}
      (isPart : whole.parts[index]? = some part) (stands : part.StandsAt address item) :
      StandsAt whole (index :: address) item

theorem Item.standsAt_nil_iff {whole item : Item} :
    whole.StandsAt [] item ↔ some whole = some item := by
  constructor
  · rintro ⟨⟩
    rfl
  · rintro ⟨⟩
    exact .here whole

theorem Item.standsAt_cons_iff {whole item : Item} {index : Nat} {address : List Nat} :
    whole.StandsAt (index :: address) item ↔
      ∃ part, whole.parts[index]? = some part ∧ part.StandsAt address item := by
  constructor
  · rintro ⟨⟩
    rename_i part isPart stands
    exact ⟨part, isPart, stands⟩
  · rintro ⟨part, isPart, stands⟩
    exact .part isPart stands

theorem Item.sizeOf_lt_of_mem_parts {part whole : Item} (member : part ∈ whole.parts) :
    sizeOf part < sizeOf whole := by
  cases whole with
  | module attributes items =>
      have smaller := List.sizeOf_lt_of_mem (show part ∈ items from member)
      rw [Item.module.sizeOf_spec]
      omega
  | _ => cases member

mutual

/-- An item and all items inside it, each before those inside it. -/
def Item.all : Item → List Item
  | .module attributes items => .module attributes items :: allOfItems items
  | item => [item]

/-- All items among items, each before those inside it. -/
def allOfItems : List Item → List Item
  | [] => []
  | item :: items => item.all ++ allOfItems items

end

theorem allOfItems_eq_flatMap (items : List Item) : allOfItems items = items.flatMap Item.all := by
  induction items with
  | nil => rfl
  | cons item items ih => rw [allOfItems, ih, List.flatMap_cons]

theorem Item.all_eq (item : Item) :
    item.all = (some item).toList ++ item.parts.flatMap Item.all := by
  cases item <;> simp [Item.all, Item.parts, allOfItems_eq_flatMap]

/-- Items are listed in the order of their addresses. -/
theorem Item.inOrder_all (whole : Item) : InOrder whole.StandsAt whole.all := by
  have node := InOrder.node (some whole) fun part (member : part ∈ whole.parts) =>
    part.inOrder_all
  rw [Item.all_eq]
  refine node.congr fun address item => ?_
  cases address with
  | nil => exact Item.standsAt_nil_iff.symm
  | cons index address => exact Item.standsAt_cons_iff.symm
termination_by sizeOf whole
decreasing_by exact Item.sizeOf_lt_of_mem_parts member

/-! ## Structs -/

/-- The struct that an item is. -/
def Item.struct? : Item → Option Struct
  | .struct decl => some decl
  | _ => none

mutual

theorem Item.structs_eq_filterMap (item : Item) :
    item.structs = item.all.filterMap Item.struct? := by
  cases item with
  | module attributes items =>
      rw [Item.structs, Item.all, List.filterMap_cons, structsOfItems_eq_filterMap items]
      rfl
  | _ => rfl

theorem structsOfItems_eq_filterMap (items : List Item) :
    structsOfItems items = (allOfItems items).filterMap Item.struct? := by
  cases items with
  | nil => rfl
  | cons item items =>
      rw [structsOfItems, allOfItems, List.filterMap_append, item.structs_eq_filterMap,
        structsOfItems_eq_filterMap items]

end

/-! ## Functions -/

/-- An item declares a function: itself, if it is one, or the member of that number of an
`impl` block. -/
inductive Item.Declares : Item → Nat → OwnedFunction → Prop
  | free (decl : Function) : Declares (.function decl) 0 ⟨none, decl⟩
  | member {block : Implementation} {number : Nat} {decl : Function}
      (isMember : block.members[number]? = some (.function decl)) :
      Declares (.implementation block) number ⟨block.owner.name?, decl⟩

theorem Item.declares_some_iff {item : Item} {number : Nat} {ownerName : String}
    {decl : Function} :
    item.Declares number ⟨some ownerName, decl⟩ ↔
      ∃ block, item = .implementation block ∧ block.owner.name? = some ownerName ∧
        block.members[number]? = some (.function decl) := by
  constructor
  · intro declares
    generalize isFunction : OwnedFunction.mk (some ownerName) decl = function at declares
    cases declares with
    | free other => cases isFunction
    | member isMember =>
        rename_i block other
        obtain ⟨isOwner, rfl⟩ := OwnedFunction.mk.inj isFunction
        exact ⟨block, rfl, isOwner.symm, isMember⟩
  · rintro ⟨block, rfl, isOwner, isMember⟩
    rw [← isOwner]
    exact .member isMember

/-- The functions that an item declares, without those of items inside it. -/
def Item.ownFunctions : Item → List OwnedFunction
  | .function decl => [⟨none, decl⟩]
  | .implementation block => block.functions
  | _ => []

theorem Item.inOrder_ownFunctions (item : Item) : InOrder item.Declares item.ownFunctions := by
  cases item with
  | function decl =>
      refine (InOrder.singleton 0 (OwnedFunction.mk none decl)).congr fun number function => ?_
      constructor
      · rintro ⟨rfl, rfl⟩
        exact .free decl
      · rintro ⟨⟩
        exact ⟨rfl, rfl⟩
  | implementation block =>
      refine ((InOrder.ofList block.members).filterMap _).congr fun number function => ?_
      constructor
      · rintro ⟨member, isMember, isFunction⟩
        cases member with
        | function decl =>
            obtain rfl := Option.some.inj isFunction
            exact .member isMember
        | other inner => cases isFunction
      · rintro ⟨⟩
        rename_i decl isMember
        exact ⟨.function decl, isMember, rfl⟩
  | _ => exact InOrder.nil fun number function declares => by cases declares

mutual

theorem Item.functions_eq_flatMap (item : Item) :
    item.functions = item.all.flatMap Item.ownFunctions := by
  cases item with
  | module attributes items =>
      rw [Item.functions, Item.all, List.flatMap_cons, functionsOfItems_eq_flatMap items]
      rfl
  | _ => simp [Item.functions, Item.all, Item.ownFunctions]

theorem functionsOfItems_eq_flatMap (items : List Item) :
    functionsOfItems items = (allOfItems items).flatMap Item.ownFunctions := by
  cases items with
  | nil => rfl
  | cons item items =>
      rw [functionsOfItems, allOfItems, List.flatMap_append, item.functions_eq_flatMap,
        functionsOfItems_eq_flatMap items]

end

/-! ## Packages -/

/-- A package as one item, whose parts are its units. -/
def itemOfUnits (units : List SourceUnit) : Item :=
  .module [] (units.map fun unit => .module unit.attributes unit.items)

theorem structs_itemOfUnits (units : List SourceUnit) :
    (itemOfUnits units).structs = units.flatMap SourceUnit.structs := by
  rw [itemOfUnits, Item.structs]
  induction units with
  | nil => rfl
  | cons unit units ih =>
      rw [List.map_cons, structsOfItems, ih, List.flatMap_cons]
      rfl

theorem functions_itemOfUnits (units : List SourceUnit) :
    (itemOfUnits units).functions = units.flatMap SourceUnit.functions := by
  rw [itemOfUnits, Item.functions]
  induction units with
  | nil => rfl
  | cons unit units ih =>
      rw [List.map_cons, functionsOfItems, ih, List.flatMap_cons]
      rfl

/-- A struct stands at an address of a package. -/
def StructAt (units : List SourceUnit) (address : List Nat) (decl : Struct) : Prop :=
  (itemOfUnits units).StandsAt address (.struct decl)

theorem inOrder_structs (units : List SourceUnit) :
    InOrder (StructAt units) (units.flatMap SourceUnit.structs) := by
  rw [← structs_itemOfUnits, Item.structs_eq_filterMap]
  refine ((itemOfUnits units).inOrder_all.filterMap Item.struct?).congr fun address decl => ?_
  constructor
  · rintro ⟨item, stands, isStruct⟩
    cases item with
    | struct other =>
        obtain rfl := Option.some.inj isStruct
        exact stands
    | _ => cases isStruct
  · intro stands
    exact ⟨.struct decl, stands, rfl⟩

/-- A function stands at a place of a package: the address of the item that declares it,
and its number in that item. -/
def FunctionAt (units : List SourceUnit) (place : List Nat ×ₗ Nat) (function : OwnedFunction) :
    Prop :=
  ∃ item, (itemOfUnits units).StandsAt (ofLex place).1 item ∧
    item.Declares (ofLex place).2 function

theorem inOrder_functions (units : List SourceUnit) :
    InOrder (FunctionAt units) (units.flatMap SourceUnit.functions) := by
  rw [← functions_itemOfUnits, Item.functions_eq_flatMap]
  exact (itemOfUnits units).inOrder_all.flatMap fun item _ => item.inOrder_ownFunctions

/-- A function stands at a place of a package as a member of an `impl` block for a type whose
last name is this one. -/
def MemberAt (units : List SourceUnit) (ownerName : String) (place : List Nat ×ₗ Nat)
    (decl : Function) : Prop :=
  ∃ block, (itemOfUnits units).StandsAt (ofLex place).1 (.implementation block) ∧
    block.owner.name? = some ownerName ∧
    block.members[(ofLex place).2]? = some (.function decl)

theorem functionAt_some_iff {units : List SourceUnit} {ownerName : String}
    {place : List Nat ×ₗ Nat} {decl : Function} :
    FunctionAt units place ⟨some ownerName, decl⟩ ↔ MemberAt units ownerName place decl := by
  simp only [FunctionAt, MemberAt, Item.declares_some_iff]
  constructor
  · rintro ⟨_, stands, block, rfl, isMember⟩
    exact ⟨block, stands, isMember⟩
  · rintro ⟨block, stands, isMember⟩
    exact ⟨_, stands, block, rfl, isMember⟩

end NativeScript.Source
