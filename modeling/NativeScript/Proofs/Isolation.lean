import NativeScript.Proofs.Acceptance

/-!
# Classes do not interfere

Without the register markers of the other structs a package has one class left.
All functions and record literals are still there, and so are the struct and the
demands of that class, so it comes out as it did among the others.
-/

namespace NativeScript.Source

/-! ## Changing structs where they stand -/

mutual

/-- An item with changed structs. -/
def Item.mapStructs (change : Struct → Struct) : Item → Item
  | .struct decl => .struct (change decl)
  | .module attributes items => .module attributes (mapStructsOfItems change items)
  | .function decl => .function decl
  | .implementation block => .implementation block
  | .other inner => .other inner

/-- Items with changed structs. -/
def mapStructsOfItems (change : Struct → Struct) : List Item → List Item
  | [] => []
  | item :: items => item.mapStructs change :: mapStructsOfItems change items

end

/-- A unit with changed structs. -/
def SourceUnit.mapStructs (change : Struct → Struct) (unit : SourceUnit) : SourceUnit where
  attributes := unit.attributes
  items := mapStructsOfItems change unit.items

variable (change : Struct → Struct)

mutual

theorem Item.structs_mapStructs (item : Item) :
    (item.mapStructs change).structs = item.structs.map change := by
  cases item with
  | struct decl => rfl
  | module attributes items => exact structsOfItems_mapStructs items
  | function decl => rfl
  | implementation block => rfl
  | other inner => rfl

theorem structsOfItems_mapStructs (items : List Item) :
    structsOfItems (mapStructsOfItems change items) = (structsOfItems items).map change := by
  cases items with
  | nil => rfl
  | cons item items =>
      rw [mapStructsOfItems, structsOfItems, structsOfItems, item.structs_mapStructs,
        structsOfItems_mapStructs items, List.map_append]

end

mutual

theorem Item.functions_mapStructs (item : Item) :
    (item.mapStructs change).functions = item.functions := by
  cases item with
  | struct decl => rfl
  | module attributes items => exact functionsOfItems_mapStructs items
  | function decl => rfl
  | implementation block => rfl
  | other inner => rfl

theorem functionsOfItems_mapStructs (items : List Item) :
    functionsOfItems (mapStructsOfItems change items) = functionsOfItems items := by
  cases items with
  | nil => rfl
  | cons item items =>
      rw [mapStructsOfItems, functionsOfItems, functionsOfItems, item.functions_mapStructs,
        functionsOfItems_mapStructs items]

end

mutual

theorem Item.code_mapStructs (sameCode : ∀ decl, (change decl).code = decl.code) (item : Item) :
    (item.mapStructs change).code = item.code := by
  cases item with
  | struct decl => exact sameCode decl
  | module attributes items =>
      rw [Item.mapStructs, Item.code, Item.code, codeOfItems_mapStructs sameCode items]
  | function decl => rfl
  | implementation block => rfl
  | other inner => rfl

theorem codeOfItems_mapStructs (sameCode : ∀ decl, (change decl).code = decl.code)
    (items : List Item) : codeOfItems (mapStructsOfItems change items) = codeOfItems items := by
  cases items with
  | nil => rfl
  | cons item items =>
      rw [mapStructsOfItems, codeOfItems, codeOfItems, item.code_mapStructs sameCode,
        codeOfItems_mapStructs sameCode items]

end

end NativeScript.Source

namespace NativeScript.Scan

open Source (Attribute SourceUnit Struct)

/-- Contents with changed structs. -/
def Contents.mapStructs (change : Struct → Struct) (contents : Contents) : Contents :=
  { contents with structs := contents.structs.map change }

/-- A change of structs that keeps the code in them changes nothing else. -/
theorem contents_mapStructs {change : Struct → Struct}
    (sameCode : ∀ decl, (change decl).code = decl.code) (units : List SourceUnit) :
    Contents.ofUnits (units.map (SourceUnit.mapStructs change)) =
      (Contents.ofUnits units).mapStructs change := by
  simp only [Contents.ofUnits, Contents.mapStructs, List.flatMap_map, List.map_flatMap,
    SourceUnit.structs, SourceUnit.functions, SourceUnit.records, SourceUnit.code,
    SourceUnit.mapStructs, Source.structsOfItems_mapStructs, Source.functionsOfItems_mapStructs,
    Source.codeOfItems_mapStructs change sameCode]
  rfl

/-! ## Structs without register markers -/

/-- Whether an attribute is a line of a doc comment with a register marker. -/
def isRegisterLine (config : Config) (item : Attribute) : Bool :=
  (docLine? item).any fun line => (afterMarker? (config.marker "register") line).isSome

/-- A struct without the lines of its doc comment that have a register marker. -/
def unregister (config : Config) (decl : Struct) : Struct :=
  { decl with attributes := decl.attributes.filter fun item => !isRegisterLine config item }

/-- A struct, without register markers unless it has the given name. -/
def registerOnly (config : Config) (name : String) (decl : Struct) : Struct :=
  if decl.name = name then decl else unregister config decl

theorem firstMarker?_unregister (config : Config) (decl : Struct) :
    firstMarker? config "register" (unregister config decl).attributes = none := by
  rw [firstMarker?, List.findSome?_eq_none_iff]
  intro line isLine
  rcases List.mem_filterMap.mp isLine with ⟨item, kept, isDoc⟩
  have plain := (List.mem_filter.mp kept).2
  simpa [isRegisterLine, isDoc] using plain

/-- A line of a doc comment holds no code, so none is lost with it. -/
theorem code_eq_nil_of_isRegisterLine {config : Config} {item : Attribute}
    (isLine : isRegisterLine config item = true) : item.code = [] := by
  unfold isRegisterLine docLine? at isLine
  unfold Attribute.code
  split at isLine
  · rename_i line content
    rw [content]
  · cases isLine

theorem code_unregister (config : Config) (decl : Struct) :
    (unregister config decl).code = decl.code := by
  have kept : Source.codeOfAttributes (unregister config decl).attributes =
      Source.codeOfAttributes decl.attributes := by
    unfold unregister Source.codeOfAttributes
    induction decl.attributes with
    | nil => rfl
    | cons item items ih =>
        cases isLine : isRegisterLine config item with
        | true => simp [isLine, code_eq_nil_of_isRegisterLine isLine, ih]
        | false => simp [isLine, ih]
  simp only [Struct.code, kept]
  rfl

theorem code_registerOnly (config : Config) (name : String) (decl : Struct) :
    (registerOnly config name decl).code = decl.code := by
  unfold registerOnly
  split
  · rfl
  · exact code_unregister config decl

theorem registered_unregister (config : Config) (decl : Struct) :
    registered config [unregister config decl] = [] := by
  have unmarked : ¬ HasMarker config "register" (unregister config decl).attributes := by
    simp [HasMarker, firstMarker?_unregister]
  simp [registered, unmarked]

/-! ## The class that is left -/

/-- The structs of one name are what is left of the registered ones. -/
theorem registered_map_registerOnly (config : Config) (name : String) (structs : List Struct) :
    registered config (structs.map (registerOnly config name)) =
      (registered config structs).filter fun decl => decl.name = name := by
  induction structs with
  | nil => rfl
  | cons decl structs ih =>
      have step : registered config [registerOnly config name decl] =
          (registered config [decl]).filter fun decl => decl.name = name := by
        unfold registerOnly
        by_cases same : decl.name = name
        · rw [if_pos same]
          apply (List.filter_eq_self.mpr _).symm
          intro other member
          have isDecl := List.mem_singleton.mp (mem_registered_iff.mp member).1
          simp [isDecl, same]
        · rw [if_neg same, registered_unregister]
          apply (List.filter_eq_nil_iff.mpr _).symm
          intro other member
          have isDecl := List.mem_singleton.mp (mem_registered_iff.mp member).1
          simp [isDecl, same]
      rw [List.map_cons, registered_cons, registered_cons config decl, ih, step,
        List.filter_append]

theorem filter_name_eq_singleton {decls : List Struct} (distinct : (decls.map Struct.name).Nodup)
    {decl : Struct} (member : decl ∈ decls) :
    (decls.filter fun other => other.name = decl.name) = [decl] := by
  induction decls with
  | nil => cases member
  | cons first decls ih =>
      rcases List.nodup_cons.mp distinct with ⟨apart, distinctRest⟩
      rcases List.mem_cons.mp member with rfl | later
      · have others : (decls.filter fun other => other.name = decl.name) = [] := by
          apply List.filter_eq_nil_iff.mpr
          intro other isOther same
          exact apart (List.mem_map.mpr ⟨other, isOther, of_decide_eq_true same⟩)
        rw [List.filter_cons_of_pos (by simp), others]
      · have other : first.name ≠ decl.name := fun same =>
          apart (List.mem_map.mpr ⟨decl, later, same.symm⟩)
        rw [List.filter_cons_of_neg (by simpa using other)]
        exact ih distinctRest later

/-- Of registered structs with distinct names only the one of a given name is
left. -/
theorem registered_map_registerOnly_eq_singleton {config : Config} {structs : List Struct}
    (distinct : ((registered config structs).map Struct.name).Nodup) {decl : Struct}
    (isClass : decl ∈ registered config structs) :
    registered config (structs.map (registerOnly config decl.name)) = [decl] := by
  rw [registered_map_registerOnly, filter_name_eq_singleton distinct isClass]

/-- A package is still accepted when all classes but one are taken back. -/
theorem Accepted.registerOnly {config : Config} {contents : Contents}
    (accepted : Accepted config contents) {decl : Struct}
    (isClass : decl ∈ registered config contents.structs) :
    Accepted config (contents.mapStructs (registerOnly config decl.name)) := by
  have left := registered_map_registerOnly_eq_singleton accepted.names isClass
  have nonempty := List.ne_nil_of_mem isClass
  rcases accepted.members decl isClass with ⟨shape, single, exported, fields⟩
  exact {
    markers := by
      intro other member
      rcases List.mem_map.mp member with ⟨original, isStruct, rfl⟩
      unfold Scan.registerOnly
      split
      · exact accepted.markers original isStruct
      · intro rest found
        rw [firstMarker?_unregister] at found
        cases found
    names := by simp [Contents.mapStructs, left]
    reserved := fun _ => accepted.reserved nonempty
    targets := fun _ => accepted.targets nonempty
    members := by
      intro other isLeft
      rw [Contents.mapStructs, left] at isLeft
      rw [List.mem_singleton.mp isLeft]
      exact ⟨shape, single, exported, fields⟩ }

/-- A class comes out of a scan as it does when no other struct is registered. -/
theorem package_isolated {config : Config} {units : List SourceUnit} {registry : Registry}
    (isOk : (package config units).outcome = .ok registry) {entry : Entry.Class}
    (member : entry ∈ registry.classes) :
    (package config (units.map (SourceUnit.mapStructs (registerOnly config entry.name)))).outcome =
      .ok (.ofClasses [entry]) := by
  rcases (package_exact config units registry).mp isOk with ⟨accepted, rfl⟩
  rw [classes_ofClasses] at member
  rcases List.mem_map.mp member with ⟨decl, isClass, rfl⟩
  have exactLeft := package_exact config
    (units.map (SourceUnit.mapStructs (registerOnly config decl.name)))
  rw [contents_mapStructs (code_registerOnly config decl.name)] at exactLeft
  refine (exactLeft.eq_ok (accepted.registerOnly isClass)).trans ?_
  rw [classesOf, Contents.mapStructs,
    registered_map_registerOnly_eq_singleton accepted.names isClass]
  rfl

/-- A unit with two classes. -/
def twoClasses : SourceUnit where
  attributes := []
  items := [
    .struct ⟨[docComment "godot::register tool"], "Probe", [], .none⟩,
    .module [] [.struct ⟨[docComment "godot::register"], "Relay", [], .none⟩]]

/-- The first of two classes is left without the second one. -/
theorem package_isolated_twoClasses :
    (package {} [twoClasses]).outcome =
      .ok (.ofClasses [{ name := "Probe", tool := true }, { name := "Relay" }]) ∧
    (package {} [twoClasses.mapStructs (registerOnly {} "Probe")]).outcome =
      .ok (.ofClasses [{ name := "Probe", tool := true }]) := by
  have isOk : (package {} [twoClasses]).outcome =
      .ok (.ofClasses [{ name := "Probe", tool := true }, { name := "Relay" }]) := rfl
  exact ⟨isOk, package_isolated isOk List.mem_cons_self⟩

end NativeScript.Scan
