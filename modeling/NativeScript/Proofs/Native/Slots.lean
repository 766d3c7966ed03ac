import NativeScript.Proofs.Native.Latest
import NativeScript.Proofs.Native.Stock

/-!
# The slots of a run

All handles that descend from one new property share its slot, and so do the accessors that
were registered for them.  The slot holds the last value that was written through any of these,
while the attributes of a handle are its own and change only when this handle is changed.
-/

namespace NativeScript.Native.Stock

open Engine (Variant)

/-! ## Descent -/

/-- The property under a handle is one of the properties that were made, by its number, or a
copy of it or of a copy. -/
inductive Descends : List Operation → Nat → Nat → Prop
  | make {past : List Operation} {className name hint hintString usage rset : String}
      (makes : (Operation.make className name hint hintString usage rset).makes = true) :
      Descends (.make className name hint hintString usage rset :: past)
        (run past).properties.length (made past)
  | clone {past : List Operation} {handle origin : Nat} (descends : Descends past handle origin) :
      Descends (.clone handle :: past) (run past).properties.length origin
  | earlier {past : List Operation} {operation : Operation} {handle origin : Nat}
      (descends : Descends past handle origin) : Descends (operation :: past) handle origin

/-- The accessors of this number are the generic ones of a property that descends from
`origin`. -/
inductive Serves : List Operation → Nat → Nat → Prop
  | register {past : List Operation} {nativeClass : Class} {handles : List Nat}
      {properties : List Property} {place handle origin : Nat} {property : Property}
      (members : (run past).members? handles = some properties)
      (whole : ∀ property ∈ properties, property.isHalf = false)
      (isHandle : handles[place]? = some handle)
      (isProperty : (run past).properties[handle]? = some property)
      (noSetter : property.setter = none) (noGetter : property.getter = none)
      (descends : Descends past handle origin) :
      Serves (.register nativeClass handles :: past)
        ((run past).session.accessors.length + place) origin
  | earlier {past : List Operation} {operation : Operation} {index origin : Nat}
      (serves : Serves past index origin) : Serves (operation :: past) index origin

/-- The value that an operation writes to the slot of a property that was made. -/
inductive Writes (origin : Nat) (past : List Operation) : Operation → Variant → Prop
  | default {handle : Nat} {value : Variant} (descends : Descends past handle origin) :
      Writes origin past (.build handle (.default value)) value
  | set {index : Nat} {object : Object} {user : String} {value : Variant}
      (serves : Serves past index origin) :
      Writes origin past (.set index object user value) value

/-- The value last written to the slot of a property, or nil if there is none. -/
def Holds (history : List Operation) (origin : Nat) (value : Variant) : Prop :=
  Latest (Writes origin) history value ∨
    (∀ other, ¬ Latest (Writes origin) history other) ∧ .nil = value

variable {history past : List Operation} {operation : Operation} {handle index origin : Nat}
  {property : Property} {value : Variant}

/-! ## Properties of a run -/

/-- What holds of a property in the stock. -/
structure IsStocked (history : List Operation) (handle : Nat) (property : Property) : Prop where
  descends : Descends history handle property.slot
  isMade : property.slot < made history
  owns : property.OwnsSupplied

theorem made_le_made_cons (operation : Operation) (past : List Operation) :
    made past ≤ made (operation :: past) := by
  rw [made, made, List.countP_cons]
  exact Nat.le_add_right _ _

theorem isStocked_of_added (isStocked : ∀ handle property,
      (run past).properties[handle]? = some property → IsStocked past handle property)
    (isAdded : (run past).added? operation = some property) :
    IsStocked (operation :: past) (run past).properties.length property := by
  cases operation with
  | make className name hint hintString usage rset =>
      cases tags : PropertyAttributes.ofTags hint hintString usage rset with
      | error error =>
          rw [added?, Session.newProperty, tags] at isAdded
          cases isAdded
      | ok attributes =>
          have makes : (Operation.make className name hint hintString usage rset).makes = true := by
            rw [Operation.makes, tags]
            rfl
          rw [added?_make tags] at isAdded
          obtain rfl := Option.some.inj isAdded
          constructor
          · rw [length_slots_run]
            exact .make makes
          · rw [length_slots_run, made, made, List.countP_cons_of_pos makes]
            exact Nat.lt_succ_self _
          · constructor
            · rintro set ⟨⟩
            · rintro get ⟨⟩
  | clone handle =>
      have wasStocked := isStocked handle property isAdded
      exact ⟨.clone wasStocked.descends,
        Nat.lt_of_lt_of_le wasStocked.isMade (made_le_made_cons _ past), wasStocked.owns⟩
  | _ => cases isAdded

theorem isStocked_run (isAt : (run history).properties[handle]? = some property) :
    IsStocked history handle property := by
  induction history generalizing handle property with
  | nil => cases isAt
  | cons operation past ih =>
      rcases getElem?_step_cases isAt with ⟨before, wasAt, rfl⟩ | ⟨rfl, isAdded⟩
      · have wasStocked := ih wasAt
        refine ⟨?_, ?_, owns_changed wasStocked.owns⟩
        · rw [slot_changed]
          exact .earlier wasStocked.descends
        · rw [slot_changed]
          exact Nat.lt_of_lt_of_le wasStocked.isMade (made_le_made_cons operation past)
      · exact isStocked_of_added (fun handle property => ih) isAdded

/-- What descends from a property that was made is in the stock and has its slot. -/
theorem Descends.exists_property (descends : Descends history handle origin) :
    ∃ property, (run history).properties[handle]? = some property ∧ property.slot = origin := by
  induction descends with
  | @make past className name hint hintString usage rset makes =>
      cases tags : PropertyAttributes.ofTags hint hintString usage rset with
      | error error =>
          rw [Operation.makes, tags] at makes
          cases makes
      | ok attributes =>
          exact ⟨_, getElem?_step_length (added?_make tags), length_slots_run past⟩
  | clone _ ih =>
      rcases ih with ⟨property, isAt, sameSlot⟩
      exact ⟨property, getElem?_step_length isAt, sameSlot⟩
  | earlier _ ih =>
      rcases ih with ⟨property, isAt, sameSlot⟩
      exact ⟨_, getElem?_step isAt, (slot_changed _ _ _ _).trans sameSlot⟩

/-! ## Accessors of a run -/

/-- The accessors that the engine knows under a number: generic ones, which share the slot of a
property that was made, or those that a property has of its own. -/
inductive Knows (history : List Operation) (index : Nat) : SetCallback × GetCallback → Prop
  | generic {data : String} {origin : Nat} (serves : Serves history index origin) :
      Knows history index (⟨data, .slot origin⟩, ⟨data, .slot origin⟩)
  | own {set : SetCallback} {get : GetCallback} {answer : Object → String → String → Variant}
      (ownSetter : set.body = .supplied) (ownGetter : get.body = .supplied answer) :
      Knows history index (set, get)

theorem Knows.earlier {pair : SetCallback × GetCallback} (knows : Knows past index pair) :
    Knows (operation :: past) index pair := by
  cases knows with
  | generic serves => exact .generic (.earlier serves)
  | own ownSetter ownGetter => exact .own ownSetter ownGetter

theorem knows_of_getElem?_accessors {pair : SetCallback × GetCallback}
    (isAt : (run history).session.accessors[index]? = some pair) : Knows history index pair := by
  induction history generalizing index pair with
  | nil => cases isAt
  | cons operation past ih =>
      rw [run] at isAt
      rcases accessors_step_cases (run past) operation with
        kept | ⟨nativeClass, handles, properties, granted, rfl, members, whole, settles, grown⟩
      · rw [kept] at isAt
        exact (ih isAt).earlier
      · rw [grown] at isAt
        by_cases isInside : index < (run past).session.accessors.length
        · rw [List.getElem?_append_left isInside] at isAt
          exact (ih isAt).earlier
        · -- New accessors are in the places that their properties have among the handles.
          obtain ⟨place, rfl⟩ := Nat.exists_eq_add_of_le (Nat.le_of_not_lt isInside)
          rw [List.getElem?_append_right (Nat.le_add_right _ _), Nat.add_sub_cancel_left] at isAt
          rcases exists_getElem?_of_forall₂ settles.flip isAt with ⟨property, isMember, settled⟩
          rw [getElem?_members members] at isMember
          rcases Option.bind_eq_some_iff.mp isMember with ⟨handle, isHandle, isProperty⟩
          have isStocked := isStocked_run isProperty
          cases settled with
          | own hasSetter hasGetter =>
              rcases isStocked.owns.getter _ hasGetter with ⟨answer, ownGetter⟩
              exact .own (isStocked.owns.setter _ hasSetter) ownGetter
          | generic noSetter noGetter =>
              exact .generic (.register members whole isHandle isProperty noSetter noGetter
                isStocked.descends)

theorem Serves.exists_accessors (serves : Serves history index origin) :
    ∃ data, (run history).session.accessors[index]? =
      some (⟨data, .slot origin⟩, ⟨data, .slot origin⟩) := by
  induction serves with
  | @register past nativeClass handles properties place handle origin property members whole
      isHandle isProperty noSetter noGetter descends =>
      rcases accessors_step_register nativeClass members whole with
        ⟨granted, settles, grown⟩
      have isMember : properties[place]? = some property := by
        rw [getElem?_members members, isHandle]
        exact isProperty
      rcases exists_getElem?_of_forall₂ settles isMember with ⟨pair, isGranted, settled⟩
      rcases descends.exists_property with ⟨same, isSame, rfl⟩
      obtain rfl := Option.some.inj (isProperty.symm.trans isSame)
      refine ⟨property.data, ?_⟩
      rw [run, grown, List.getElem?_append_right (Nat.le_add_right _ _), Nat.add_sub_cancel_left,
        isGranted]
      cases settled with
      | own hasSetter _ =>
          rw [noSetter] at hasSetter
          cases hasSetter
      | generic _ _ => rfl
  | @earlier past operation index origin _ ih =>
      rcases ih with ⟨data, isAt⟩
      refine ⟨data, ?_⟩
      have isInside := (List.getElem?_eq_some_iff.mp isAt).1
      rw [run]
      rcases accessors_step_cases (run past) operation with kept | ⟨_, _, _, _, _, _, _, _, grown⟩
      · rw [kept, isAt]
      · rw [grown, List.getElem?_append_left isInside, isAt]

/-! ## Values of slots -/

/-- An operation writes to the slot of a property that was made exactly if it changes the
default value of a property that descends from it, or goes through its accessors. -/
theorem writes_iff : Writes origin past operation value ↔
    (run past).written? operation = some (origin, value) := by
  constructor
  · rintro (descends | serves)
    · rcases descends.exists_property with ⟨property, isAt, rfl⟩
      rw [written?, isAt]
      rfl
    · rcases serves.exists_accessors with ⟨data, isAt⟩
      rw [written?, isAt]
  · intro written
    cases operation with
    | build handle builder =>
        cases builder with
        | default written =>
            rcases Option.map_eq_some_iff.mp written with ⟨property, isAt, same⟩
            cases same
            exact .default (isStocked_run isAt).descends
        | _ => cases written
    | set index object user value =>
        cases isAt : (run past).session.accessors[index]? with
        | none => simp [written?, isAt] at written
        | some pair =>
            rw [written?, isAt] at written
            cases knows_of_getElem?_accessors isAt with
            | generic serves =>
                cases written
                exact .set serves
            | @own set get answer ownSetter _ =>
                rcases set with ⟨data, body⟩
                cases ownSetter
                cases written
    | _ => cases written

theorem Serves.exists_descends (serves : Serves history index origin) :
    ∃ handle, Descends history handle origin := by
  induction serves with
  | register _ _ _ _ _ _ descends => exact ⟨_, .earlier descends⟩
  | earlier _ ih =>
      rcases ih with ⟨handle, descends⟩
      exact ⟨handle, .earlier descends⟩

theorem Descends.lt_made (descends : Descends history handle origin) : origin < made history := by
  rcases descends.exists_property with ⟨property, isAt, rfl⟩
  exact (isStocked_run isAt).isMade

theorem Writes.lt_made (writes : Writes origin past operation value) : origin < made past := by
  cases writes with
  | default descends => exact descends.lt_made
  | set serves =>
      rcases serves.exists_descends with ⟨handle, descends⟩
      exact descends.lt_made

theorem descends_iff (isAt : (run history).properties[handle]? = some property) :
    Descends history handle origin ↔ origin = property.slot := by
  constructor
  · intro descends
    rcases descends.exists_property with ⟨same, isSame, rfl⟩
    obtain rfl := Option.some.inj (isAt.symm.trans isSame)
    rfl
  · rintro rfl
    exact (isStocked_run isAt).descends

/-- A slot has the value that was last written to it. -/
theorem slotValue_run_iff :
    (run history).session.slotValue origin = value ↔ Holds history origin value := by
  apply observe_eq_iff (fun history => (run history).session.slotValue origin)
  · intro past operation value writes
    apply slotValue_step_of_written (writes_iff.mp writes)
    rw [length_slots_run]
    exact writes.lt_made
  · intro past operation silent
    exact slotValue_step_of_not_written fun value written => silent value (writes_iff.mpr written)

theorem Serves.read?_eq (serves : Serves history index origin) (object : Object)
    (user : String) :
    (run history).read? index object user = some ((run history).session.slotValue origin) := by
  rcases serves.exists_accessors with ⟨data, isAt⟩
  rw [read?, isAt]
  rfl

/-! ## What is shared -/

/-- How the properties of a history share their slots. -/
structure Shares (history : List Operation) : Prop where
  /-- A handle descends from one of the properties that were made, whose slot it has. -/
  origin : ∀ handle property, (run history).properties[handle]? = some property →
    ∀ origin, Descends history handle origin ↔ origin = property.slot
  /-- A handle has the value that was last written through any handle or accessors of the same
  descent. -/
  value : ∀ handle property origin, (run history).properties[handle]? = some property →
    Descends history handle origin →
    ∀ value, (run history).session.propertyValue property = value ↔ Holds history origin value
  /-- All accessors that write or read a slot are those of a property of this descent. -/
  generic : ∀ index pair id, (run history).session.accessors[index]? = some pair →
    pair.1.body = .slot id ∨ pair.2.body = .slot id → Serves history index id
  /-- What they read is the same value, for all objects and texts. -/
  get : ∀ index origin, Serves history index origin → ∀ object user value,
    (run history).read? index object user = some value ↔ Holds history origin value
  /-- What is written to the slot of another property does not change the value. -/
  apart : ∀ operation origin other value, Writes other history operation value →
    other ≠ origin →
    (run (operation :: history)).session.slotValue origin =
      (run history).session.slotValue origin
  /-- The attributes of a handle change with its own changes and with nothing else. -/
  attributes : ∀ later handle property, (run history).properties[handle]? = some property →
    ∃ changed, (run (later ++ history)).properties[handle]? = some changed ∧
      changed.slot = property.slot ∧
      changed.attributes =
        later.foldr (fun operation attributes => operation.onAttributes handle attributes)
          property.attributes
  /-- A copy has the attributes that the copied property has at that time. -/
  clone : ∀ handle property, (run history).properties[handle]? = some property →
    (run (.clone handle :: history)).properties[(run history).properties.length]? = some property
  /-- A new property has the attributes of its tags and a slot that no other one has. -/
  make : ∀ className name hint hintString usage rset attributes,
    PropertyAttributes.ofTags hint hintString usage rset = .ok attributes →
    (run (.make className name hint hintString usage rset :: history)).properties[
        (run history).properties.length]? =
      some { className, name, attributes, slot := made history } ∧
    ∀ handle, ¬ Descends history handle (made history)

/-- All handles and accessors of one descent share one slot, and each handle has attributes of
its own. -/
theorem run_shares (history : List Operation) : Shares history := by
  constructor
  · exact fun handle property isAt origin => descends_iff isAt
  · intro handle property origin isAt descends value
    obtain rfl := (descends_iff isAt).mp descends
    exact slotValue_run_iff
  · intro index pair id isAt writesOrReads
    cases knows_of_getElem?_accessors isAt with
    | generic serves =>
        rcases writesOrReads with same | same
        · cases same
          exact serves
        · cases same
          exact serves
    | own ownSetter ownGetter =>
        rcases writesOrReads with writes | reads
        · cases ownSetter.symm.trans writes
        · cases ownGetter.symm.trans reads
  · intro index origin serves object user value
    rw [serves.read?_eq, Option.some.injEq]
    exact slotValue_run_iff
  · intro operation origin other value writes differs
    apply slotValue_step_of_not_written
    intro held written
    rw [writes_iff.mp writes] at written
    cases written
    exact differs rfl
  · exact fun later handle property isAt => getElem?_run_append later isAt
  · exact fun handle property isAt => getElem?_step_length isAt
  · intro className name hint hintString usage rset attributes isOk
    constructor
    · rw [← length_slots_run]
      exact getElem?_step_length (added?_make isOk)
    · exact fun handle descends => (Nat.lt_irrefl _ descends.lt_made).elim

/-- A default value that a copy gets is also the value of the copied property, but not its
default value. -/
example :
    let stock := run [
      .build 1 (.default (.int 3)), .clone 0, .make "Lamp" "glow" "" "" "" ""]
    stock.properties.map stock.session.propertyValue = [.int 3, .int 3] ∧
      stock.properties.map (·.attributes.defaultValue) = [.nil, .int 3] :=
  ⟨rfl, rfl⟩

end NativeScript.Native.Stock
