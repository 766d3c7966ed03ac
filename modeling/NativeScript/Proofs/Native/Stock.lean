import NativeScript.Proofs.Native.Enrolment
import NativeScript.Proofs.Native.Instances

/-!
# A stock of properties

Properties are made, copied and changed through handles, and registered with any classes; the
engine then writes and reads them through the accessors it was given.  An operation changes one
property at most, adds one at most, and writes to one slot at most.
-/

namespace NativeScript.Native

open Engine (Variant VariantType)

/-! ## Accessors known to the engine -/

/-- The accessors of a property that a call registers. -/
def Call.accessors? : Call → Option (SetCallback × GetCallback)
  | .registerProperty _ _ _ set get => some (set, get)
  | _ => none

namespace Session

/-- The accessors of all registered properties, in the order of their registration. -/
def accessors (session : Session) : List (SetCallback × GetCallback) :=
  session.calls.filterMap Call.accessors?

/-- A class adds the accessors of its properties. -/
theorem accessors_withCalls (session : Session) (nativeClass : Class)
    (propertyCalls : List Call) :
    (session.withCalls (nativeClass.callsWith propertyCalls)).accessors =
      session.accessors ++ propertyCalls.filterMap Call.accessors? := by
  have noMethods :
      (nativeClass.methods.map Call.registerMethod).filterMap Call.accessors? = [] := by
    simp [List.filterMap_map, List.filterMap_eq_nil_iff, Call.accessors?]
  have noSignals :
      (nativeClass.signals.map Call.registerSignal).filterMap Call.accessors? = [] := by
    simp [List.filterMap_map, List.filterMap_eq_nil_iff, Call.accessors?]
  simp only [accessors, withCalls, Class.callsWith, List.filterMap_append, List.filterMap_cons,
    Call.accessors?, noMethods, noSignals, List.nil_append, List.append_nil]

end Session

/-- The accessors that the engine is given for properties are theirs. -/
theorem forall₂_settles {properties : List Property} {propertyCalls : List Call}
    (forProperties : List.Forall₂ Property.IsRegisteredBy properties propertyCalls) :
    List.Forall₂ Property.Settles properties (propertyCalls.filterMap Call.accessors?) := by
  induction forProperties with
  | nil => exact .nil
  | cons registers _ ih =>
      cases registers with
      | intro settles => exact .cons settles ih

/-- Lists that are related item by item have related items in every place. -/
theorem exists_getElem?_of_forall₂ {α β : Type} {relates : α → β → Prop} {items : List α}
    {others : List β} (related : List.Forall₂ relates items others) {place : Nat} {item : α}
    (isAt : items[place]? = some item) :
    ∃ other, others[place]? = some other ∧ relates item other := by
  induction related generalizing place with
  | nil => cases isAt
  | cons relates _ ih =>
      cases place with
      | zero =>
          obtain rfl := Option.some.inj isAt
          exact ⟨_, rfl, relates⟩
      | succ place => exact ih isAt

/-! ## Changes through a handle -/

/-- A change of a property through one of its handles. -/
inductive Builder where
  | default (value : Variant)
  | type (declared : VariantType)
  | setter (data : String)
  | getter (data : String) (answer : Object → String → String → Variant)

namespace Builder

/-- The changed property and the session after the change. -/
def apply (session : Session) (property : Property) : Builder → Property × Session
  | .default value => session.withDefault property value
  | .type declared =>
      ({ property with attributes := { property.attributes with type := declared } }, session)
  | .setter data => ({ property with setter := some ⟨data, .supplied⟩ }, session)
  | .getter data answer => ({ property with getter := some ⟨data, .supplied answer⟩ }, session)

/-- What a change does to the attributes. -/
def onAttributes (attributes : PropertyAttributes) : Builder → PropertyAttributes
  | .default value => { attributes with defaultValue := value }
  | .type declared => { attributes with type := declared }
  | .setter _ => attributes
  | .getter _ _ => attributes

variable (builder : Builder) (session : Session) (property : Property)

@[simp]
theorem attributes_apply :
    (builder.apply session property).1.attributes = builder.onAttributes property.attributes := by
  cases builder <;> rfl

@[simp]
theorem slot_apply : (builder.apply session property).1.slot = property.slot := by
  cases builder <;> rfl

@[simp]
theorem calls_apply : (builder.apply session property).2.calls = session.calls := by
  cases builder <;> rfl

end Builder

/-- The accessors that a property has of its own do not write or read slots. -/
structure Property.OwnsSupplied (property : Property) : Prop where
  setter : ∀ set ∈ property.setter, set.body = .supplied
  getter : ∀ get ∈ property.getter, ∃ answer, get.body = .supplied answer

theorem Property.OwnsSupplied.apply {property : Property} (owns : property.OwnsSupplied)
    (builder : Builder) (session : Session) :
    (builder.apply session property).1.OwnsSupplied := by
  cases builder with
  | default value => exact ⟨owns.setter, owns.getter⟩
  | type declared => exact ⟨owns.setter, owns.getter⟩
  | setter data =>
      refine ⟨?_, owns.getter⟩
      rintro set ⟨⟩
      rfl
  | getter data answer =>
      refine ⟨owns.setter, ?_⟩
      rintro get ⟨⟩
      exact ⟨answer, rfl⟩

/-! ## The stock -/

/-- Properties, each under the number of its handle, and the session they were made in. -/
structure Stock where
  properties : List Property := []
  session : Session := {}

namespace Stock

/-- What can be done with properties. -/
inductive Operation where
  /-- Make a property from tags; it gets the next handle. -/
  | make (className name hint hintString usage rset : String)
  /-- Copy a property; the copy gets the next handle. -/
  | clone (handle : Nat)
  | build (handle : Nat) (builder : Builder)
  /-- Register a class with these properties in place of its own ones. -/
  | register (nativeClass : Class) (handles : List Nat)
  /-- Write a property through the accessors that were registered under this number. -/
  | set (index : Nat) (object : Object) (user : String) (value : Variant)
  /-- Read a property in the same way. -/
  | get (index : Nat) (object : Object) (user : String)

/-- The properties under some handles. -/
def members? (stock : Stock) (handles : List Nat) : Option (List Property) :=
  handles.mapM (stock.properties[·]?)

/-- The property that an operation adds. -/
def added? (stock : Stock) : Operation → Option Property
  | .make className name hint hintString usage rset =>
      match stock.session.newProperty className name hint hintString usage rset with
      | .ok (property, _) => some property
      | .error _ => none
  | .clone handle => stock.properties[handle]?
  | _ => none

/-- The property under a handle after an operation. -/
def changed (stock : Stock) (operation : Operation) (handle : Nat) (property : Property) :
    Property :=
  match operation with
  | .build other builder =>
      if other = handle then (builder.apply stock.session property).1 else property
  | _ => property

/-- The session after an operation. -/
def sessionAfter (stock : Stock) : Operation → Session
  | .make className name hint hintString usage rset =>
      match stock.session.newProperty className name hint hintString usage rset with
      | .ok (_, session) => session
      | .error _ => stock.session
  | .clone _ => stock.session
  | .build handle builder =>
      match stock.properties[handle]? with
      | some property => (builder.apply stock.session property).2
      | none => stock.session
  | .register nativeClass handles =>
      match stock.members? handles with
      | some properties =>
          match stock.session.register { nativeClass with properties } with
          | .ok session => session
          | .error _ => stock.session
      | none => stock.session
  | .set index object user value =>
      match stock.session.accessors[index]? with
      | some (set, _) => stock.session.set set object user value
      | none => stock.session
  | .get index object user =>
      match stock.session.accessors[index]? with
      | some (_, get) => (stock.session.get get object user).2
      | none => stock.session

/-- The stock after an operation. -/
def step (stock : Stock) (operation : Operation) : Stock where
  properties :=
    stock.properties.mapIdx (stock.changed operation) ++ (stock.added? operation).toList
  session := stock.sessionAfter operation

/-- What the engine reads through the accessors of this number. -/
def read? (stock : Stock) (index : Nat) (object : Object) (user : String) : Option Variant :=
  stock.session.accessors[index]?.map fun pair => (stock.session.get pair.2 object user).1

/-- The stock after the operations of a history, the last of which comes first. -/
def run : List Operation → Stock
  | [] => {}
  | operation :: past => (run past).step operation

/-- Whether an operation makes a new property. -/
def Operation.makes : Operation → Bool
  | .make _ _ hint hintString usage rset =>
      (PropertyAttributes.ofTags hint hintString usage rset).isOk
  | _ => false

/-- How many properties were made. -/
def made (history : List Operation) : Nat :=
  history.countP Operation.makes

/-- What an operation does to the attributes of the property under a handle. -/
def Operation.onAttributes (handle : Nat) (attributes : PropertyAttributes) :
    Operation → PropertyAttributes
  | .build other builder => if other = handle then builder.onAttributes attributes else attributes
  | _ => attributes

variable {stock : Stock} {operation : Operation} {history : List Operation}
  {handle origin : Nat} {property : Property} {value : Variant}

/-! ## Properties after an operation -/

@[simp]
theorem slot_changed (stock : Stock) (operation : Operation) (handle : Nat)
    (property : Property) : (stock.changed operation handle property).slot = property.slot := by
  cases operation with
  | build other builder =>
      by_cases same : other = handle <;> simp [changed, same]
  | _ => rfl

@[simp]
theorem attributes_changed (stock : Stock) (operation : Operation) (handle : Nat)
    (property : Property) :
    (stock.changed operation handle property).attributes =
      operation.onAttributes handle property.attributes := by
  cases operation with
  | build other builder =>
      by_cases same : other = handle <;> simp [changed, Operation.onAttributes, same]
  | _ => rfl

theorem owns_changed (owns : property.OwnsSupplied) :
    (stock.changed operation handle property).OwnsSupplied := by
  cases operation with
  | build other builder =>
      rw [changed]
      split
      · exact owns.apply builder stock.session
      · exact owns
  | _ => exact owns

theorem added?_make {className name hint hintString usage rset : String}
    {attributes : PropertyAttributes}
    (isOk : PropertyAttributes.ofTags hint hintString usage rset = .ok attributes) :
    stock.added? (.make className name hint hintString usage rset) =
      some { className, name, attributes, slot := stock.session.slots.length } := by
  rw [added?, Session.newProperty, isOk]
  rfl

theorem getElem?_step (isAt : stock.properties[handle]? = some property) :
    (stock.step operation).properties[handle]? =
      some (stock.changed operation handle property) := by
  have isInside : handle < (stock.properties.mapIdx (stock.changed operation)).length := by
    rw [List.length_mapIdx]
    exact (List.getElem?_eq_some_iff.mp isAt).1
  rw [step, List.getElem?_append_left isInside, List.getElem?_mapIdx, isAt]
  rfl

theorem getElem?_step_length (isAdded : stock.added? operation = some property) :
    (stock.step operation).properties[stock.properties.length]? = some property := by
  rw [step, isAdded, ← List.length_mapIdx]
  exact List.getElem?_concat_length

/-- A property after an operation was there before, or the operation has added it. -/
theorem getElem?_step_cases
    (isAt : (stock.step operation).properties[handle]? = some property) :
    (∃ before, stock.properties[handle]? = some before ∧
        property = stock.changed operation handle before) ∨
      handle = stock.properties.length ∧ stock.added? operation = some property := by
  by_cases isInside : handle < stock.properties.length
  · have wasAt := List.getElem?_eq_getElem isInside
    rw [getElem?_step wasAt] at isAt
    exact .inl ⟨_, wasAt, (Option.some.inj isAt).symm⟩
  · right
    rw [step, List.getElem?_append_right (by simpa using isInside)] at isAt
    cases isAdded : stock.added? operation with
    | none => simp [isAdded] at isAt
    | some added =>
        have isFirst := (List.getElem?_eq_some_iff.mp isAt).1
        simp only [isAdded, List.length_mapIdx, Option.toList_some, List.length_singleton]
          at isAt isFirst
        have isNext : handle = stock.properties.length := by omega
        simp only [isNext, Nat.sub_self, List.getElem?_cons_zero] at isAt
        exact ⟨isNext, isAt⟩

/-- The attributes of a handle follow its own changes, and its slot stays. -/
theorem getElem?_run_append (later : List Operation)
    (isAt : (run history).properties[handle]? = some property) :
    ∃ changed, (run (later ++ history)).properties[handle]? = some changed ∧
      changed.slot = property.slot ∧
      changed.attributes =
        later.foldr (fun operation attributes => operation.onAttributes handle attributes)
          property.attributes := by
  induction later with
  | nil => exact ⟨property, isAt, rfl, rfl⟩
  | cons operation later ih =>
      rcases ih with ⟨before, wasAt, sameSlot, itsAttributes⟩
      refine ⟨_, getElem?_step wasAt, ?_, ?_⟩
      · rw [slot_changed, sameSlot]
      · rw [attributes_changed, itsAttributes, List.foldr_cons]

/-! ## Slots after an operation -/

/-- The slot that an operation writes to, and what it writes. -/
def written? (stock : Stock) : Operation → Option (SlotId × Variant)
  | .build handle (.default value) =>
      stock.properties[handle]?.map fun property => (property.slot, value)
  | .set index _ _ value =>
      match stock.session.accessors[index]? with
      | some (⟨_, .slot id⟩, _) => some (id, value)
      | _ => none
  | _ => none

/-- Slots once a value was written to one of them. -/
def overwrite (slots : List Variant) : Option (SlotId × Variant) → List Variant
  | some (id, value) => slots.set id value
  | none => slots

theorem length_overwrite (slots : List Variant) (written : Option (SlotId × Variant)) :
    (overwrite slots written).length = slots.length := by
  cases written with
  | none => rfl
  | some written => exact List.length_set

theorem slots_register {session registered : Session} {nativeClass : Class}
    (isOk : session.register nativeClass = .ok registered) : registered.slots = session.slots := by
  rcases Session.exists_of_register_eq_ok isOk with ⟨_, _, _, rfl⟩
  rfl

/-- An operation writes to one slot at most, and a new property gets a new one. -/
theorem slots_step (stock : Stock) (operation : Operation) :
    (stock.step operation).session.slots =
      overwrite stock.session.slots (stock.written? operation) ++
        if operation.makes then [.nil] else [] := by
  change (stock.sessionAfter operation).slots = _
  cases operation with
  | make className name hint hintString usage rset =>
      rw [sessionAfter, Session.newProperty, Operation.makes]
      cases PropertyAttributes.ofTags hint hintString usage rset with
      | error error => exact (List.append_nil _).symm
      | ok attributes => rfl
  | clone handle => exact (List.append_nil _).symm
  | build handle builder =>
      rw [sessionAfter]
      cases isAt : stock.properties[handle]? with
      | none => cases builder <;> simp [written?, overwrite, Operation.makes, isAt]
      | some property =>
          cases builder <;>
            simp [written?, overwrite, Operation.makes, isAt, Builder.apply,
              Session.withDefault, Session.setSlot]
  | register nativeClass handles =>
      rw [sessionAfter]
      simp only [Operation.makes, Bool.false_eq_true, if_false, List.append_nil]
      split
      · split
        · exact slots_register ‹_›
        · rfl
      · rfl
  | set index object user value =>
      rw [sessionAfter, written?]
      simp only [Operation.makes, Bool.false_eq_true, if_false, List.append_nil]
      cases stock.session.accessors[index]? with
      | none => rfl
      | some pair =>
          rcases pair with ⟨⟨data, body⟩, get⟩
          cases body <;> rfl
  | get index object user =>
      rw [sessionAfter]
      simp only [Operation.makes, Bool.false_eq_true, if_false, List.append_nil]
      split
      · rename_i get _
        rw [Session.get]
        cases get.body <;> rfl
      · rfl

/-- There are as many slots as properties were made. -/
theorem length_slots_run (history : List Operation) :
    (run history).session.slots.length = made history := by
  induction history with
  | nil => rfl
  | cons operation past ih =>
      rw [run, slots_step, List.length_append, length_overwrite, ih, made, made,
        List.countP_cons]
      cases operation.makes <;> rfl

theorem slotValue_step_of_written (written : stock.written? operation = some (origin, value))
    (isInside : origin < stock.session.slots.length) :
    (stock.step operation).session.slotValue origin = value := by
  rw [Session.slotValue, slots_step, written, overwrite,
    List.getElem?_append_left (by simpa using isInside), List.getElem?_set_self isInside]
  rfl

/-- A new slot has what it has had before it was there. -/
theorem slotValue_append_nil {slots : List Variant} :
    (slots ++ [.nil])[origin]?.getD .nil = slots[origin]?.getD .nil := by
  rcases Nat.lt_trichotomy origin slots.length with isInside | rfl | isBeyond
  · rw [List.getElem?_append_left isInside]
  · simp
  · rw [List.getElem?_eq_none (by simp; omega), List.getElem?_eq_none (Nat.le_of_lt isBeyond)]

theorem slotValue_step_of_not_written
    (silent : ∀ value, stock.written? operation ≠ some (origin, value)) :
    (stock.step operation).session.slotValue origin = stock.session.slotValue origin := by
  have kept : (overwrite stock.session.slots (stock.written? operation))[origin]? =
      stock.session.slots[origin]? := by
    cases written : stock.written? operation with
    | none => rfl
    | some pair =>
        have otherSlot : pair.1 ≠ origin := by
          rintro rfl
          exact silent pair.2 written
        exact List.getElem?_set_ne otherSlot
  rw [Session.slotValue, Session.slotValue, slots_step]
  cases operation.makes with
  | false => rw [if_neg Bool.false_ne_true, List.append_nil, kept]
  | true => rw [if_pos rfl, slotValue_append_nil, kept]

/-! ## Accessors after an operation -/

/-- Only a registration makes calls to the engine. -/
theorem calls_step_cases (stock : Stock) (operation : Operation) :
    (stock.step operation).session.calls = stock.session.calls ∨
      ∃ nativeClass handles, operation = .register nativeClass handles := by
  change (stock.sessionAfter operation).calls = _ ∨ _
  cases operation with
  | register nativeClass handles => exact .inr ⟨nativeClass, handles, rfl⟩
  | make className name hint hintString usage rset =>
      left
      rw [sessionAfter, Session.newProperty]
      cases PropertyAttributes.ofTags hint hintString usage rset <;> rfl
  | clone handle => exact .inl rfl
  | build handle builder =>
      left
      rw [sessionAfter]
      cases stock.properties[handle]? <;> simp
  | set index object user value =>
      left
      rw [sessionAfter]
      split
      · exact (Session.set_keeps _ _ _ _ _).1
      · rfl
  | get index object user =>
      left
      rw [sessionAfter]
      split
      · exact (Session.get_keeps _ _ _ _).1
      · rfl

/-- The accessors of all properties of a class are added at once. -/
theorem accessors_step_register (nativeClass : Class) {handles : List Nat}
    {properties : List Property} (members : stock.members? handles = some properties)
    (whole : ∀ property ∈ properties, property.isHalf = false) :
    ∃ granted, List.Forall₂ Property.Settles properties granted ∧
      (stock.step (.register nativeClass handles)).session.accessors =
        stock.session.accessors ++ granted := by
  have isWhole : Class.IsWhole { nativeClass with properties } := whole
  rcases Session.exists_register_eq_ok isWhole with ⟨propertyCalls, forProperties, isOk⟩
  refine ⟨_, forall₂_settles forProperties, ?_⟩
  change (stock.sessionAfter _).accessors = _
  rw [sessionAfter, members]
  dsimp only
  rw [isOk]
  exact Session.accessors_withCalls _ _ _

theorem accessors_step_cases (stock : Stock) (operation : Operation) :
    (stock.step operation).session.accessors = stock.session.accessors ∨
      ∃ nativeClass handles properties granted, operation = .register nativeClass handles ∧
        stock.members? handles = some properties ∧
        (∀ property ∈ properties, property.isHalf = false) ∧
        List.Forall₂ Property.Settles properties granted ∧
        (stock.step operation).session.accessors = stock.session.accessors ++ granted := by
  rcases stock.calls_step_cases operation with sameCalls | ⟨nativeClass, handles, rfl⟩
  · exact .inl (congrArg (List.filterMap Call.accessors?) sameCalls)
  · cases members : stock.members? handles with
    | none =>
        left
        change (stock.sessionAfter _).accessors = _
        rw [sessionAfter, members]
    | some properties =>
        by_cases whole : ∀ property ∈ properties, property.isHalf = false
        · right
          rcases accessors_step_register nativeClass members whole with
            ⟨granted, settles, isGranted⟩
          exact ⟨nativeClass, handles, properties, granted, rfl, members, whole, settles,
            isGranted⟩
        · left
          change (stock.sessionAfter _).accessors = _
          rw [sessionAfter, members]
          dsimp only
          split
          · rename_i registered isOk
            exact absurd (Session.exists_of_register_eq_ok isOk).1 whole
          · rfl

theorem getElem?_members {handles : List Nat} {properties : List Property}
    (members : stock.members? handles = some properties) (place : Nat) :
    properties[place]? = handles[place]?.bind (stock.properties[·]?) := by
  induction handles generalizing properties place with
  | nil =>
      obtain rfl := Option.some.inj members
      rfl
  | cons handle handles ih =>
      rw [members?, List.mapM_cons] at members
      rcases Option.bind_eq_some_iff.mp members with ⟨property, isAt, rest⟩
      rcases Option.bind_eq_some_iff.mp rest with ⟨others, othersAre, isList⟩
      obtain rfl := Option.some.inj isList
      cases place with
      | zero => exact isAt.symm
      | succ place => exact ih othersAre place

end Stock

end NativeScript.Native
