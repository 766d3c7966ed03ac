import Mathlib.Data.List.Forall2
import NativeScript.Native.Session

/-!
# All or nothing

To register a class is to settle the accessors of all its properties, and then to make one
call after the other.  A property with one accessor of its own is refused before the first
call, so the engine gets all calls of a class or none, and every property is registered with
its own pair of accessors.
-/

namespace NativeScript.Native

variable {property : Property} {nativeClass : Class} {error : RegistrationError}

/-! ## Accessors -/

namespace Property

/-- Whether a property has a setter or a getter of its own, but not both. -/
def isHalf (property : Property) : Bool :=
  property.setter.isSome != property.getter.isSome

/-- The accessors under which a property is registered: its own pair, or in place of a missing
pair the one that writes and reads its slot. -/
inductive Settles (property : Property) : SetCallback × GetCallback → Prop
  | own {set : SetCallback} {get : GetCallback} (hasSetter : property.setter = some set)
      (hasGetter : property.getter = some get) : Settles property (set, get)
  | generic (noSetter : property.setter = none) (noGetter : property.getter = none) :
      Settles property (property.genericSetter, property.genericGetter)

theorem accessors_of_isHalf (isHalf : property.isHalf = true) :
    property.accessors = .error (.incompleteAccessors property.className property.name) := by
  unfold Property.isHalf at isHalf
  unfold accessors
  cases setter : property.setter <;> cases getter : property.getter <;>
    simp [setter, getter] at isHalf ⊢

theorem exists_accessors_of_not_isHalf (isWhole : property.isHalf = false) :
    ∃ accessors, property.accessors = .ok accessors ∧ property.Settles accessors := by
  unfold isHalf at isWhole
  unfold accessors
  cases setter : property.setter with
  | none =>
      cases getter : property.getter with
      | none => exact ⟨_, rfl, .generic setter getter⟩
      | some get => simp [setter, getter] at isWhole
  | some set =>
      cases getter : property.getter with
      | none => simp [setter, getter] at isWhole
      | some get => exact ⟨_, rfl, .own setter getter⟩

/-- Of several properties the first one with half of its accessors is refused; if there is
none, each property gets its accessors. -/
theorem mapM_accessors_cases (properties : List Property) :
    (∃ before half after, properties = before ++ half :: after ∧
        (∀ property ∈ before, property.isHalf = false) ∧ half.isHalf = true ∧
        properties.mapM accessors = .error (.incompleteAccessors half.className half.name)) ∨
      (∀ property ∈ properties, property.isHalf = false) ∧
        ∃ settled, properties.mapM accessors = .ok settled ∧
          List.Forall₂ Settles properties settled := by
  induction properties with
  | nil => exact .inr ⟨by simp, [], rfl, .nil⟩
  | cons property properties ih =>
      rw [List.mapM_cons]
      cases isHalf : property.isHalf with
      | true =>
          rw [accessors_of_isHalf isHalf]
          exact .inl ⟨[], property, properties, rfl, by simp, isHalf, rfl⟩
      | false =>
          rcases exists_accessors_of_not_isHalf isHalf with ⟨accessors, isOk, settles⟩
          rw [isOk]
          rcases ih with ⟨before, half, after, rfl, whole, isHalfLater, refused⟩ |
            ⟨whole, settled, isOkLater, settlesLater⟩
          · left
            rw [refused]
            exact ⟨property :: before, half, after, rfl, by simpa [isHalf] using whole,
              isHalfLater, rfl⟩
          · right
            rw [isOkLater]
            exact ⟨by simpa [isHalf] using whole, accessors :: settled, rfl,
              .cons settles settlesLater⟩

/-- A call registers a property with accessors of this property. -/
inductive IsRegisteredBy (property : Property) : Call → Prop
  | intro {set : SetCallback} {get : GetCallback} (settles : property.Settles (set, get)) :
      IsRegisteredBy property
        (.registerProperty property.className property.name property.attributes set get)

theorem forall₂_isRegisteredBy {properties : List Property}
    {settled : List (SetCallback × GetCallback)}
    (settles : List.Forall₂ Settles properties settled) :
    List.Forall₂ IsRegisteredBy properties
      (List.zipWith Class.propertyCall properties settled) := by
  induction settles with
  | nil => exact .nil
  | cons settles _ ih => exact .cons (.intro settles) ih

end Property

namespace Class

/-- No property of a class has half of its accessors. -/
def IsWhole (nativeClass : Class) : Prop :=
  ∀ property ∈ nativeClass.properties, property.isHalf = false

/-- The constructor with which a class is registered: its own one, or else the generic one. -/
def createCallback (nativeClass : Class) : CreateCallback :=
  nativeClass.maker.getD nativeClass.genericConstructor

/-- The destructor with which a class is registered: its own one, or else the generic one. -/
def destroyCallback (nativeClass : Class) : DestroyCallback :=
  nativeClass.disposer.getD nativeClass.genericDestructor

/-- The calls for a class, given those for its properties: the class itself, then its methods,
its properties and its signals, each in the order of their declaration. -/
def callsWith (nativeClass : Class) (propertyCalls : List Call) : List Call :=
  .registerClass nativeClass.info.tool nativeClass.info.name nativeClass.info.base
      nativeClass.createCallback nativeClass.destroyCallback ::
    nativeClass.methods.map .registerMethod ++ propertyCalls ++
    nativeClass.signals.map .registerSignal

theorem propertyCalls_eq (properties : List Property) :
    propertyCalls properties =
      (properties.mapM Property.accessors).map (List.zipWith propertyCall properties) := by
  induction properties with
  | nil => rfl
  | cons property properties ih =>
      rw [propertyCalls, List.mapM_cons, ih]
      cases property.accessors with
      | error error => rfl
      | ok accessors => cases properties.mapM Property.accessors <;> rfl

end Class

/-! ## Calls to the engine -/

namespace Session

variable {session registered : Session} {settled : List (SetCallback × GetCallback)}

/-- Have the engine receive a call, which is reported first. -/
def receive (session : Session) (call : Call) : Session :=
  { session.tell call.event with calls := session.calls ++ [call] }

/-- A session in which the engine has received further calls. -/
def withCalls (session : Session) (calls : List Call) : Session :=
  { session with
    calls := session.calls ++ calls
    events := session.events ++ calls.map Call.event }

/-- Register a class call by call.  The session that comes out is there also after a failure,
with all calls that were made until then. -/
def enrol (session : Session) (nativeClass : Class) : Except RegistrationError Unit × Session :=
  match nativeClass.properties.mapM Property.accessors with
  | .error error => (.error error, session)
  | .ok settled =>
      let session := session.receive nativeClass.headCall
      let session := nativeClass.methods.foldl
        (fun session method => session.receive (.registerMethod method)) session
      let session := (nativeClass.properties.zip settled).foldl
        (fun session pair => session.receive (Class.propertyCall pair.1 pair.2)) session
      let session := nativeClass.signals.foldl
        (fun session signal => session.receive (.registerSignal signal)) session
      (.ok (), session)

theorem withCalls_nil (session : Session) : session.withCalls [] = session := by
  simp [withCalls]

theorem withCalls_withCalls (session : Session) (first second : List Call) :
    (session.withCalls first).withCalls second = session.withCalls (first ++ second) := by
  simp [withCalls]

theorem receive_eq (session : Session) (call : Call) :
    session.receive call = session.withCalls [call] :=
  rfl

/-- A loop that makes a call for each item makes the calls for all items, in order. -/
theorem foldl_receive {α : Type} (callOf : α → Call) (items : List α) (session : Session) :
    items.foldl (fun session item => session.receive (callOf item)) session =
      session.withCalls (items.map callOf) := by
  induction items generalizing session with
  | nil => exact (withCalls_nil session).symm
  | cons item items ih =>
      rw [List.foldl_cons, ih, receive_eq, withCalls_withCalls]
      rfl

theorem register_of_ok (isOk : nativeClass.properties.mapM Property.accessors = .ok settled) :
    session.register nativeClass = .ok (session.withCalls (nativeClass.callsWith
      (List.zipWith Class.propertyCall nativeClass.properties settled))) := by
  rw [register, Class.calls, Class.propertyCalls_eq, isOk]
  rfl

theorem register_of_error
    (refused : nativeClass.properties.mapM Property.accessors = .error error) :
    session.register nativeClass = .error error := by
  rw [register, Class.calls, Class.propertyCalls_eq, refused]
  rfl

/-- A class without half accessors is registered in every session. -/
theorem exists_register_eq_ok (isWhole : nativeClass.IsWhole) :
    ∃ propertyCalls, List.Forall₂ Property.IsRegisteredBy nativeClass.properties propertyCalls ∧
      ∀ session : Session,
        session.register nativeClass =
          .ok (session.withCalls (nativeClass.callsWith propertyCalls)) := by
  rcases Property.mapM_accessors_cases nativeClass.properties with
    ⟨before, half, after, split, _, isHalf, _⟩ | ⟨_, settled, isOk, settles⟩
  · have isInside : half ∈ nativeClass.properties := by simp [split]
    rw [isWhole half isInside] at isHalf
    cases isHalf
  · exact ⟨_, Property.forall₂_isRegisteredBy settles, fun _ => register_of_ok isOk⟩

/-- A class that is registered has no half accessors. -/
theorem exists_of_register_eq_ok (isOk : session.register nativeClass = .ok registered) :
    nativeClass.IsWhole ∧ ∃ propertyCalls,
      List.Forall₂ Property.IsRegisteredBy nativeClass.properties propertyCalls ∧
        registered = session.withCalls (nativeClass.callsWith propertyCalls) := by
  rcases Property.mapM_accessors_cases nativeClass.properties with
    ⟨_, _, _, _, _, _, refused⟩ | ⟨isWhole, settled, isSettled, settles⟩
  · rw [register_of_error refused] at isOk
    cases isOk
  · rw [register_of_ok isSettled] at isOk
    exact ⟨isWhole, _, Property.forall₂_isRegisteredBy settles, (Except.ok.inj isOk).symm⟩

theorem enrol_of_ok (isOk : nativeClass.properties.mapM Property.accessors = .ok settled) :
    session.enrol nativeClass = (.ok (), session.withCalls (nativeClass.callsWith
      (List.zipWith Class.propertyCall nativeClass.properties settled))) := by
  have sameCalls :
      [nativeClass.headCall] ++ (nativeClass.methods.map Call.registerMethod ++
          ((nativeClass.properties.zip settled).map
              (fun pair => Class.propertyCall pair.1 pair.2) ++
            nativeClass.signals.map Call.registerSignal)) =
        nativeClass.callsWith
          (List.zipWith Class.propertyCall nativeClass.properties settled) := by
    rw [List.map_zip_eq_zipWith, ← List.append_assoc, ← List.append_assoc]
    rfl
  unfold enrol
  rw [isOk]
  dsimp only
  rw [foldl_receive Call.registerMethod,
    foldl_receive fun pair : Property × SetCallback × GetCallback =>
      Class.propertyCall pair.1 pair.2,
    foldl_receive Call.registerSignal, receive_eq, withCalls_withCalls, withCalls_withCalls,
    withCalls_withCalls, sameCalls]

theorem enrol_of_error
    (refused : nativeClass.properties.mapM Property.accessors = .error error) :
    session.enrol nativeClass = (.error error, session) := by
  unfold enrol
  rw [refused]

/-- A class is refused for the first of its properties that has half of its accessors, and then
the engine has got no call; or else, if there is no such property, the engine gets all calls
for the class in their order, each property with its own accessors. -/
theorem register_all_or_nothing (session : Session) (nativeClass : Class) :
    (∃ before half after, nativeClass.properties = before ++ half :: after ∧
        (∀ property ∈ before, property.isHalf = false) ∧ half.isHalf = true ∧
        session.register nativeClass =
          .error (.incompleteAccessors half.className half.name) ∧
        session.enrol nativeClass =
          (.error (.incompleteAccessors half.className half.name), session)) ∨
      nativeClass.IsWhole ∧
        ∃ propertyCalls,
          List.Forall₂ Property.IsRegisteredBy nativeClass.properties propertyCalls ∧
          session.register nativeClass =
            .ok (session.withCalls (nativeClass.callsWith propertyCalls)) ∧
          session.enrol nativeClass =
            (.ok (), session.withCalls (nativeClass.callsWith propertyCalls)) := by
  rcases Property.mapM_accessors_cases nativeClass.properties with
    ⟨before, half, after, split, whole, isHalf, refused⟩ | ⟨whole, settled, isOk, settles⟩
  · left
    exact ⟨before, half, after, split, whole, isHalf, register_of_error refused,
      enrol_of_error refused⟩
  · right
    exact ⟨whole, _, Property.forall₂_isRegisteredBy settles, register_of_ok isOk,
      enrol_of_ok isOk⟩

end Session

end NativeScript.Native
