import Mathlib.Data.List.Nodup
import NativeScript.Native.Session
import NativeScript.Proofs.Native.Latest

/-!
# The instances of a run

Constructors are synthesised for classes and called, on any objects and in any order, and so
are destructors, with any texts.  All classes share the live instances.  What is live under a
key is decided by the last call that touches this key: the class of a generic constructor, as
it was when the constructor was synthesised, or nothing after a generic destructor.
-/

namespace NativeScript.Native

open Engine (Variant)

/-! ## Keys -/

/-- Different objects have different keys. -/
theorem Object.key_injective : Function.Injective Object.key := by
  rintro ⟨first⟩ ⟨second⟩ same
  have digits : Nat.toDigits 10 first.toNat = Nat.toDigits 10 second.toNat := by
    rw [← Nat.toList_repr, ← Nat.toList_repr]
    exact congrArg String.toList same
  have number := congrArg (fun digits => Nat.ofDigitChars 10 digits 0) digits
  simp only [Nat.ofDigitChars_ten_toDigits] at number
  rw [UInt64.toNat_inj.mp number]

namespace Instances

variable {instances : Instances} {key : String}

theorem mem_keys_iff : key ∈ instances.keys ↔ ∃ info, instances.get? key = some info := by
  rw [← Option.isSome_iff_exists, get?, List.lookup_isSome_iff, keys, List.mem_map]
  constructor
  · rintro ⟨entry, member, rfl⟩
    exact ⟨entry, member, beq_self_eq_true _⟩
  · rintro ⟨entry, member, same⟩
    exact ⟨entry, member, (eq_of_beq same).symm⟩

theorem keys_remove (instances : Instances) (key : String) :
    (instances.remove key).keys = instances.keys.filter (· != key) := by
  rw [keys, keys, List.filter_map]
  rfl

theorem keys_insert (instances : Instances) (key : String) (info : ClassInfo) :
    (instances.insert key info).keys = key :: instances.keys.filter (· != key) := by
  rw [← keys_remove]
  rfl

theorem length_keys (instances : Instances) : instances.keys.length = instances.size :=
  List.length_map _

end Instances

/-! ## Calls -/

namespace Session

variable {create : CreateCallback} {destroy : DestroyCallback} {info : ClassInfo}

theorem instances_create_of_generic (isGeneric : create.body = .generic info)
    (session : Session) (object : Object) :
    (session.create create object).2.instances = session.instances.insert object.key info := by
  rw [Session.create, isGeneric]
  rfl

theorem instances_create_of_supplied {answer : Object → String → String}
    (isSupplied : create.body = .supplied answer) (session : Session) (object : Object) :
    (session.create create object).2.instances = session.instances := by
  rw [Session.create, isSupplied]
  rfl

theorem instances_destroy_of_generic {className : String}
    (isGeneric : destroy.body = .generic className) (session : Session) (object : Object)
    (user : String) :
    (session.destroy destroy object user).instances = session.instances.remove user := by
  rw [Session.destroy, isGeneric]
  rfl

theorem instances_destroy_of_supplied (isSupplied : destroy.body = .supplied)
    (session : Session) (object : Object) (user : String) :
    (session.destroy destroy object user).instances = session.instances := by
  rw [Session.destroy, isSupplied]
  rfl

theorem calls_create (session : Session) (create : CreateCallback) (object : Object) :
    (session.create create object).2.calls = session.calls := by
  rw [Session.create]
  cases create.body <;> rfl

theorem calls_destroy (session : Session) (destroy : DestroyCallback) (object : Object)
    (user : String) : (session.destroy destroy object user).calls = session.calls := by
  rw [Session.destroy]
  cases destroy.body <;> rfl

theorem set_keeps (session : Session) (callback : SetCallback) (object : Object)
    (user : String) (value : Variant) :
    (session.set callback object user value).calls = session.calls ∧
      (session.set callback object user value).instances = session.instances := by
  rw [Session.set]
  cases callback.body <;> exact ⟨rfl, rfl⟩

theorem get_keeps (session : Session) (callback : GetCallback) (object : Object)
    (user : String) :
    (session.get callback object user).2.calls = session.calls ∧
      (session.get callback object user).2.instances = session.instances := by
  rw [Session.get]
  cases callback.body <;> exact ⟨rfl, rfl⟩

/-- No call makes a key twice. -/
theorem nodup_keys_create {session : Session} (distinct : session.instances.keys.Nodup)
    (create : CreateCallback) (object : Object) :
    (session.create create object).2.instances.keys.Nodup := by
  cases body : create.body with
  | generic info =>
      rw [instances_create_of_generic body, Instances.keys_insert, List.nodup_cons]
      exact ⟨by simp, distinct.filter _⟩
  | supplied answer =>
      rw [instances_create_of_supplied body]
      exact distinct

theorem nodup_keys_destroy {session : Session} (distinct : session.instances.keys.Nodup)
    (destroy : DestroyCallback) (object : Object) (user : String) :
    (session.destroy destroy object user).instances.keys.Nodup := by
  cases body : destroy.body with
  | generic className =>
      rw [instances_destroy_of_generic body, Instances.keys_remove]
      exact distinct.filter _
  | supplied =>
      rw [instances_destroy_of_supplied body]
      exact distinct

end Session

/-! ## Runs -/

/-- Where a constructor comes from that is called. -/
inductive Constructor where
  /-- One of the constructors that were synthesised, by its number. -/
  | synthesised (index : Nat)
  | supplied (data : String) (answer : Object → String → String)

/-- Classes as they are now, the constructors that were synthesised for them, and the session
in which these are called. -/
structure Workshop where
  classes : List Class := []
  constructors : List CreateCallback := []
  session : Session := {}

namespace Workshop

/-- What can happen in a workshop. -/
inductive Operation where
  | declare (nativeClass : Class)
  /-- Set the tool flag of a class. -/
  | setTool (place : Nat) (tool : Bool)
  /-- Synthesise the constructor of a class as it is now.  So it is done also for a class that
  is registered without one. -/
  | synthesise (place : Nat)
  | create (constructor : Constructor) (object : Object)
  | destroy (destructor : DestroyCallback) (object : Object) (user : String)

/-- The callback of a constructor. -/
def callback? (workshop : Workshop) : Constructor → Option CreateCallback
  | .synthesised index => workshop.constructors[index]?
  | .supplied data answer => some ⟨data, .supplied answer⟩

/-- The constructor that an operation adds. -/
def added? (workshop : Workshop) : Operation → Option CreateCallback
  | .synthesise place => workshop.classes[place]?.map Class.genericConstructor
  | _ => none

/-- The classes after an operation. -/
def classesAfter (workshop : Workshop) : Operation → List Class
  | .declare nativeClass => workshop.classes ++ [nativeClass]
  | .setTool place tool => workshop.classes.modify place (·.withTool tool)
  | _ => workshop.classes

/-- The session after an operation. -/
def sessionAfter (workshop : Workshop) : Operation → Session
  | .create constructor object =>
      match workshop.callback? constructor with
      | some callback => (workshop.session.create callback object).2
      | none => workshop.session
  | .destroy destructor object user => workshop.session.destroy destructor object user
  | _ => workshop.session

/-- A workshop after an operation. -/
def step (workshop : Workshop) (operation : Operation) : Workshop where
  classes := workshop.classesAfter operation
  constructors := workshop.constructors ++ (workshop.added? operation).toList
  session := workshop.sessionAfter operation

/-- The workshop after the operations of a history, the last of which comes first. -/
def run : List Operation → Workshop
  | [] => {}
  | operation :: past => (run past).step operation

/-- The constructor of this number was synthesised for a class that was then described so. -/
inductive Synthesised : List Operation → Nat → ClassInfo → Prop
  | now {past : List Operation} {place : Nat} {nativeClass : Class}
      (isAt : (run past).classes[place]? = some nativeClass) :
      Synthesised (.synthesise place :: past) (run past).constructors.length nativeClass.info
  | earlier {past : List Operation} {operation : Operation} {index : Nat} {info : ClassInfo}
      (synthesised : Synthesised past index info) :
      Synthesised (operation :: past) index info

/-- What an operation leaves under a key that it touches: a generic constructor records an
instance there, and a generic destructor forgets it. -/
inductive Touches (key : String) (past : List Operation) : Operation → Option ClassInfo → Prop
  | create {index : Nat} {info : ClassInfo} {object : Object}
      (synthesised : Synthesised past index info) (isKey : object.key = key) :
      Touches key past (.create (.synthesised index) object) (some info)
  | destroy {data className : String} {object : Object} :
      Touches key past (.destroy ⟨data, .generic className⟩ object key) none

variable {history past : List Operation} {operation : Operation} {index : Nat}
  {info : ClassInfo} {key : String}

/-! ## Synthesised constructors -/

/-- A synthesised constructor keeps what its class was at that time. -/
theorem Synthesised.getElem? (synthesised : Synthesised history index info) :
    (run history).constructors[index]? = some ⟨info.name, .generic info⟩ := by
  induction synthesised with
  | @now past place nativeClass isAt =>
      change ((run past).constructors ++
        ((run past).classes[place]?.map Class.genericConstructor).toList)[_]? = _
      rw [isAt]
      exact List.getElem?_concat_length
  | @earlier past operation index info _ ih =>
      have isInside := (List.getElem?_eq_some_iff.mp ih).1
      exact (List.getElem?_append_left isInside).trans ih

/-- All constructors there are have been synthesised. -/
theorem exists_synthesised {callback : CreateCallback}
    (isAt : (run history).constructors[index]? = some callback) :
    ∃ info, Synthesised history index info := by
  induction history with
  | nil => cases isAt
  | cons operation past ih =>
      change ((run past).constructors ++ ((run past).added? operation).toList)[index]? = _ at isAt
      by_cases isInside : index < (run past).constructors.length
      · rw [List.getElem?_append_left isInside] at isAt
        rcases ih isAt with ⟨info, synthesised⟩
        exact ⟨info, .earlier synthesised⟩
      · rw [List.getElem?_append_right (Nat.le_of_not_lt isInside)] at isAt
        cases operation with
        | synthesise place =>
            cases found : (run past).classes[place]? with
            | none => simp [added?, found] at isAt
            | some nativeClass =>
                have isNext : index = (run past).constructors.length := by
                  have inAdded := (List.getElem?_eq_some_iff.mp isAt).1
                  simp [added?, found] at inAdded
                  omega
                rw [isNext]
                exact ⟨nativeClass.info, .now found⟩
        | declare _ => cases isAt
        | setTool _ _ => cases isAt
        | create _ _ => cases isAt
        | destroy _ _ _ => cases isAt

/-! ## Touched keys -/

theorem get?_of_touches {held : Option ClassInfo} (touches : Touches key past operation held) :
    (run (operation :: past)).session.instances.get? key = held := by
  change ((run past).sessionAfter operation).instances.get? key = held
  cases touches with
  | create synthesised isKey =>
      rw [sessionAfter, callback?, synthesised.getElem?]
      dsimp only
      rw [Session.instances_create_of_generic rfl, Instances.get?_insert, if_pos isKey.symm]
  | destroy =>
      rw [sessionAfter, Session.instances_destroy_of_generic rfl, Instances.get?_remove,
        if_pos rfl]

theorem get?_of_not_touches (silent : ∀ held, ¬ Touches key past operation held) :
    (run (operation :: past)).session.instances.get? key =
      (run past).session.instances.get? key := by
  change ((run past).sessionAfter operation).instances.get? key = _
  cases operation with
  | declare _ => rfl
  | setTool _ _ => rfl
  | synthesise _ => rfl
  | create constructor object =>
      cases constructor with
      | supplied data answer => rfl
      | synthesised index =>
          rw [sessionAfter, callback?]
          cases isAt : (run past).constructors[index]? with
          | none => rfl
          | some callback =>
              rcases exists_synthesised isAt with ⟨info, synthesised⟩
              have isGeneric := synthesised.getElem?
              rw [isAt] at isGeneric
              obtain rfl := Option.some.inj isGeneric
              have otherKey : key ≠ object.key :=
                fun same => silent _ (.create synthesised same.symm)
              dsimp only
              rw [Session.instances_create_of_generic rfl, Instances.get?_insert,
                if_neg otherKey]
  | destroy destructor object user =>
      rcases destructor with ⟨data, body⟩
      cases body with
      | supplied => rfl
      | generic className =>
          have otherKey : key ≠ user := by
            rintro rfl
            exact silent _ .destroy
          rw [sessionAfter, Session.instances_destroy_of_generic rfl, Instances.get?_remove,
            if_neg otherKey]

/-- What is live under a key is what the last operation that touched the key has left there. -/
theorem get?_run_iff :
    (run history).session.instances.get? key = some info ↔
      Latest (Touches key) history (some info) := by
  have exact : (run history).session.instances.get? key = some info ↔ _ :=
    observe_eq_iff (fun history => (run history).session.instances.get? key)
      get?_of_touches get?_of_not_touches
  exact exact.trans (or_iff_left fun never => nomatch never.2)

theorem nodup_keys_run (history : List Operation) :
    (run history).session.instances.keys.Nodup := by
  induction history with
  | nil => exact List.nodup_nil
  | cons operation past ih =>
      change ((run past).sessionAfter operation).instances.keys.Nodup
      cases operation with
      | declare _ => exact ih
      | setTool _ _ => exact ih
      | synthesise _ => exact ih
      | destroy destructor object user => exact Session.nodup_keys_destroy ih _ _ _
      | create constructor object =>
          rw [sessionAfter]
          split
          · exact Session.nodup_keys_create ih _ _
          · exact ih

/-! ## What is live after a run -/

/-- What the live instances are after a history. -/
structure Tracks (history : List Operation) : Prop where
  /-- An instance is live under a key exactly if the last call that touched the key was one of
  a generic constructor, and its class is what it was when this constructor was synthesised. -/
  live : ∀ key info, (run history).session.instances.get? key = some info ↔
    Latest (Touches key) history (some info)
  /-- There are as many live instances as such keys. -/
  size : ∃ keys : List String, keys.Nodup ∧
    (∀ key, key ∈ keys ↔ ∃ info, Latest (Touches key) history (some info)) ∧
    (run history).session.instances.size = keys.length
  /-- Setting the tool flag of a class changes neither live instances nor constructors. -/
  setTool : ∀ place tool,
    (run (.setTool place tool :: history)).session = (run history).session ∧
    (run (.setTool place tool :: history)).constructors = (run history).constructors ∧
    ∀ index info, Synthesised (.setTool place tool :: history) index info ↔
      Synthesised history index info
  /-- Supplied callbacks leave the live instances alone. -/
  suppliedCreate : ∀ data answer object,
    (run (.create (.supplied data answer) object :: history)).session.instances =
      (run history).session.instances
  suppliedDestroy : ∀ data object user,
    (run (.destroy ⟨data, .supplied⟩ object user :: history)).session.instances =
      (run history).session.instances

/-- Whatever constructors and destructors are called, each key holds what the last call that
touched it has left there, and no two objects share a key. -/
theorem run_tracks (history : List Operation) :
    Tracks history ∧ Function.Injective Object.key := by
  refine ⟨?_, Object.key_injective⟩
  constructor
  · exact fun key info => get?_run_iff
  · refine ⟨(run history).session.instances.keys, nodup_keys_run history, ?_,
      (Instances.length_keys _).symm⟩
    intro key
    simp only [Instances.mem_keys_iff, get?_run_iff]
  · intro place tool
    refine ⟨rfl, List.append_nil _, fun index info => ⟨?_, .earlier⟩⟩
    rintro (_ | synthesised)
    exact synthesised
  · exact fun _ _ _ => rfl
  · exact fun _ _ _ => rfl

end Workshop

end NativeScript.Native
