import NativeScript.Proofs.Native.Enrolment
import NativeScript.Proofs.Native.Instances

/-!
# Live objects and their records

The engine makes objects through the constructors it was given and disposes of them through
the destructors of the same classes.  The records of live instances are those of the objects
made by generic constructors only if the two halves of each class fit together: a class that
records its objects must also forget them, and a class that forgets without recording must not
name an object of another class.  Registration settles each half on its own and asks for
neither.
-/

namespace NativeScript.Native

/-- A constructor records the objects it makes. -/
def CreateCallback.IsGeneric (create : CreateCallback) : Prop :=
  ∃ info, create.body = .generic info

/-- A destructor forgets the objects it is given. -/
def DestroyCallback.IsGeneric (destroy : DestroyCallback) : Prop :=
  ∃ className, destroy.body = .generic className

/-- The text with which a constructor answers for an object. -/
def CreateCallback.answer (create : CreateCallback) (object : Object) : String :=
  match create.body with
  | .generic _ => object.key
  | .supplied answer => answer object create.data

/-- An object that was made and not yet disposed of, with the callbacks of its class and the
text that its constructor answered with. -/
structure Living where
  object : Object
  create : CreateCallback
  destroy : DestroyCallback
  user : String

/-- The sessions that are reached by registering some of `classes` and by calling what was
registered, with the objects that are then alive.  No object is made while it is alive, and
each is disposed of with the text of its own constructor. -/
inductive Reaches (classes : List Class) : Session → List Living → Prop
  | start : Reaches classes {} []
  | register {session registered : Session} {living : List Living} {nativeClass : Class}
      (reached : Reaches classes session living) (declared : nativeClass ∈ classes)
      (isOk : session.register nativeClass = .ok registered) : Reaches classes registered living
  | create {session : Session} {living : List Living} {tool : Bool} {name base : String}
      {create : CreateCallback} {destroy : DestroyCallback}
      (reached : Reaches classes session living)
      (received : .registerClass tool name base create destroy ∈ session.calls)
      (object : Object) (fresh : ∀ other ∈ living, other.object ≠ object) :
      Reaches classes (session.create create object).2
        (⟨object, create, destroy, (session.create create object).1⟩ :: living)
  | destroy {session : Session} {living : List Living} {target : Living}
      (reached : Reaches classes session living) (isLiving : target ∈ living) :
      Reaches classes (session.destroy target.destroy target.object target.user)
        (living.filter (·.object ≠ target.object))
  | set {session : Session} {living : List Living} {callback : SetCallback} {object : Object}
      {user : String} {value : Engine.Variant} (reached : Reaches classes session living) :
      Reaches classes (session.set callback object user value) living
  | get {session : Session} {living : List Living} {callback : GetCallback} {object : Object}
      {user : String} (reached : Reaches classes session living) :
      Reaches classes (session.get callback object user).2 living

/-- The records are exactly those of the live objects that a generic constructor has made. -/
def RecordsLiving (session : Session) (living : List Living) : Prop :=
  ∀ key, key ∈ session.instances.keys ↔
    ∃ one ∈ living, one.create.IsGeneric ∧ one.object.key = key

/-- A constructor and a destructor under which a class is registered. -/
def Registers (classes : List Class) (create : CreateCallback) (destroy : DestroyCallback) :
    Prop :=
  ∃ nativeClass ∈ classes, nativeClass.IsWhole ∧ nativeClass.createCallback = create ∧
    nativeClass.destroyCallback = destroy

/-- The two halves of each class fit together. -/
structure Paired (classes : List Class) : Prop where
  /-- A class that records its objects forgets them. -/
  forgets : ∀ create destroy, Registers classes create destroy → create.IsGeneric →
    destroy.IsGeneric
  /-- If objects are recorded, a class that forgets does not name another object. -/
  ownKey : ∀ recording forgetting, Registers classes recording forgetting →
    recording.IsGeneric → ∀ create destroy, Registers classes create destroy →
      destroy.IsGeneric → ∀ object other : Object, create.answer object = other.key →
        object = other

variable {classes : List Class} {session registered : Session} {living : List Living}
  {create : CreateCallback} {destroy : DestroyCallback} {target : Living} {key : String}

theorem Session.fst_create (session : Session) (create : CreateCallback) (object : Object) :
    (session.create create object).1 = create.answer object := by
  rw [Session.create, CreateCallback.answer]
  cases create.body <;> rfl

/-! ## Registered callbacks -/

theorem registerClass_not_mem {properties : List Property} {propertyCalls : List Call}
    (forProperties : List.Forall₂ Property.IsRegisteredBy properties propertyCalls)
    {tool : Bool} {name base : String} :
    .registerClass tool name base create destroy ∉ propertyCalls := by
  induction forProperties with
  | nil => exact List.not_mem_nil
  | cons registers _ ih =>
      cases registers
      simpa using ih

/-- The engine gets the callbacks of a class with the call for the class itself. -/
theorem registerClass_mem_callsWith_iff {nativeClass : Class} {propertyCalls : List Call}
    (forProperties : List.Forall₂ Property.IsRegisteredBy nativeClass.properties propertyCalls)
    {tool : Bool} {name base : String} :
    .registerClass tool name base create destroy ∈ nativeClass.callsWith propertyCalls ↔
      tool = nativeClass.info.tool ∧ name = nativeClass.info.name ∧
        base = nativeClass.info.base ∧ create = nativeClass.createCallback ∧
          destroy = nativeClass.destroyCallback := by
  simp [Class.callsWith, registerClass_not_mem forProperties]

/-- What holds of every run: the engine has got callbacks of the classes, all objects were made
with them, and none is alive twice. -/
structure Follows (classes : List Class) (session : Session) (living : List Living) : Prop where
  received : ∀ {tool name base create destroy},
    .registerClass tool name base create destroy ∈ session.calls →
      Registers classes create destroy
  made : ∀ one ∈ living, Registers classes one.create one.destroy ∧
    one.user = one.create.answer one.object
  distinct : (living.map Living.object).Nodup

theorem Reaches.follows (reached : Reaches classes session living) :
    Follows classes session living := by
  induction reached with
  | start => exact ⟨by simp, by simp, List.nodup_nil⟩
  | @register session registered living nativeClass _ declared isOk ih =>
      rcases Session.exists_of_register_eq_ok isOk with
        ⟨isWhole, propertyCalls, forProperties, rfl⟩
      refine ⟨?_, ih.made, ih.distinct⟩
      intro tool name base create destroy received
      rcases List.mem_append.mp received with before | now
      · exact ih.received before
      · rcases (registerClass_mem_callsWith_iff forProperties).mp now with
          ⟨_, _, _, rfl, rfl⟩
        exact ⟨nativeClass, declared, isWhole, rfl, rfl⟩
  | @create session living tool name base create destroy _ received object fresh ih =>
      constructor
      · rw [Session.calls_create]
        exact ih.received
      · rw [List.forall_mem_cons]
        exact ⟨⟨ih.received received, session.fst_create create object⟩, ih.made⟩
      · rw [List.map_cons, List.nodup_cons]
        refine ⟨?_, ih.distinct⟩
        rintro member
        rcases List.mem_map.mp member with ⟨other, isLiving, same⟩
        exact fresh other isLiving same
  | @destroy session living target _ isLiving ih =>
      constructor
      · rw [Session.calls_destroy]
        exact ih.received
      · exact fun one member => ih.made one (List.mem_filter.mp member).1
      · exact ((List.filter_sublist).map _).nodup ih.distinct
  | @set session living callback object user value _ ih =>
      refine ⟨?_, ih.made, ih.distinct⟩
      rw [(session.set_keeps callback object user value).1]
      exact ih.received
  | @get session living callback object user _ ih =>
      refine ⟨?_, ih.made, ih.distinct⟩
      rw [(session.get_keeps callback object user).1]
      exact ih.received

/-! ## Records of paired classes -/

/-- Of a live object there is a record exactly if its constructor records. -/
theorem RecordsLiving.key_mem_keys_iff (records : RecordsLiving session living)
    (follows : Follows classes session living) (isLiving : target ∈ living) :
    target.object.key ∈ session.instances.keys ↔ target.create.IsGeneric := by
  rw [records]
  constructor
  · rintro ⟨one, member, isGeneric, same⟩
    have isTarget := List.inj_on_of_nodup_map follows.distinct member isLiving
      (Object.key_injective same)
    rwa [← isTarget]
  · exact fun isGeneric => ⟨target, isLiving, isGeneric, rfl⟩

theorem recordsLiving_create (records : RecordsLiving session living) (object : Object)
    (user : String) :
    RecordsLiving (session.create create object).2 (⟨object, create, destroy, user⟩ :: living) := by
  intro key
  rw [List.exists_mem_cons_iff, ← records key]
  cases body : create.body with
  | generic info =>
      have isGeneric : create.IsGeneric := ⟨info, body⟩
      rw [Session.instances_create_of_generic body, Instances.keys_insert]
      by_cases same : object.key = key
      · simp [same, isGeneric]
      · simp [same, Ne.symm same]
  | supplied answer =>
      have notGeneric : ¬ create.IsGeneric := by
        rintro ⟨info, isGeneric⟩
        rw [body] at isGeneric
        cases isGeneric
      rw [Session.instances_create_of_supplied body]
      simp [notGeneric]

/-- Disposing of an object removes its own record and no other one. -/
theorem mem_keys_destroy_iff (paired : Paired classes) (records : RecordsLiving session living)
    (follows : Follows classes session living) (isLiving : target ∈ living) :
    key ∈ (session.destroy target.destroy target.object target.user).instances.keys ↔
      key ∈ session.instances.keys ∧ key ≠ target.object.key := by
  have isRecorded := records.key_mem_keys_iff follows isLiving
  rcases follows.made target isLiving with ⟨registers, isAnswer⟩
  by_cases recording : target.create.IsGeneric
  · rcases paired.forgets _ _ registers recording with ⟨className, body⟩
    have isOwn : target.user = target.object.key := by
      rcases recording with ⟨info, isGeneric⟩
      rw [isAnswer, CreateCallback.answer, isGeneric]
    rw [Session.instances_destroy_of_generic body, Instances.keys_remove, isOwn]
    simp
  · have otherKey : key ∈ session.instances.keys → key ≠ target.object.key := by
      rintro member rfl
      exact recording (isRecorded.mp member)
    rw [and_iff_left_of_imp otherKey]
    cases body : target.destroy.body with
    | supplied => rw [Session.instances_destroy_of_supplied body]
    | generic className =>
        have notUser : key ∈ session.instances.keys → key ≠ target.user := by
          rintro member rfl
          rcases (records _).mp member with ⟨one, oneLiving, oneGeneric, same⟩
          have isTarget := paired.ownKey _ _ (follows.made one oneLiving).1 oneGeneric _ _
            registers ⟨className, body⟩ target.object one.object (isAnswer ▸ same.symm)
          rw [List.inj_on_of_nodup_map follows.distinct isLiving oneLiving isTarget] at recording
          exact recording oneGeneric
        rw [Session.instances_destroy_of_generic body, Instances.keys_remove, List.mem_filter]
        simpa using notUser

theorem recordsLiving_destroy (paired : Paired classes) (records : RecordsLiving session living)
    (follows : Follows classes session living) (isLiving : target ∈ living) :
    RecordsLiving (session.destroy target.destroy target.object target.user)
      (living.filter (·.object ≠ target.object)) := by
  intro key
  rw [mem_keys_destroy_iff paired records follows isLiving, records key]
  constructor
  · rintro ⟨⟨one, member, isGeneric, rfl⟩, otherKey⟩
    refine ⟨one, List.mem_filter.mpr ⟨member, ?_⟩, isGeneric, rfl⟩
    exact decide_eq_true fun same => otherKey (congrArg Object.key same)
  · rintro ⟨one, member, isGeneric, rfl⟩
    rcases List.mem_filter.mp member with ⟨oneLiving, differs⟩
    refine ⟨⟨one, oneLiving, isGeneric, rfl⟩, ?_⟩
    exact fun same => of_decide_eq_true differs (Object.key_injective same)

theorem Reaches.recordsLiving (paired : Paired classes)
    (reached : Reaches classes session living) : RecordsLiving session living := by
  induction reached with
  | start => simp [RecordsLiving, Instances.keys, Instances.empty]
  | @register session registered living nativeClass _ _ isOk ih =>
      rcases Session.exists_of_register_eq_ok isOk with ⟨_, _, _, rfl⟩
      exact ih
  | @create session living tool name base create destroy _ _ object _ ih =>
      exact recordsLiving_create ih object _
  | destroy reached isLiving ih =>
      exact recordsLiving_destroy paired ih reached.follows isLiving
  | @set session living callback object user value _ ih =>
      rw [RecordsLiving, (session.set_keeps callback object user value).2]
      exact ih
  | @get session living callback object user _ ih =>
      rw [RecordsLiving, (session.get_keeps callback object user).2]
      exact ih

/-! ## Records of other classes -/

/-- Every class can be registered at any time, and what was received before stays. -/
theorem Reaches.exists_register (reached : Reaches classes session living)
    (registers : Registers classes create destroy) :
    ∃ registered tool name base, Reaches classes registered living ∧
      .registerClass tool name base create destroy ∈ registered.calls ∧
      session.calls ⊆ registered.calls := by
  rcases registers with ⟨nativeClass, declared, isWhole, rfl, rfl⟩
  rcases Session.exists_register_eq_ok isWhole with ⟨propertyCalls, forProperties, isOk⟩
  refine ⟨_, nativeClass.info.tool, nativeClass.info.name, nativeClass.info.base,
    reached.register declared (isOk session), ?_, List.subset_append_left _ _⟩
  apply List.mem_append_right
  exact (registerClass_mem_callsWith_iff forProperties).mpr ⟨rfl, rfl, rfl, rfl, rfl⟩

section

variable (all : ∀ session living, Reaches classes session living → RecordsLiving session living)

include all in
/-- A class that records its objects and does not forget them leaves a record behind. -/
theorem forgets_of_recordsLiving (registers : Registers classes create destroy)
    (recording : create.IsGeneric) : destroy.IsGeneric := by
  cases body : destroy.body with
  | generic className => exact ⟨className, body⟩
  | supplied =>
      rcases Reaches.start.exists_register registers with
        ⟨session, tool, name, base, reached, received, _⟩
      have made := reached.create received ⟨0⟩ (by simp)
      have gone := made.destroy List.mem_cons_self
      have isRecorded := (all _ _ made (Object.key ⟨0⟩)).mpr
        ⟨_, List.mem_cons_self, recording, rfl⟩
      rw [← Session.instances_destroy_of_supplied body _ ⟨0⟩
        (session.create create ⟨0⟩).1] at isRecorded
      rcases (all _ _ gone (Object.key ⟨0⟩)).mp isRecorded with ⟨one, member, _⟩
      simp at member

include all in
/-- A class that names another object when it forgets takes the record of that object away. -/
theorem ownKey_of_recordsLiving {recording : CreateCallback} {forgetting : DestroyCallback}
    (registersFirst : Registers classes recording forgetting)
    (isRecording : recording.IsGeneric) (registers : Registers classes create destroy)
    (isForgetting : destroy.IsGeneric) {object other : Object}
    (isOther : create.answer object = other.key) : object = other := by
  by_contra differs
  rcases Reaches.start.exists_register registersFirst with
    ⟨first, tool, name, base, reachedFirst, receivedFirst, _⟩
  rcases reachedFirst.exists_register registers with
    ⟨session, toolLater, nameLater, baseLater, reached, received, kept⟩
  have makesOther := reached.create (kept receivedFirst) other (by simp)
  have stillReceived :
      .registerClass toolLater nameLater baseLater create destroy ∈
        (session.create recording other).2.calls := by
    rwa [Session.calls_create]
  have makesBoth := makesOther.create stillReceived object (by simpa using Ne.symm differs)
  have gone := makesBoth.destroy List.mem_cons_self
  have isRecorded := (all _ _ gone other.key).mpr
    ⟨⟨other, recording, forgetting, (session.create recording other).1⟩,
      by simpa using Ne.symm differs, isRecording, rfl⟩
  rcases isForgetting with ⟨className, body⟩
  rw [Session.instances_destroy_of_generic body, Session.fst_create, isOther,
    Instances.keys_remove] at isRecorded
  simp at isRecorded

end

/-- The records are in all runs those of the live objects that generic constructors have made,
exactly if the two halves of each class fit together. -/
theorem recordsLiving_iff_paired (classes : List Class) :
    (∀ session living, Reaches classes session living → RecordsLiving session living) ↔
      Paired classes := by
  constructor
  · intro all
    constructor
    · exact fun _ _ registers recording => forgets_of_recordsLiving all registers recording
    · exact fun _ _ registersFirst isRecording _ _ registers isForgetting _ _ isOther =>
        ownKey_of_recordsLiving all registersFirst isRecording registers isForgetting isOther
  · exact fun paired session living reached => reached.recordsLiving paired

/-- Classes are paired if each of them leaves both halves to registration or supplies both. -/
theorem paired_of_alike (alike : ∀ nativeClass ∈ classes,
    (nativeClass.maker = none ∧ nativeClass.disposer = none) ∨
      ¬ nativeClass.createCallback.IsGeneric ∧ ¬ nativeClass.destroyCallback.IsGeneric) :
    Paired classes := by
  constructor
  · rintro _ _ ⟨nativeClass, declared, _, rfl, rfl⟩ recording
    rcases alike nativeClass declared with ⟨_, noDisposer⟩ | ⟨notRecording, _⟩
    · exact ⟨nativeClass.info.name, by rw [Class.destroyCallback, noDisposer]; rfl⟩
    · exact absurd recording notRecording
  · rintro _ _ _ _ _ _ ⟨nativeClass, declared, _, rfl, rfl⟩ isForgetting object other isOther
    rcases alike nativeClass declared with ⟨noMaker, _⟩ | ⟨_, notForgetting⟩
    · rw [Class.createCallback, noMaker] at isOther
      exact Object.key_injective isOther
    · exact absurd isForgetting notForgetting

/-- A class whose destructor is its own one and does not forget objects. -/
def lampClass : Class where
  info := ⟨"Lamp", "Node", false⟩
  disposer := some ⟨"put out", .supplied⟩

/-- The session in which the class is registered and one object has been made and disposed
of. -/
def lampSession : Session :=
  let session : Session := ({} : Session).withCalls (lampClass.callsWith [])
  let made := session.create lampClass.createCallback ⟨7⟩
  made.2.destroy lampClass.destroyCallback ⟨7⟩ made.1

/-- The record of an object can outlive it. -/
theorem exists_record_without_living :
    Reaches [lampClass] lampSession [] ∧ lampSession.instances.keys = ["7"] ∧
      ¬ RecordsLiving lampSession [] := by
  have isRegistered : Reaches [lampClass] (({} : Session).withCalls (lampClass.callsWith [])) [] :=
    .register .start (List.mem_singleton.mpr rfl) rfl
  have received : .registerClass false "Lamp" "Node" lampClass.createCallback
      lampClass.destroyCallback ∈ (({} : Session).withCalls (lampClass.callsWith [])).calls := by
    simp [Session.withCalls, Class.callsWith, lampClass]
  have made := isRegistered.create received ⟨7⟩ (by simp)
  have keys : lampSession.instances.keys = ["7"] := rfl
  refine ⟨made.destroy List.mem_cons_self, keys, ?_⟩
  intro records
  rcases (records "7").mp (by simp [keys]) with ⟨_, member, _⟩
  cases member

end NativeScript.Native
