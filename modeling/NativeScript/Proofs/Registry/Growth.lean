import NativeScript.Proofs.Signal

/-!
# Growing classes

A class is changed by setting its name, its tool flag, its constructor and its destructor and
by adding members.  Whatever the changes, a slot that is set stays as it is, members are only
appended, and of the signals of a field the first one stays.
-/

namespace NativeScript.Entry.Class

/-! ## Changes of a class -/

/-- A change of a class. -/
inductive Change where
  | rename (name : String)
  | setTool (tool : Bool)
  | setConstructor (maker : Constructor)
  | setDestructor (disposer : Destructor)
  | addMethod (method : Method)
  | addProperty (property : Property)
  | addSignal (signal : Signal)

namespace Change

/-- A changed class, or why the change is refused. -/
def apply (entry : Class) : Change → Except ScanError Class
  | rename name => .ok { entry with name }
  | setTool tool => .ok { entry with tool }
  | setConstructor maker => entry.setConstructor maker
  | setDestructor disposer => entry.setDestructor disposer
  | addMethod method => .ok (entry.addMethod method)
  | addProperty property => .ok (entry.addProperty property)
  | addSignal signal => .ok (entry.addSignal signal)

/-- A class after a change, which leaves it alone if it is refused. -/
def attempt (entry : Class) (change : Change) : Class :=
  match change.apply entry with
  | .ok changed => changed
  | .error _ => entry

theorem attempt_of_eq_ok {entry changed : Class} {change : Change}
    (isOk : change.apply entry = .ok changed) : change.attempt entry = changed := by
  rw [attempt, isOk]

theorem attempt_of_eq_error {entry : Class} {change : Change} {error : ScanError}
    (refused : change.apply entry = .error error) : change.attempt entry = entry := by
  rw [attempt, refused]

end Change

/-! ## Growing classes -/

/-- What changes leave of a class.  Its constructor and destructor stay once they are set, its
members are only appended to, and of the signals of a field the first one stays. -/
structure Grows (entry later : Class) : Prop where
  base : later.base = entry.base
  exposedAs : later.exposedAs = entry.exposedAs
  maker : ∀ maker, entry.maker = some maker → later.maker = some maker
  disposer : ∀ disposer, entry.disposer = some disposer → later.disposer = some disposer
  methods : entry.methods <+: later.methods
  properties : entry.properties <+: later.properties
  signals : entry.signals <+: later.signals
  fields : (entry.signals.map Signal.field).Nodup → (later.signals.map Signal.field).Nodup

namespace Grows

variable {entry middle later : Class}

theorem refl (entry : Class) : entry.Grows entry where
  base := rfl
  exposedAs := rfl
  maker := fun _ isSet => isSet
  disposer := fun _ isSet => isSet
  methods := List.prefix_refl _
  properties := List.prefix_refl _
  signals := List.prefix_refl _
  fields := id

theorem trans (first : entry.Grows middle) (second : middle.Grows later) :
    entry.Grows later where
  base := second.base.trans first.base
  exposedAs := second.exposedAs.trans first.exposedAs
  maker := fun maker isSet => second.maker maker (first.maker maker isSet)
  disposer := fun disposer isSet => second.disposer disposer (first.disposer disposer isSet)
  methods := first.methods.trans second.methods
  properties := first.properties.trans second.properties
  signals := first.signals.trans second.signals
  fields := second.fields ∘ first.fields

end Grows

theorem prefix_keepFirst (signals : List Signal) (signal : Signal) :
    signals <+: keepFirst signals signal := by
  unfold keepFirst
  split
  · exact List.prefix_refl _
  · exact List.prefix_append _ _

theorem grows_addSignal (entry : Class) (signal : Signal) :
    entry.Grows (entry.addSignal signal) := by
  rw [addSignal_eq]
  exact { Grows.refl entry with
    signals := prefix_keepFirst _ _
    fields := fun distinct => Scan.nodup_fields_keepFirst distinct signal }

/-- No change takes anything from a class. -/
theorem grows_of_apply_eq_ok {entry changed : Class} {change : Change}
    (isOk : change.apply entry = .ok changed) : entry.Grows changed := by
  cases change with
  | rename name =>
      obtain rfl := Except.ok.inj isOk
      exact { Grows.refl entry with }
  | setTool tool =>
      obtain rfl := Except.ok.inj isOk
      exact { Grows.refl entry with }
  | setConstructor maker =>
      rw [Change.apply, setConstructor] at isOk
      cases isSet : entry.maker with
      | some first => simp [isSet] at isOk
      | none =>
          simp only [isSet, Except.ok.injEq] at isOk
          subst isOk
          exact { Grows.refl entry with maker := by simp [isSet] }
  | setDestructor disposer =>
      rw [Change.apply, setDestructor] at isOk
      cases isSet : entry.disposer with
      | some first => simp [isSet] at isOk
      | none =>
          simp only [isSet, Except.ok.injEq] at isOk
          subst isOk
          exact { Grows.refl entry with disposer := by simp [isSet] }
  | addMethod method =>
      obtain rfl := Except.ok.inj isOk
      exact { Grows.refl entry with methods := List.prefix_append _ _ }
  | addProperty property =>
      obtain rfl := Except.ok.inj isOk
      exact { Grows.refl entry with properties := List.prefix_append _ _ }
  | addSignal signal =>
      obtain rfl := Except.ok.inj isOk
      exact grows_addSignal entry signal

end NativeScript.Entry.Class
