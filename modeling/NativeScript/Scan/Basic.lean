import NativeScript.Scan.Event

/-!
# Scans

A scan pairs an outcome with the events that led to it.  Scans run one after the
other: the events of both are kept in order, and the first error ends the run.
The outcome of a combined scan depends on the outcomes of its parts alone.
-/

namespace NativeScript

/-- An outcome, which is a value or the defect at which the scan stopped, and
the events before it. -/
structure Scan (α : Type) where
  events : List Scan.Event
  outcome : Except ScanError α

namespace Scan

variable {α β : Type}

@[ext]
theorem ext {first second : Scan α} (events : first.events = second.events)
    (outcome : first.outcome = second.outcome) : first = second := by
  cases first
  cases second
  simp_all

/-- A value without events. -/
def pure (value : α) : Scan α := ⟨[], .ok value⟩

/-- Run a scan, and with its value, if it has one, another. -/
def bind (first : Scan α) (next : α → Scan β) : Scan β :=
  match first.outcome with
  | .error error => ⟨first.events, .error error⟩
  | .ok value => ⟨first.events ++ (next value).events, (next value).outcome⟩

instance : Monad Scan where
  pure := pure
  bind := bind

/-- Tell one event. -/
def tell (event : Event) : Scan Unit := ⟨[event], .ok ()⟩

/-- Tell several events, in order. -/
def tellAll (events : List Event) : Scan Unit := ⟨events, .ok ()⟩

/-- An outcome without events. -/
def ofExcept (outcome : Except ScanError α) : Scan α := ⟨[], outcome⟩

/-- Stop at a defect. -/
def fail (error : ScanError) : Scan α := ⟨[], .error error⟩

/-! ## The outcome of combined scans -/

@[simp]
theorem outcome_pure (value : α) : (Pure.pure value : Scan α).outcome = .ok value := rfl

@[simp]
theorem outcome_bind (first : Scan α) (next : α → Scan β) :
    (first >>= next).outcome = first.outcome >>= fun value => (next value).outcome := by
  simp only [Bind.bind, bind, Except.bind]
  cases first.outcome <;> rfl

@[simp]
theorem outcome_tell (event : Event) : (tell event).outcome = .ok () := rfl

@[simp]
theorem outcome_tellAll (events : List Event) : (tellAll events).outcome = .ok () := rfl

@[simp]
theorem outcome_ofExcept (outcome : Except ScanError α) : (ofExcept outcome).outcome = outcome :=
  rfl

/-! ## The events of combined scans -/

@[simp]
theorem events_tell (event : Event) : (tell event).events = [event] := rfl

/-- After a scan with a value, the events of the next one follow. -/
theorem events_bind_of_ok {first : Scan α} {value : α} (next : α → Scan β)
    (ok : first.outcome = .ok value) :
    (first >>= next).events = first.events ++ (next value).events := by
  simp [Bind.bind, bind, ok]

instance : LawfulMonad Scan :=
  LawfulMonad.mk' Scan
    (by
      rintro α ⟨events, _ | value⟩ <;> simp [Functor.map, bind, pure])
    (by
      intro α β value next
      simp [Bind.bind, Pure.pure, bind, pure])
    (by
      rintro α β γ ⟨events, _ | value⟩ next last
      · simp [Bind.bind, bind]
      · simp only [Bind.bind, bind]
        cases (next value).outcome <;> simp)

end Scan

end NativeScript
