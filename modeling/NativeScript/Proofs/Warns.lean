import NativeScript.Proofs.Outcome

/-!
# Scans that warn

A scan that has a value tells the events of its parts one after the other.  `Warns` says
which warnings are among them, and what holds of the value; its rules carry it through
sequences, traversals and loops.
-/

namespace NativeScript.Scan

variable {α β : Type}

/-- The warnings among events, in order. -/
def warningsAmong (events : List Event) : List Event :=
  events.filter fun event => event.report.isWarning

@[simp]
theorem warningsAmong_append (first second : List Event) :
    warningsAmong (first ++ second) = warningsAmong first ++ warningsAmong second :=
  List.filter_append first second

/-- A scan that has a value has one that `holds`, and has warned of this before. -/
def Warns (scan : Scan α) (holds : α → Prop) (warnings : List Event) : Prop :=
  ∀ value, scan.outcome = .ok value → holds value ∧ warningsAmong scan.events = warnings

/-! ## Rules -/

namespace Warns

variable {scan : Scan α} {holds other : α → Prop} {last : β → Prop}
  {warnings later : List Event}

theorem pure {value : α} (isHeld : holds value) :
    Warns (Pure.pure value : Scan α) holds [] := by
  intro result isOk
  cases isOk
  exact ⟨isHeld, rfl⟩

theorem ofExcept {outcome : Except ScanError α}
    (held : ∀ value, outcome = .ok value → holds value) :
    Warns (Scan.ofExcept outcome) holds [] := by
  intro value isOk
  exact ⟨held value isOk, rfl⟩

theorem fail (error : ScanError) : Warns (Scan.fail error : Scan α) holds warnings := by
  intro value isOk
  cases isOk

theorem tellAll (events : List Event) :
    Warns (Scan.tellAll events) (fun _ => True) (warningsAmong events) := by
  intro value isOk
  exact ⟨trivial, rfl⟩

/-- An event that is no warning may be told. -/
theorem tell {event : Event} (progress : event.report.isWarning = false) :
    Warns (Scan.tell event) (fun _ => True) [] := by
  intro value isOk
  refine ⟨trivial, ?_⟩
  simp [warningsAmong, progress]

theorem weaken (warns : Warns scan holds warnings) (weaker : ∀ value, holds value → other value) :
    Warns scan other warnings := by
  intro value isOk
  obtain ⟨isHeld, told⟩ := warns value isOk
  exact ⟨weaker value isHeld, told⟩

/-- The second part of a sequence warns after the first one. -/
theorem bind {first : Scan α} {next : α → Scan β} (warns : Warns first holds warnings)
    (warnsNext : ∀ value, holds value → Warns (next value) last later) :
    Warns (first >>= next) last (warnings ++ later) := by
  intro result isOk
  rw [outcome_bind] at isOk
  cases outcome : first.outcome with
  | error error =>
      rw [outcome] at isOk
      cases isOk
  | ok value =>
      rw [outcome, Outcome.ok_bind] at isOk
      obtain ⟨isHeld, told⟩ := warns value outcome
      obtain ⟨isLast, toldLater⟩ := warnsNext value isHeld result isOk
      refine ⟨isLast, ?_⟩
      rw [events_bind_of_ok next outcome, warningsAmong_append, told, toldLater]

/-- A part that does not warn may come first. -/
theorem silent_bind {first : Scan α} {next : α → Scan β} (warns : Warns first holds [])
    (warnsNext : ∀ value, holds value → Warns (next value) last later) :
    Warns (first >>= next) last later :=
  warns.bind warnsNext

/-- A part that does not warn may come last. -/
theorem bind_silent {first : Scan α} {next : α → Scan β} (warns : Warns first holds warnings)
    (silentNext : ∀ value, holds value → Warns (next value) last []) :
    Warns (first >>= next) last warnings := by
  have warnsBoth := warns.bind silentNext
  rwa [List.append_nil] at warnsBoth

/-- A loop warns of what each of its steps warns of, if this does not depend on the state
as long as an invariant holds. -/
theorem foldlM {step : β → α → Scan β} {invariant : β → Prop} {told : α → List Event}
    (warnsStep : ∀ state item, invariant state → Warns (step state item) invariant (told item))
    (items : List α) {start : β} (holdsAtStart : invariant start) :
    Warns (items.foldlM step start) invariant (items.flatMap told) := by
  induction items generalizing start with
  | nil => exact pure holdsAtStart
  | cons item items ih =>
      rw [List.foldlM_cons, List.flatMap_cons]
      exact (warnsStep start item holdsAtStart).bind fun state isHeld => ih isHeld

/-- A loop whose steps do not warn does not warn. -/
theorem silent_foldlM {step : β → α → Scan β} {invariant : β → Prop}
    (silentStep : ∀ state item, invariant state → Warns (step state item) invariant [])
    (items : List α) {start : β} (holdsAtStart : invariant start) :
    Warns (items.foldlM step start) invariant [] := by
  have warnsAll := foldlM silentStep items holdsAtStart
  rwa [List.flatMap_eq_nil_iff.mpr fun _ _ => rfl] at warnsAll

/-- A traversal warns of what each of its items warns of. -/
theorem mapM {read : α → Scan β} {told : α → List Event} (items : List α)
    (warnsItem : ∀ item ∈ items, Warns (read item) (fun _ => True) (told item)) :
    Warns (items.mapM read) (fun _ => True) (items.flatMap told) := by
  induction items with
  | nil => exact pure trivial
  | cons item items ih =>
      rw [List.mapM_cons, List.flatMap_cons]
      have warnsRest := ih fun other member => warnsItem other (List.mem_cons_of_mem item member)
      apply (warnsItem item List.mem_cons_self).bind
      intro value _
      exact warnsRest.bind_silent fun values _ => pure trivial

end Warns

end NativeScript.Scan
