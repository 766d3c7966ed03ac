import Mathlib.Data.List.Forall2
import NativeScript.Scan.Basic

/-!
# Exact outcomes

A part of a scan is described by two things: the condition under which it has a
value, and that value.  `Exact` states both at once.  The rules below carry such
descriptions through sequences, traversals and loops, so that each function of a
scan needs one description and its callers never open it.
-/

namespace NativeScript.Outcome

variable {ε α β : Type}

/-! ## Combined outcomes -/

@[simp]
theorem ok_bind (value : α) (next : α → Except ε β) : (Except.ok value >>= next) = next value :=
  rfl

@[simp]
theorem error_bind (error : ε) (next : α → Except ε β) :
    ((Except.error error : Except ε α) >>= next) = .error error :=
  rfl

@[simp]
theorem map_ok (change : α → β) (value : α) :
    (Except.ok value : Except ε α).map change = .ok (change value) :=
  rfl

/-- A change of the last value of a sequence is one of its second part. -/
theorem map_bind {γ : Type} (outcome : Except ε α) (next : α → Except ε β) (change : β → γ) :
    (outcome >>= next).map change = outcome >>= fun value => (next value).map change := by
  cases outcome <;> rfl

/-- A loop whose steps commute with a change of the state commutes with it as a
whole. -/
theorem foldlM_change {step : β → α → Except ε β} {change : β → β}
    (commutes : ∀ state item, step (change state) item = (step state item).map change)
    (items : List α) (start : β) :
    items.foldlM step (change start) = (items.foldlM step start).map change := by
  induction items generalizing start with
  | nil => rfl
  | cons item items ih =>
      rw [List.foldlM_cons, List.foldlM_cons, commutes]
      cases step start item with
      | error error => rfl
      | ok state => exact ih state

/-! ## Failures -/

theorem bind_eq_error_iff {outcome : Except ε α} {next : α → Except ε β} {error : ε} :
    (outcome >>= next) = .error error ↔
      outcome = .error error ∨ ∃ value, outcome = .ok value ∧ next value = .error error := by
  cases outcome <;> simp

theorem map_eq_error_iff {outcome : Except ε α} {change : α → β} {error : ε} :
    outcome.map change = .error error ↔ outcome = .error error := by
  cases outcome <;> simp [Except.map]

theorem map_eq_ok_iff {outcome : Except ε α} {change : α → β} {result : β} :
    outcome.map change = .ok result ↔ ∃ value, outcome = .ok value ∧ change value = result := by
  cases outcome <;> simp [Except.map]

/-- A traversal has the values of its items, in order. -/
theorem mapM_eq_ok_iff {read : α → Except ε β} {items : List α} {values : List β} :
    items.mapM read = .ok values ↔
      List.Forall₂ (fun item value => read item = .ok value) items values := by
  induction items generalizing values with
  | nil => simp [Pure.pure, Except.pure, eq_comm (a := [])]
  | cons item items ih =>
      rw [List.mapM_cons, List.forall₂_cons_left_iff]
      cases read item with
      | error error => simp
      | ok value =>
          cases later : items.mapM read with
          | error error => simp [← ih, later]
          | ok others => simp [← ih, later, Pure.pure, Except.pure, eq_comm]

/-- A traversal fails as the first of its items that does. -/
theorem mapM_eq_error_iff {read : α → Except ε β} {items : List α} {error : ε} :
    items.mapM read = .error error ↔
      ∃ before item after, items = before ++ item :: after ∧
        (∀ other ∈ before, ∃ value, read other = .ok value) ∧ read item = .error error := by
  constructor
  · intro failed
    induction items with
    | nil => cases failed
    | cons item items ih =>
        rw [List.mapM_cons, bind_eq_error_iff] at failed
        rcases failed with first | ⟨value, isOk, later⟩
        · exact ⟨[], item, items, rfl, by simp, first⟩
        · rcases bind_eq_error_iff.mp later with further | ⟨values, _, isPure⟩
          · obtain ⟨before, other, after, rfl, areOk, fails⟩ := ih further
            exact ⟨item :: before, other, after, rfl,
              List.forall_mem_cons.mpr ⟨⟨value, isOk⟩, areOk⟩, fails⟩
          · cases isPure
  · rintro ⟨before, item, after, rfl, areOk, fails⟩
    induction before with
    | nil => rw [List.nil_append, List.mapM_cons, fails, error_bind]
    | cons other before ih =>
        obtain ⟨⟨value, isOk⟩, areOk⟩ := List.forall_mem_cons.mp areOk
        rw [List.cons_append, List.mapM_cons, isOk, ok_bind, ih areOk, error_bind]

/-- A traversal that fails does so as one of its items. -/
theorem exists_of_mapM_eq_error {read : α → Except ε β} {items : List α} {error : ε}
    (failed : items.mapM read = .error error) : ∃ item ∈ items, read item = .error error := by
  obtain ⟨before, item, after, rfl, _, fails⟩ := mapM_eq_error_iff.mp failed
  exact ⟨item, by simp, fails⟩

/-- A traversal does not fail exactly if none of its items does. -/
theorem exists_mapM_eq_ok_iff {read : α → Except ε β} {items : List α} :
    (∃ values, items.mapM read = .ok values) ↔ ∀ item ∈ items, ∃ value, read item = .ok value := by
  constructor
  · rintro ⟨values, isOk⟩
    have reads := mapM_eq_ok_iff.mp isOk
    clear isOk
    induction reads with
    | nil => simp
    | cons isOk _ ih => exact List.forall_mem_cons.mpr ⟨⟨_, isOk⟩, ih⟩
  · intro areOk
    cases outcome : items.mapM read with
    | ok values => exact ⟨values, rfl⟩
    | error error =>
        obtain ⟨item, member, fails⟩ := exists_of_mapM_eq_error outcome
        obtain ⟨value, isOk⟩ := areOk item member
        cases fails.symm.trans isOk

/-- A loop that fails does so as one of its steps, in the state that the items before lead
to. -/
theorem exists_of_foldlM_eq_error {step : β → α → Except ε β} {items : List α} {start : β}
    {error : ε} (failed : items.foldlM step start = .error error) :
    ∃ before item after state, items = before ++ item :: after ∧
      before.foldlM step start = .ok state ∧ step state item = .error error := by
  induction items generalizing start with
  | nil => cases failed
  | cons item items ih =>
      rw [List.foldlM_cons, bind_eq_error_iff] at failed
      rcases failed with first | ⟨state, isOk, later⟩
      · exact ⟨[], item, items, start, rfl, rfl, first⟩
      · rcases ih later with ⟨before, other, after, last, rfl, isLast, fails⟩
        refine ⟨item :: before, other, after, last, rfl, ?_, fails⟩
        rw [List.foldlM_cons, isOk, ok_bind]
        exact isLast

/-- A traversal that changes each of its values changes the list of them. -/
theorem mapM_map {γ : Type} (read : α → Except ε β) (change : β → γ) (items : List α) :
    (items.mapM fun item => (read item).map change) =
      (items.mapM read).map (List.map change) := by
  induction items with
  | nil => rfl
  | cons item items ih =>
      rw [List.mapM_cons, List.mapM_cons, map_bind, ih]
      cases read item with
      | error error => rfl
      | ok value => cases items.mapM read <;> rfl

/-! ## Exactness -/

/-- An outcome is a value exactly if it is `accepted`, and then it is `value`. -/
def Exact (outcome : Except ε α) (accepted : Prop) (value : α) : Prop :=
  ∀ result, outcome = .ok result ↔ accepted ∧ result = value

namespace Exact

variable {first : Except ε α} {accepted admitted : Prop} {value : α}

/-- Some value comes out exactly if the outcome is accepted. -/
theorem exists_iff (exact : Exact first accepted value) :
    (∃ result, first = .ok result) ↔ accepted := by
  constructor
  · rintro ⟨result, isOk⟩
    exact ((exact result).mp isOk).1
  · intro holds
    exact ⟨value, (exact value).mpr ⟨holds, rfl⟩⟩

/-- An accepted outcome is the described value. -/
theorem eq_ok (exact : Exact first accepted value) (holds : accepted) : first = .ok value :=
  (exact value).mpr ⟨holds, rfl⟩

/-- An outcome that is an error is not accepted. -/
theorem not_of_eq_error (exact : Exact first accepted value) {error : ε}
    (stopped : first = .error error) : ¬ accepted := by
  intro holds
  rw [exact.eq_ok holds] at stopped
  cases stopped

/-- A description may be put into other words. -/
theorem congr {other : α} (exact : Exact first accepted value) (same : accepted ↔ admitted)
    (equal : admitted → value = other) : Exact first admitted other := by
  intro result
  rw [exact result, same]
  exact and_congr_right fun holds => by rw [equal holds]

theorem ok (holds : accepted) : Exact (.ok value : Except ε α) accepted value := by
  intro result
  simp [holds, eq_comm]

theorem error {error : ε} (refused : ¬ accepted) : Exact (.error error) accepted value := by
  intro result
  simp [refused]

/-- The description of a sequence.  The second part is described under the
assumption that the first one is accepted. -/
theorem bind {next : α → Except ε β} {last : β} (exact : Exact first accepted value)
    (exactNext : accepted → Exact (next value) admitted last) :
    Exact (first >>= next) (accepted ∧ admitted) last := by
  intro result
  cases outcome : first with
  | error error =>
      simp [exact.not_of_eq_error outcome]
  | ok found =>
      rcases (exact found).mp outcome with ⟨holds, rfl⟩
      rw [ok_bind, exactNext holds result]
      simp [holds]

/-- The description of a sequence whose second part does not fail. -/
theorem bind_ok {next : α → Except ε β} {last : β} (exact : Exact first accepted value)
    (isOk : next value = .ok last) : Exact (first >>= next) accepted last := by
  have exactBoth : Exact (first >>= next) (accepted ∧ True) last :=
    exact.bind fun _ => isOk ▸ ok trivial
  exact exactBoth.congr (by simp) fun _ => rfl

/-- The description of a changed value. -/
theorem map {change : α → β} (exact : Exact first accepted value) :
    Exact (first.map change) accepted (change value) := by
  cases outcome : first with
  | error error => exact Exact.error (exact.not_of_eq_error outcome)
  | ok found =>
      rcases (exact found).mp outcome with ⟨holds, rfl⟩
      exact ok holds

/-- A traversal is accepted exactly if each of its items is. -/
theorem mapM {read : α → Except ε β} {accepts : α → Prop} {valueOf : α → β}
    (items : List α) (exact : ∀ item ∈ items, Exact (read item) (accepts item) (valueOf item)) :
    Exact (items.mapM read) (∀ item ∈ items, accepts item) (items.map valueOf) := by
  induction items with
  | nil => exact ok (by simp)
  | cons item items ih =>
      rw [List.mapM_cons, List.map_cons]
      have exactItem := exact item List.mem_cons_self
      have exactRest := ih fun other member => exact other (List.mem_cons_of_mem item member)
      have exactAll : Exact
          (read item >>= fun value => items.mapM read >>= fun values =>
            Pure.pure (value :: values))
          (accepts item ∧ (∀ other ∈ items, accepts other) ∧ True)
          (valueOf item :: items.map valueOf) :=
        exactItem.bind fun _ => exactRest.bind fun _ => ok trivial
      exact exactAll.congr (by simp) fun _ => rfl

end Exact

end NativeScript.Outcome

namespace NativeScript.Scan

variable {α β : Type}

/-! ## The outcome of values and loops -/

@[simp]
theorem outcome_value (value : α) : (Scan.pure value).outcome = .ok value :=
  rfl

@[simp]
theorem outcome_foldlM (step : β → α → Scan β) (items : List α) (start : β) :
    (items.foldlM step start).outcome =
      items.foldlM (fun state item => (step state item).outcome) start := by
  induction items generalizing start with
  | nil => rfl
  | cons item items ih =>
      rw [List.foldlM_cons, List.foldlM_cons, outcome_bind]
      exact congrArg _ (funext ih)

@[simp]
theorem outcome_mapM (read : α → Scan β) (items : List α) :
    (items.mapM read).outcome = items.mapM fun item => (read item).outcome := by
  induction items with
  | nil => rfl
  | cons item items ih =>
      rw [List.mapM_cons, List.mapM_cons, outcome_bind]
      simp only [outcome_bind, ih, outcome_pure]
      rfl

end NativeScript.Scan
