import NativeScript.Proofs.Registry.Growth

/-!
# The index of a registry

A registry is changed by inserting classes and by changing the class under a key.  Its keys
are distinct and lead one-to-one to the positions of its classes, and every operation keeps
them so.
-/

namespace NativeScript.Registry

open Entry.Class (Change)

/-! ## Operations -/

/-- An operation on a registry. -/
inductive Operation where
  | insert (entry : Entry.Class)
  /-- Change the class that was inserted under a name. -/
  | change (key : String) (change : Change)

/-- How an operation ends. -/
inductive Answer where
  | done
  /-- No class was inserted under the name. -/
  | missing
  | refused (error : ScanError)

/-- The registry after an operation, and how the operation ends. -/
def step (registry : Registry) : Operation → Registry × Answer
  | .insert entry =>
      match registry.insert entry with
      | .ok registry => (registry, .done)
      | .error error => (registry, .refused error)
  | .change key change =>
      match registry.get? key with
      | none => (registry, .missing)
      | some entry =>
          match change.apply entry with
          | .ok changed => (registry.set key changed, .done)
          | .error error => (registry, .refused error)

/-- The registry after several operations. -/
def run (registry : Registry) (operations : List Operation) : Registry :=
  operations.foldl (fun registry operation => (registry.step operation).1) registry

/-- A registry with one more class. -/
def push (registry : Registry) (entry : Entry.Class) : Registry :=
  ⟨registry.classes ++ [entry], registry.index ++ [(entry.name, registry.size)]⟩

variable {registry : Registry} {entry changed : Entry.Class} {key : String} {change : Change}

theorem run_append (registry : Registry) (first second : List Operation) :
    registry.run (first ++ second) = (registry.run first).run second :=
  List.foldl_append

theorem run_cons (registry : Registry) (operation : Operation) (operations : List Operation) :
    registry.run (operation :: operations) = (registry.step operation).1.run operations :=
  rfl

theorem insert_of_contains (taken : registry.contains entry.name = true) :
    registry.insert entry = .error (.duplicateClass entry.name) :=
  if_pos taken

theorem insert_of_not_contains (free : registry.contains entry.name = false) :
    registry.insert entry = .ok (registry.push entry) :=
  if_neg (Bool.not_eq_true _ ▸ free)

theorem step_insert_of_contains (taken : registry.contains entry.name = true) :
    registry.step (.insert entry) = (registry, .refused (.duplicateClass entry.name)) := by
  rw [step, insert_of_contains taken]

theorem step_insert_of_not_contains (free : registry.contains entry.name = false) :
    registry.step (.insert entry) = (registry.push entry, .done) := by
  rw [step, insert_of_not_contains free]

theorem step_change_of_eq_none (missing : registry.get? key = none) :
    registry.step (.change key change) = (registry, .missing) := by
  rw [step, missing]

theorem step_change_of_eq_ok (found : registry.get? key = some entry)
    (isOk : change.apply entry = .ok changed) :
    registry.step (.change key change) = (registry.set key changed, .done) := by
  simp only [step, found, isOk]

theorem step_change_of_eq_error {error : ScanError} (found : registry.get? key = some entry)
    (refused : change.apply entry = .error error) :
    registry.step (.change key change) = (registry, .refused error) := by
  simp only [step, found, refused]

/-- An operation leaves a registry alone, inserts a class under a name that is free, or
replaces a class by a changed one. -/
theorem step_cases (registry : Registry) (operation : Operation) :
    (registry.step operation).1 = registry ∨
    (∃ entry, operation = .insert entry ∧ registry.contains entry.name = false ∧
      (registry.step operation).1 = registry.push entry) ∨
    ∃ key change entry changed, operation = .change key change ∧
      registry.get? key = some entry ∧ change.apply entry = .ok changed ∧
      (registry.step operation).1 = registry.set key changed := by
  cases operation with
  | insert entry =>
      cases taken : registry.contains entry.name with
      | true => exact Or.inl (by rw [step_insert_of_contains taken])
      | false =>
          have pushed := congrArg Prod.fst (step_insert_of_not_contains taken)
          exact Or.inr (Or.inl ⟨entry, rfl, taken, pushed⟩)
  | change key change =>
      cases found : registry.get? key with
      | none => exact Or.inl (by rw [step_change_of_eq_none found])
      | some entry =>
          cases outcome : change.apply entry with
          | error error => exact Or.inl (by rw [step_change_of_eq_error found outcome])
          | ok changed =>
              have replaced := congrArg Prod.fst (step_change_of_eq_ok found outcome)
              exact Or.inr (Or.inr ⟨key, change, entry, changed, rfl, found, outcome, replaced⟩)

/-! ## Positions -/

theorem position?_eq_none (free : registry.contains key = false) :
    registry.position? key = none :=
  Option.isNone_iff_eq_none.mp (Option.isSome_eq_false_iff.mp free)

theorem position?_push (free : registry.contains entry.name = false) (key : String) :
    (registry.push entry).position? key =
      if key = entry.name then some registry.size else registry.position? key := by
  rw [position?, push, List.lookup_append]
  by_cases same : key = entry.name
  · have none := position?_eq_none free
    rw [position?] at none
    simp [same, none]
  · have differs : (key == entry.name) = false := by simp [same]
    rw [if_neg same, List.lookup_cons, differs]
    exact Option.or_none

@[simp]
theorem position?_set (registry : Registry) (key other : String) (entry : Entry.Class) :
    (registry.set key entry).position? other = registry.position? other := by
  unfold set
  split <;> rfl

@[simp]
theorem size_set (registry : Registry) (key : String) (entry : Entry.Class) :
    (registry.set key entry).size = registry.size := by
  unfold set
  split
  · rfl
  · exact List.length_set

theorem getElem?_classes_set {position : Nat} (isAt : registry.position? key = some position)
    (entry : Entry.Class) (other : Nat) :
    (registry.set key entry).classes[other]? =
      if position = other then
        if position < registry.size then some entry else none
      else registry.classes[other]? := by
  rw [set, isAt]
  exact List.getElem?_set

theorem get?_of_position? {position : Nat} (isAt : registry.position? key = some position) :
    registry.get? key = registry.classes[position]? := by
  rw [get?, isAt, Option.bind_some]

theorem exists_position?_of_get? (found : registry.get? key = some entry) :
    ∃ position, registry.position? key = some position ∧
      registry.classes[position]? = some entry :=
  Option.bind_eq_some_iff.mp found

theorem keys_push (registry : Registry) (entry : Entry.Class) :
    (registry.push entry).keys = registry.keys ++ [entry.name] := by
  rw [keys, push, List.map_append]
  rfl

@[simp]
theorem keys_set (registry : Registry) (key : String) (entry : Entry.Class) :
    (registry.set key entry).keys = registry.keys := by
  unfold set
  split <;> rfl

theorem contains_of_mem_keys (member : key ∈ registry.keys) : registry.contains key = true := by
  cases isFree : registry.contains key with
  | true => rfl
  | false =>
      obtain ⟨⟨name, position⟩, inside, rfl⟩ := List.mem_map.mp member
      have differs := List.lookup_eq_none_iff.mp (position?_eq_none isFree) _ inside
      simp at differs

/-! ## The index -/

/-- An index without a key twice, whose keys lead one-to-one to the positions of the classes. -/
structure Indexed (registry : Registry) : Prop where
  distinct : registry.keys.Nodup
  /-- No key leads past the classes. -/
  inside : ∀ key position, registry.position? key = some position → position < registry.size
  /-- Every position has a key. -/
  covered : ∀ position < registry.size, ∃ key, registry.position? key = some position
  /-- No two keys lead to one position. -/
  single : ∀ first second position, registry.position? first = some position →
    registry.position? second = some position → first = second

theorem indexed_empty : empty.Indexed where
  distinct := List.nodup_nil
  inside := nofun
  covered := fun position before => absurd before (Nat.not_lt_zero position)
  single := nofun

theorem size_push (registry : Registry) (entry : Entry.Class) :
    (registry.push entry).size = registry.size + 1 :=
  List.length_append

theorem Indexed.push (indexed : registry.Indexed)
    (free : registry.contains entry.name = false) : (registry.push entry).Indexed where
  distinct := by
    have isNew : entry.name ∉ registry.keys := fun member =>
      Bool.false_ne_true (free.symm.trans (contains_of_mem_keys member))
    rw [keys_push, ← List.concat_eq_append]
    exact indexed.distinct.concat isNew
  inside := by
    intro key position isAt
    rw [position?_push free] at isAt
    rw [size_push]
    split at isAt
    · rw [← Option.some.inj isAt]
      exact Nat.lt_succ_self _
    · exact Nat.lt_succ_of_lt (indexed.inside key position isAt)
  covered := by
    intro position before
    rw [size_push] at before
    rcases Nat.lt_succ_iff_lt_or_eq.mp before with earlier | rfl
    · obtain ⟨key, isAt⟩ := indexed.covered position earlier
      refine ⟨key, ?_⟩
      rw [position?_push free, if_neg ?_, isAt]
      rintro rfl
      rw [position?_eq_none free] at isAt
      cases isAt
    · exact ⟨entry.name, by rw [position?_push free, if_pos rfl]⟩
  single := by
    intro first second position isFirst isSecond
    rw [position?_push free] at isFirst isSecond
    -- The position of the new class is past those of all others.
    split at isFirst <;> split at isSecond
    · rename_i sameFirst sameSecond
      rw [sameFirst, sameSecond]
    · cases isFirst
      exact absurd (indexed.inside second _ isSecond) (Nat.lt_irrefl _)
    · cases isSecond
      exact absurd (indexed.inside first _ isFirst) (Nat.lt_irrefl _)
    · exact indexed.single first second position isFirst isSecond

theorem Indexed.set (indexed : registry.Indexed) (key : String) (entry : Entry.Class) :
    (registry.set key entry).Indexed where
  distinct := by
    rw [keys_set]
    exact indexed.distinct
  inside := by simpa only [position?_set, size_set] using indexed.inside
  covered := by simpa only [position?_set, size_set] using indexed.covered
  single := by simpa using indexed.single

theorem Indexed.step (indexed : registry.Indexed) (operation : Operation) :
    (registry.step operation).1.Indexed := by
  rcases step_cases registry operation with same | ⟨entry, _, free, pushed⟩ |
    ⟨key, _, _, changed, _, _, _, replaced⟩
  · rwa [same]
  · rw [pushed]
    exact indexed.push free
  · rw [replaced]
    exact indexed.set key changed

theorem Indexed.run (indexed : registry.Indexed) (operations : List Operation) :
    (registry.run operations).Indexed := by
  induction operations generalizing registry with
  | nil => exact indexed
  | cons operation operations ih => exact ih (indexed.step operation)

/-- The index only has keys of classes. -/
theorem Indexed.isSome_get? (indexed : registry.Indexed) (key : String) :
    (registry.get? key).isSome = registry.contains key := by
  cases isAt : registry.position? key with
  | none => simp [get?, contains, isAt]
  | some position =>
      have isInside := indexed.inside key position isAt
      rw [get?_of_position? isAt, contains, isAt]
      exact (isSome_getElem? _ _).mpr isInside

end NativeScript.Registry
