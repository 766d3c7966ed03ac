import Mathlib.Data.List.Lex
import Mathlib.Data.List.Nodup
import Mathlib.Data.Prod.Lex

/-!
# Lists in the order of places

What a scan collects is a list, and what it should collect is told by where things stand:
a field at an index, a literal at an address in a tree.  A list is in order if it holds
what occurs at some place, sorted by the places and once for each of them.  The rules
below build such lists up from their parts.
-/

namespace NativeScript

variable {Place Inner α β : Type}

/-- The values are all that occurs, in the order of the places and once for each place. -/
def InOrder [LT Place] (occurs : Place → α → Prop) (values : List α) : Prop :=
  ∃ entries : List (Place × α),
    entries.Pairwise (fun first second => first.1 < second.1) ∧
    (∀ place value, (place, value) ∈ entries ↔ occurs place value) ∧
    entries.map Prod.snd = values

namespace InOrder

variable [LT Place] [LT Inner] {occurs other : Place → α → Prop} {values others : List α}

theorem nil (nowhere : ∀ place value, ¬ occurs place value) : InOrder occurs [] := by
  refine ⟨[], List.Pairwise.nil, ?_, rfl⟩
  intro place value
  simp [nowhere]

theorem mem_of_occurs (inOrder : InOrder occurs values) {place : Place} {value : α}
    (isFound : occurs place value) : value ∈ values := by
  obtain ⟨entries, _, mem_iff, rfl⟩ := inOrder
  exact List.mem_map.mpr ⟨(place, value), (mem_iff place value).mpr isFound, rfl⟩

theorem mem_iff (inOrder : InOrder occurs values) {value : α} :
    value ∈ values ↔ ∃ place, occurs place value := by
  constructor
  · intro member
    obtain ⟨entries, _, mem_iff, rfl⟩ := inOrder
    obtain ⟨⟨place, _⟩, isEntry, rfl⟩ := List.mem_map.mp member
    exact ⟨place, (mem_iff _ _).mp isEntry⟩
  · rintro ⟨place, isFound⟩
    exact inOrder.mem_of_occurs isFound

/-- What occurs may be put into other words. -/
theorem congr (inOrder : InOrder occurs values)
    (same : ∀ place value, occurs place value ↔ other place value) : InOrder other values := by
  obtain ⟨entries, sorted, mem_iff, rfl⟩ := inOrder
  exact ⟨entries, sorted, fun place value => (mem_iff place value).trans (same place value), rfl⟩

theorem singleton (place : Place) (value : α) :
    InOrder (fun here found => here = place ∧ found = value) [value] := by
  refine ⟨[(place, value)], List.pairwise_singleton _ _, ?_, rfl⟩
  intro here found
  simp

/-- Lists follow each other if their places do. -/
theorem append (first : InOrder occurs values) (second : InOrder other others)
    (before : ∀ place later value following, occurs place value → other later following →
      place < later) :
    InOrder (fun place value => occurs place value ∨ other place value) (values ++ others) := by
  obtain ⟨entries, sorted, mem_iff, rfl⟩ := first
  obtain ⟨laterEntries, sortedLater, mem_later_iff, rfl⟩ := second
  refine ⟨entries ++ laterEntries, ?_, ?_, List.map_append⟩
  · apply List.pairwise_append.mpr
    refine ⟨sorted, sortedLater, ?_⟩
    rintro ⟨place, value⟩ member ⟨later, following⟩ memberLater
    exact before place later value following ((mem_iff _ _).mp member)
      ((mem_later_iff _ _).mp memberLater)
  · intro place value
    rw [List.mem_append, mem_iff, mem_later_iff]

/-- Places may be moved as long as they keep their order. -/
theorem moved (inOrder : InOrder occurs values) (move : Place → Inner)
    (strict : ∀ first second, first < second → move first < move second) :
    InOrder (fun place value => ∃ origin, move origin = place ∧ occurs origin value) values := by
  obtain ⟨entries, sorted, mem_iff, rfl⟩ := inOrder
  refine ⟨entries.map fun entry => (move entry.1, entry.2), ?_, ?_, ?_⟩
  · apply List.pairwise_map.mpr
    exact sorted.imp fun {first second} before => strict first.1 second.1 before
  · intro place value
    constructor
    · intro member
      obtain ⟨⟨origin, found⟩, inside, same⟩ := List.mem_map.mp member
      obtain ⟨rfl, rfl⟩ := Prod.mk.inj same
      exact ⟨origin, rfl, (mem_iff origin found).mp inside⟩
    · rintro ⟨origin, rfl, isFound⟩
      exact List.mem_map.mpr ⟨(origin, value), (mem_iff origin value).mpr isFound, rfl⟩
  · rw [List.map_map]
    rfl

/-- The items of a list stand at their indices. -/
theorem ofList (items : List α) :
    InOrder (fun (place : Nat) item => items[place]? = some item) items := by
  refine ⟨items.zipIdx.map Prod.swap, ?_, ?_, ?_⟩
  · have indices : (items.zipIdx.map Prod.snd).Pairwise (· < ·) := by
      rw [List.zipIdx_map_snd]
      exact List.pairwise_lt_range'
    apply List.pairwise_map.mpr
    exact List.pairwise_map.mp indices
  · intro place item
    constructor
    · intro member
      obtain ⟨⟨found, index⟩, inside, same⟩ := List.mem_map.mp member
      obtain ⟨rfl, rfl⟩ := Prod.mk.inj same
      exact List.mem_zipIdx_iff_getElem?.mp inside
    · intro isItem
      exact List.mem_map.mpr ⟨(item, place), List.mem_zipIdx_iff_getElem?.mpr isItem, rfl⟩
  · rw [List.map_map]
    exact List.zipIdx_map_fst 0 items

/-- The other items of a list keep their indices when one is taken out. -/
theorem eraseIdx (items : List α) (taken : Nat) :
    InOrder (fun (place : Nat) item => items[place]? = some item ∧ place ≠ taken)
      (items.eraseIdx taken) := by
  have before : InOrder (fun (place : Nat) item => items[place]? = some item ∧ place < taken)
      (items.take taken) := by
    refine (ofList (items.take taken)).congr fun place item => ?_
    by_cases isBefore : place < taken <;> simp [isBefore]
  have after : InOrder (fun (place : Nat) item => items[place]? = some item ∧ taken < place)
      (items.drop (taken + 1)) := by
    refine ((ofList (items.drop (taken + 1))).moved (taken + 1 + ·) ?_).congr ?_
    · intro first second isBefore
      omega
    · intro place item
      constructor
      · rintro ⟨origin, rfl, isItem⟩
        rw [List.getElem?_drop] at isItem
        exact ⟨isItem, by omega⟩
      · rintro ⟨isItem, isAfter⟩
        refine ⟨place - (taken + 1), by omega, ?_⟩
        rwa [List.getElem?_drop, Nat.add_sub_cancel' isAfter]
  rw [List.eraseIdx_eq_take_drop_succ]
  refine (before.append after ?_).congr ?_
  · rintro place later item following ⟨_, isBefore⟩ ⟨_, isAfter⟩
    exact isBefore.trans isAfter
  · intro place item
    rw [← and_or_left]
    exact and_congr_right fun _ => Nat.lt_or_gt.symm

/-- A value whose key no other value has occurs at one place, and nothing else with this key
occurs anywhere. -/
theorem unique {Key : Type} (inOrder : InOrder occurs values) {key : α → Key}
    (distinct : (values.map key).Nodup) {value : α} (member : value ∈ values) :
    ∃ place, occurs place value ∧
      ∀ other found, occurs other found → key found = key value →
        other = place ∧ found = value := by
  obtain ⟨entries, _, mem_iff, rfl⟩ := inOrder
  obtain ⟨⟨place, _⟩, isEntry, rfl⟩ := List.mem_map.mp member
  rw [List.map_map] at distinct
  refine ⟨place, (mem_iff _ _).mp isEntry, ?_⟩
  intro other found isFound sameKey
  have same := List.inj_on_of_nodup_map distinct ((mem_iff _ _).mpr isFound) isEntry sameKey
  exact Prod.mk.inj same

/-- Of two values in a list, the first one occurs at an earlier place. -/
theorem exists_lt {before after : List α} {earlier value : α}
    (inOrder : InOrder occurs (before ++ value :: after)) (member : earlier ∈ before) :
    ∃ first second, first < second ∧ occurs first earlier ∧ occurs second value := by
  obtain ⟨entries, sorted, mem_iff, split⟩ := inOrder
  obtain ⟨entriesBefore, rest, rfl, rfl, atValue⟩ := List.map_eq_append_iff.mp split
  obtain ⟨⟨second, _⟩, entriesAfter, rfl, rfl, _⟩ := List.map_eq_cons_iff.mp atValue
  obtain ⟨⟨first, _⟩, isEntry, rfl⟩ := List.mem_map.mp member
  rw [List.pairwise_append] at sorted
  exact ⟨first, second, sorted.2.2 _ isEntry _ List.mem_cons_self,
    (mem_iff _ _).mp (List.mem_append_left _ isEntry),
    (mem_iff _ _).mp (List.mem_append_right _ List.mem_cons_self)⟩

/-- What values give stands where the values do. -/
theorem filterMap (inOrder : InOrder occurs values) (change : α → Option β) :
    InOrder (fun place given => ∃ value, occurs place value ∧ change value = some given)
      (values.filterMap change) := by
  obtain ⟨entries, sorted, mem_iff, rfl⟩ := inOrder
  refine ⟨entries.filterMap fun entry => (change entry.2).map (entry.1, ·), ?_, ?_, ?_⟩
  · apply List.pairwise_filterMap.mpr
    apply sorted.imp
    intro first second before entry isFirst entry' isSecond
    obtain ⟨_, _, rfl⟩ := Option.map_eq_some_iff.mp isFirst
    obtain ⟨_, _, rfl⟩ := Option.map_eq_some_iff.mp isSecond
    exact before
  · intro place given
    constructor
    · intro member
      obtain ⟨⟨origin, value⟩, inside, gives⟩ := List.mem_filterMap.mp member
      obtain ⟨result, isGiven, same⟩ := Option.map_eq_some_iff.mp gives
      obtain ⟨rfl, rfl⟩ := Prod.mk.inj same
      exact ⟨value, (mem_iff origin value).mp inside, isGiven⟩
    · rintro ⟨value, isFound, isGiven⟩
      apply List.mem_filterMap.mpr
      refine ⟨(place, value), (mem_iff place value).mpr isFound, ?_⟩
      simp [isGiven]
  · rw [List.map_filterMap, List.filterMap_map]
    apply congrArg (List.filterMap · entries)
    funext entry
    simp [Function.comp_def]

/-- Values that are left out leave their places empty. -/
theorem filter (inOrder : InOrder occurs values) (keeps : α → Bool) :
    InOrder (fun place value => occurs place value ∧ keeps value = true) (values.filter keeps) := by
  rw [← List.filterMap_eq_filter]
  refine (inOrder.filterMap (Option.guard keeps)).congr fun place kept => ?_
  simp only [Option.guard_eq_some_iff]
  constructor
  · rintro ⟨value, isFound, rfl, isKept⟩
    exact ⟨isFound, isKept⟩
  · rintro ⟨isFound, isKept⟩
    exact ⟨kept, isFound, rfl, isKept⟩

/-- Values that give nothing are left out, and the others stand over what they give. -/
theorem exists_forall₂ (inOrder : InOrder occurs values) {change : α → Option β}
    {related : α → β → Prop}
    (each : ∀ value ∈ values, ∀ given, change value = some given → related value given) :
    ∃ kept, InOrder (fun place value => occurs place value ∧ (change value).isSome = true) kept ∧
      List.Forall₂ related kept (values.filterMap change) := by
  refine ⟨_, inOrder.filter fun value => (change value).isSome, ?_⟩
  clear inOrder
  induction values with
  | nil => exact .nil
  | cons value values ih =>
      rw [List.forall_mem_cons] at each
      rw [List.filterMap_cons]
      cases gives : change value with
      | none =>
          rw [List.filter_cons_of_neg (by simp [gives])]
          exact ih each.2
      | some given =>
          rw [List.filter_cons_of_pos (by simp [gives])]
          exact .cons (each.1 given gives) (ih each.2)

/-- A list of lists is in the order of the outer places, and within one of them in that of
the inner ones. -/
theorem flatMap (inOrder : InOrder occurs values) {inside : α → Inner → β → Prop}
    {change : α → List β} (each : ∀ value ∈ values, InOrder (inside value) (change value)) :
    InOrder (fun (place : Place ×ₗ Inner) given =>
        ∃ value, occurs (ofLex place).1 value ∧ inside value (ofLex place).2 given)
      (values.flatMap change) := by
  obtain ⟨entries, sorted, mem_iff, rfl⟩ := inOrder
  -- What occurs is what is among the entries, and these are taken one by one.
  suffices found : InOrder (fun (place : Place ×ₗ Inner) given =>
      ∃ value, ((ofLex place).1, value) ∈ entries ∧ inside value (ofLex place).2 given)
      ((entries.map Prod.snd).flatMap change) from
    found.congr fun place given => by simp only [mem_iff]
  clear mem_iff
  induction entries with
  | nil => exact nil fun place given => by simp
  | cons entry entries ih =>
      obtain ⟨first, value⟩ := entry
      rw [List.pairwise_cons] at sorted
      rw [List.map_cons, List.forall_mem_cons] at each
      rw [List.map_cons, List.flatMap_cons]
      have atFirst := each.1.moved (fun place => toLex (first, place))
        fun place later before => Prod.Lex.toLex_lt_toLex.mpr (Or.inr ⟨rfl, before⟩)
      refine (atFirst.append (ih sorted.2 each.2) ?_).congr ?_
      · rintro _ later given following ⟨place, rfl, _⟩ ⟨other, member, _⟩
        exact Prod.Lex.toLex_lt_toLex.mpr (Or.inl (sorted.1 _ member))
      · intro place given
        simp only [List.mem_cons, Prod.mk.injEq, or_and_right, exists_or]
        apply or_congr_left
        constructor
        · rintro ⟨origin, rfl, isGiven⟩
          exact ⟨value, ⟨rfl, rfl⟩, isGiven⟩
        · rintro ⟨_, ⟨rfl, rfl⟩, isGiven⟩
          exact ⟨(ofLex place).2, rfl, isGiven⟩

/-- What stands in a tree: at the empty address the root's own value, if it has one, and at
a longer address what stands in the part that its first number tells. -/
theorem node (own? : Option β) {parts : List α} {inside : α → List Nat → β → Prop}
    {change : α → List β} (each : ∀ part ∈ parts, InOrder (inside part) (change part)) :
    InOrder (fun (address : List Nat) value => match address with
        | [] => own? = some value
        | index :: rest => ∃ part, parts[index]? = some part ∧ inside part rest value)
      (own?.toList ++ parts.flatMap change) := by
  have atRoot : InOrder (fun (address : List Nat) value => address = [] ∧ own? = some value)
      own?.toList := by
    cases own? with
    | none => exact nil fun address value => by simp
    | some own => exact (singleton [] own).congr fun address value => by simp [eq_comm]
  have below := ((ofList parts).flatMap each).moved
    (fun place => (ofLex place).1 :: (ofLex place).2) (by
      intro first second before
      rw [List.cons_lt_cons_iff]
      exact Prod.Lex.toLex_lt_toLex.mp before)
  refine (atRoot.append below ?_).congr ?_
  · rintro _ _ value following ⟨rfl, _⟩ ⟨place, rfl, _⟩
    exact List.nil_lt_cons _ _
  · intro address value
    cases address with
    | nil => simp
    | cons index rest =>
        constructor
        · rintro (⟨same, _⟩ | ⟨place, same, part, isPart, stands⟩)
          · cases same
          · obtain ⟨rfl, rfl⟩ := List.cons.inj same
            exact ⟨part, isPart, stands⟩
        · rintro ⟨part, isPart, stands⟩
          exact Or.inr ⟨toLex (index, rest), rfl, part, isPart, stands⟩

end InOrder

end NativeScript
