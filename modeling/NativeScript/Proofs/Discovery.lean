import NativeScript.Proofs.Marker
import NativeScript.Scan.Package

/-!
# Which classes a package has

Every struct with a register marker begins a class.  Discovery succeeds exactly
when these markers can be read and the structs have distinct names, and finds the
classes in the order of the structs.
-/

namespace NativeScript.Scan

open Outcome (Exact)
open Source (Attribute Struct)

instance (config : Config) (name : String) (attributes : List Attribute) :
    Decidable (HasMarker config name attributes) :=
  inferInstanceAs (Decidable (_ = true))

/-- The structs that a register marker makes classes. -/
def registered (config : Config) (structs : List Struct) : List Struct :=
  structs.filter fun decl => HasMarker config "register" decl.attributes

theorem mem_registered_iff {config : Config} {structs : List Struct} {decl : Struct} :
    decl ∈ registered config structs ↔
      decl ∈ structs ∧ HasMarker config "register" decl.attributes := by
  simp [registered]

@[simp]
theorem registered_nil (config : Config) : registered config [] = [] :=
  rfl

theorem registered_cons (config : Config) (decl : Struct) (structs : List Struct) :
    registered config (decl :: structs) =
      registered config [decl] ++ registered config structs :=
  List.filter_append [decl] structs

theorem registered_cons_of_hasMarker {config : Config} {decl : Struct}
    (marked : HasMarker config "register" decl.attributes) (structs : List Struct) :
    registered config (decl :: structs) = decl :: registered config structs :=
  List.filter_cons_of_pos (decide_eq_true marked)

theorem registered_cons_of_not_hasMarker {config : Config} {decl : Struct}
    (unmarked : ¬ HasMarker config "register" decl.attributes) (structs : List Struct) :
    registered config (decl :: structs) = registered config structs :=
  List.filter_cons_of_neg (by simpa using unmarked)

/-- What the register marker of a struct says. -/
def registerWords (config : Config) (decl : Struct) : MarkerWords :=
  (markerSays? config "register" decl.attributes).getD {}

/-- The discovery of the class that a struct begins. -/
def discoveryOf (config : Config) (decl : Struct) : Discovery where
  decl
  entry := beginClass config decl (registerWords config decl)

/-- The discoveries of classes by the structs that begin them. -/
def discoveries (config : Config) (decls : List Struct) : List Discovery :=
  decls.map (discoveryOf config)

theorem isDiscovered_discoveries_iff {config : Config} {decls : List Struct} {name : String} :
    isDiscovered (discoveries config decls) name = true ↔ name ∈ decls.map Struct.name := by
  simp [isDiscovered, discoveries, discoveryOf, beginClass, List.any_map]

theorem nodup_names_append_singleton_iff {earlier : List Struct} {decl : Struct}
    (distinct : (earlier.map Struct.name).Nodup) :
    ((earlier ++ [decl]).map Struct.name).Nodup ↔ decl.name ∉ earlier.map Struct.name := by
  rw [List.map_append, List.map_singleton, List.nodup_append]
  constructor
  · rintro ⟨_, _, apart⟩ taken
    exact apart _ taken _ List.mem_cons_self rfl
  · intro fresh
    refine ⟨distinct, List.pairwise_singleton _ _, ?_⟩
    rintro name taken other isLast rfl
    rw [List.mem_singleton.mp isLast] at taken
    exact fresh taken

/-- One struct begins a class, if it has a register marker, whose name must stay
distinct from the earlier ones. -/
theorem discover_exact (config : Config) {earlier : List Struct}
    (distinct : (earlier.map Struct.name).Nodup) (decl : Struct) :
    Exact (discover config (discoveries config earlier) decl).outcome
      (AliasReadable config "register" decl.attributes ∧
        ((earlier ++ registered config [decl]).map Struct.name).Nodup)
      (discoveries config (earlier ++ registered config [decl])) := by
  unfold discover
  rw [outcome_bind]
  apply (markerWords?_exact config "register" decl.attributes).bind
  intro readable
  have marked_iff := @markerSays?_isSome_iff config "register" decl.attributes
  cases found : markerSays? config "register" decl.attributes with
  | none =>
      have unmarked : ¬ HasMarker config "register" decl.attributes := by
        simp [← marked_iff, found]
      have same : earlier ++ registered config [decl] = earlier := by
        simp [registered, unmarked]
      rw [same]
      exact Exact.ok distinct
  | some words =>
      have marked : HasMarker config "register" decl.attributes := by
        simp [← marked_iff, found]
      have begun : beginClass config decl words = (discoveryOf config decl).entry := by
        simp [discoveryOf, registerWords, found]
      have only : registered config [decl] = [decl] := by
        simp [registered, marked]
      rw [only, outcome_bind, outcome_tell, Outcome.ok_bind]
      change Exact (if isDiscovered _ decl.name then _ else _ : Scan _).outcome _ _
      refine Exact.congr ?_ (nodup_names_append_singleton_iff distinct).symm fun _ => rfl
      by_cases taken : decl.name ∈ earlier.map Struct.name
      · rw [if_pos (isDiscovered_discoveries_iff.mpr taken)]
        exact Exact.error fun fresh => fresh taken
      · rw [if_neg (mt isDiscovered_discoveries_iff.mp taken)]
        refine (Exact.ok taken).congr Iff.rfl fun _ => ?_
        simp [discoveries, begun, discoveryOf]

/-- Discovery goes on from classes with distinct names exactly if their names
stay distinct. -/
theorem discoverFrom_exact (config : Config) (structs : List Struct) {earlier : List Struct}
    (distinct : (earlier.map Struct.name).Nodup) :
    Exact (structs.foldlM (discover config) (discoveries config earlier)).outcome
      ((∀ decl ∈ structs, AliasReadable config "register" decl.attributes) ∧
        ((earlier ++ registered config structs).map Struct.name).Nodup)
      (discoveries config (earlier ++ registered config structs)) := by
  induction structs generalizing earlier with
  | nil =>
      rw [List.foldlM_nil, registered_nil, List.append_nil]
      exact Exact.ok ⟨by simp, distinct⟩
  | cons decl structs ih =>
      have split : earlier ++ registered config (decl :: structs) =
          (earlier ++ registered config [decl]) ++ registered config structs := by
        rw [registered_cons, List.append_assoc]
      rw [List.foldlM_cons, outcome_bind, split]
      refine Exact.congr ((discover_exact config distinct decl).bind fun held => ih held.2) ?_
        fun _ => rfl
      rw [List.forall_mem_cons]
      constructor
      · rintro ⟨⟨first, _⟩, rest, names⟩
        exact ⟨⟨first, rest⟩, names⟩
      · rintro ⟨⟨first, rest⟩, names⟩
        -- Names that are distinct in the end were so after this struct.
        rw [List.map_append] at names
        exact ⟨⟨first, (List.nodup_append.mp names).1⟩, rest, by rwa [List.map_append]⟩

/-- Discovery succeeds exactly if all register markers can be read and the
structs that have one have distinct names. -/
theorem discoverAll_exact (config : Config) (structs : List Struct) :
    Exact (structs.foldlM (discover config) []).outcome
      ((∀ decl ∈ structs, AliasReadable config "register" decl.attributes) ∧
        ((registered config structs).map Struct.name).Nodup)
      (discoveries config (registered config structs)) := by
  have distinct : (([] : List Struct).map Struct.name).Nodup := List.nodup_nil
  exact discoverFrom_exact config structs distinct

end NativeScript.Scan
