import NativeScript.Native.Callback

/-!
# Live instances

The instances made by generic constructors are kept under their keys, each with
the class it is an instance of.  A key has one instance at a time: the last one
recorded.
-/

namespace NativeScript.Native

/-- The live instances, each under its key. -/
structure Instances where
  entries : List (String × ClassInfo)
deriving DecidableEq

namespace Instances

/-- No live instance. -/
def empty : Instances := ⟨[]⟩

/-- The keys of the live instances. -/
def keys (instances : Instances) : List String :=
  instances.entries.map Prod.fst

/-- The class of a live instance. -/
def get? (instances : Instances) (key : String) : Option ClassInfo :=
  instances.entries.lookup key

/-- Whether there is a live instance under a key. -/
def contains (instances : Instances) (key : String) : Bool :=
  (instances.get? key).isSome

/-- The number of live instances. -/
def size (instances : Instances) : Nat :=
  instances.entries.length

/-- Forget the instance under a key. -/
def remove (instances : Instances) (key : String) : Instances :=
  ⟨instances.entries.filter fun entry => entry.1 != key⟩

/-- Record an instance under a key, in place of any other one. -/
def insert (instances : Instances) (key : String) (info : ClassInfo) : Instances :=
  ⟨(key, info) :: (instances.remove key).entries⟩

/-! ## What is live after a change -/

/-- Forgetting a key hides the entries under it and no others. -/
theorem lookup_filter_ne (entries : List (String × ClassInfo)) (key other : String) :
    (entries.filter fun entry => entry.1 != key).lookup other =
      if other = key then none else entries.lookup other := by
  induction entries with
  | nil => simp
  | cons entry entries ih =>
      obtain ⟨first, info⟩ := entry
      by_cases forgotten : first = key
      · rw [List.filter_cons_of_neg (by simp [forgotten]), ih]
        by_cases same : other = key
        · simp [same]
        · have differs : (other == first) = false := by simp [forgotten, same]
          simp only [List.lookup_cons, differs]
      · rw [List.filter_cons_of_pos (by simp [forgotten])]
        by_cases same : other = first
        · simp [same, forgotten]
        · have differs : (other == first) = false := by simp [same]
          simp only [List.lookup_cons, differs, ih]

@[simp]
theorem get?_remove (instances : Instances) (key other : String) :
    (instances.remove key).get? other = if other = key then none else instances.get? other :=
  lookup_filter_ne instances.entries key other

@[simp]
theorem get?_insert (instances : Instances) (key other : String) (info : ClassInfo) :
    (instances.insert key info).get? other =
      if other = key then some info else instances.get? other := by
  by_cases same : other = key
  · simp [insert, get?, same]
  · have differs : (other == key) = false := by simp [same]
    have kept := get?_remove instances key other
    simp only [get?] at kept
    simp only [insert, get?, List.lookup_cons, differs, kept, same, if_false]

end Instances

end NativeScript.Native
