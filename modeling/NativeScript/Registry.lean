import NativeScript.Entry.Class

/-!
# Registry

A registry holds classes in the order of their discovery, and an index that leads
from names to positions.  The index keeps the name that a class was inserted with
when its entry is renamed later.
-/

namespace NativeScript

/-- Classes in order of discovery, with an index of them. -/
structure Registry where
  classes : List Entry.Class
  /-- The names under which classes were inserted, each with the position of its
  class. -/
  index : List (String × Nat)
deriving DecidableEq

namespace Registry

/-- A registry without classes. -/
def empty : Registry := ⟨[], []⟩

instance : EmptyCollection Registry := ⟨empty⟩

/-- The keys of a registry, in order of insertion. -/
def keys (registry : Registry) : List String :=
  registry.index.map Prod.fst

/-- The names of the classes, in order of insertion. -/
def names (registry : Registry) : List String :=
  registry.classes.map Entry.Class.name

/-- The names of the generated functions, one to a class. -/
def initFunctions (registry : Registry) : List String :=
  registry.classes.map Entry.Class.initFunction

/-- The number of classes. -/
def size (registry : Registry) : Nat :=
  registry.classes.length

/-- Whether there is no class. -/
def isEmpty (registry : Registry) : Bool :=
  registry.classes.isEmpty

/-- The position to which the index leads from a name. -/
def position? (registry : Registry) (key : String) : Option Nat :=
  registry.index.lookup key

/-- Whether a class was inserted under a name. -/
def contains (registry : Registry) (key : String) : Bool :=
  (registry.position? key).isSome

/-- The class that was inserted under a name. -/
def get? (registry : Registry) (key : String) : Option Entry.Class :=
  (registry.position? key).bind fun position => registry.classes[position]?

/-- Insert a class under its name, which must be free. -/
def insert (registry : Registry) (entry : Entry.Class) : Except ScanError Registry :=
  if registry.contains entry.name then
    .error (.duplicateClass entry.name)
  else
    .ok ⟨registry.classes ++ [entry],
      registry.index ++ [(entry.name, registry.classes.length)]⟩

/-- The registry of classes with distinct names, each under its own name. -/
def ofClasses (classes : List Entry.Class) : Registry :=
  ⟨classes, (classes.map Entry.Class.name).zipIdx⟩

/-- Replace the class that was inserted under a name. -/
def set (registry : Registry) (key : String) (entry : Entry.Class) : Registry :=
  match registry.position? key with
  | none => registry
  | some position => { registry with classes := registry.classes.set position entry }

end Registry

end NativeScript
