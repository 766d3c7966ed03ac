import NativeScript.Registry
import NativeScript.Scan.Member
import NativeScript.Source.Reader

/-!
# Scanning a package

A package is a list of units that are scanned together.  First every struct with
the register marker becomes a class; then each class, in the order of the
structs, collects its members from all units.  One defect anywhere makes the
whole scan fail.
-/

namespace NativeScript.Scan

open Source (SourceUnit Struct)

/-! ## Finding the classes -/

/-- A struct with the register marker, and the class it begins. -/
structure Discovery where
  decl : Struct
  entry : Entry.Class

/-- The class that a struct with a register marker begins. -/
def beginClass (config : Config) (decl : Struct) (marker : MarkerWords) : Entry.Class where
  name := decl.name
  base := baseName config decl
  exposedAs := marker.exposedAs
  tool := marker.tool

/-- Whether one of the discovered classes has this name. -/
def isDiscovered (found : List Discovery) (name : String) : Bool :=
  found.any (·.entry.name == name)

/-- Discover the class that a struct declares, if it has a register marker. -/
def discover (config : Config) (found : List Discovery) (decl : Struct) :
    Scan (List Discovery) := do
  match ← ofExcept (registerMarker? config decl.attributes) with
  | none => pure found
  | some marker =>
      let entry := beginClass config decl marker
      tell (.foundClass entry.name entry.base entry.exposedAs entry.tool)
      if isDiscovered found entry.name then
        fail (.duplicateClass entry.name)
      else
        pure (found ++ [⟨decl, entry⟩])

/-- Discover the classes of a package. -/
def discoverAll (config : Config) (units : List SourceUnit) : Scan (List Discovery) :=
  (units.flatMap SourceUnit.structs).foldlM (discover config) []

/-! ## Binding their members -/

/-- Whether some function of a package has the reserved name. -/
def takesReservedName (config : Config) (units : List SourceUnit) : Bool :=
  units.any fun unit => unit.functions.any (·.decl.name == config.reservedInit)

/-- Complete a class with its members from all units. -/
def complete (config : Config) (units : List SourceUnit) (found : Discovery) :
    Scan Entry.Class := do
  let entry ← units.foldlM (bindUnit config) found.entry
  let properties ← readProperties config entry.name found.decl
  let entry := properties.foldl Entry.Class.addProperty entry
  tell <| .scannedMembers entry.name entry.methods.length entry.properties.length
    entry.signals.length
  pure entry

/-- Scan the units of a package. -/
def package (config : Config) (units : List SourceUnit) : Scan Registry := do
  let found ← discoverAll config units
  if found.isEmpty then
    pure .empty
  else if takesReservedName config units then
    fail (.reservedName config.reservedInit)
  else
    let classes ← found.mapM (complete config units)
    pure (.ofClasses classes)

/-! ## Scanning a text -/

/-- Scan what a text parses to as a package of its own. -/
def parsed (parse : String → Option SourceUnit) (config : Config) (source : String) :
    Scan Registry :=
  match parse source with
  | none => fail (.parse "<source>")
  | some unit => package config [unit]

/-- Scan one unit of source text as a package of its own. -/
def text (config : Config) (source : String) : Scan Registry :=
  parsed SourceUnit.ofText? config source

end NativeScript.Scan
