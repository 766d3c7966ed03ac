import NativeScript.Kind.Basic

/-!
# Configuration

The names that a scan looks for.  Each of them can be replaced; the defaults
follow the naming of the engine's own bindings.
-/

namespace NativeScript

/-- The names that a scan looks for. -/
structure Config where
  /-- What every marker in a doc comment starts with. -/
  markerLead : String := "godot"
  /-- The namespace of the engine classes that a registered class extends. -/
  frameworkSpace : String := "godot"
  /-- The namespace of the engine's value types. -/
  bindingSpace : String := Kind.bindingSpace
  /-- The name of the signal type. -/
  signalType : String := "Signal"
  /-- The name of the attribute that holds field tags. -/
  tagAttribute : String := "godot"
  /-- The function name kept free for the generated entry point. -/
  reservedInit : String := "godot_nativescript_init"
  /-- What marks the name of a generated file, which is never scanned. -/
  generatedInfix : String := ".gen."
deriving DecidableEq

namespace Config

/-- The full text of a marker, such as `godot::register`. -/
def marker (config : Config) (name : String) : String :=
  config.markerLead ++ "::" ++ name

/-- Whether `part` stands somewhere in a text. -/
def occurs (part : List Char) : List Char → Bool
  | [] => part.isEmpty
  | char :: text => part.isPrefixOf (char :: text) || occurs part text

theorem occurs_iff {part text : List Char} : occurs part text = true ↔ part <:+: text := by
  induction text with
  | nil => simp [occurs]
  | cons char text ih => simp [occurs, List.infix_cons_iff, ih]

/-- Whether a file of this name holds generated text. -/
def isGenerated (config : Config) (fileName : String) : Bool :=
  !config.generatedInfix.isEmpty && occurs config.generatedInfix.toList fileName.toList

end Config

end NativeScript
