/-!
# Reports

Work on a package or against the engine reports what it does.  A report is a
message with named details; a warning tells about something that was left out.
-/

namespace NativeScript

/-- A detail of a report. -/
inductive Detail where
  | text (value : String)
  | flag (value : Bool)
  | count (value : Nat)
deriving DecidableEq

/-- A message with its details. -/
structure Report where
  isWarning : Bool
  message : String
  fields : List (String × Detail)
deriving DecidableEq

namespace Report

/-- A report on the course of the work. -/
def progress (message : String) (fields : List (String × Detail)) : Report :=
  ⟨false, message, fields⟩

/-- A report on something that was left out. -/
def warning (message : String) (fields : List (String × Detail)) : Report :=
  ⟨true, message, fields⟩

end Report

end NativeScript
