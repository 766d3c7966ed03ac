import NativeScript.Config
import NativeScript.Scan.Error
import NativeScript.Source.Tree
import NativeScript.Text.Blank
import NativeScript.Text.Fold
import NativeScript.Text.Lead

/-!
# Markers

A marker is a line of a doc comment that begins with the marker's name, in any
case, and goes on with a blank or a parenthesis or not at all.  Register and
export markers are followed by words, lifecycle markers by the name of a class in
parentheses.
-/

namespace NativeScript.Scan

open Source (Attribute)

/-! ## Marker lines -/

/-- The line of a doc comment that an attribute stands for. -/
def docLine? (item : Attribute) : Option String :=
  match item.content with
  | .value (.text line) =>
      if item.path.isName "doc" then some (String.ofList (Text.trim line.toList)) else none
  | _ => none

/-- The lines of the doc comments among attributes, without the blanks around
them. -/
def docLines (attributes : List Attribute) : List String :=
  attributes.filterMap docLine?

/-- Whether a text that follows a name leaves the name a word of its own. -/
def endsWord : List Char → Bool
  | [] => true
  | char :: _ => Text.isBlank char || char == '('

/-- What follows the marker in a marker line; other lines are none. -/
def afterMarker? (marker : String) (line : String) : Option (List Char) :=
  (Text.afterFolded? marker.toList line.toList).filter endsWord

/-! ## Register and export markers -/

/-- What the words after a register or export marker say. -/
structure MarkerWords where
  tool : Bool := false
  exposedAs : Option String := none
deriving DecidableEq

/-- Read the words after a marker.  The word after the first `as` is an alias and
ends the reading; before it, `tool` may stand anywhere, and other words mean
nothing. -/
def MarkerWords.read : List (List Char) → Except MarkerFault MarkerWords
  | [] => .ok {}
  | word :: words =>
      if Text.sameFolded word "as".toList then
        match words with
        | [] => .error .noAlias
        | name :: _ => .ok { exposedAs := some (String.ofList name) }
      else
        (read words).map fun found =>
          { found with tool := Text.sameFolded word "tool".toList || found.tool }

/-- The words after the first line with a marker of this name.  Later marker
lines do not count. -/
def markerWords? (config : Config) (name : String) :
    List String → Except ScanError (Option MarkerWords)
  | [] => .ok none
  | line :: lines =>
      match afterMarker? (config.marker name) line with
      | none => markerWords? config name lines
      | some rest =>
          match MarkerWords.read (Text.words rest) with
          | .error fault => .error (.malformedMarker (config.marker name) line fault)
          | .ok found => .ok (some found)

/-- What the register marker among attributes says. -/
def registerMarker? (config : Config) (attributes : List Attribute) :
    Except ScanError (Option MarkerWords) :=
  markerWords? config "register" (docLines attributes)

/-- What the export marker among attributes says. -/
def exportMarker? (config : Config) (attributes : List Attribute) :
    Except ScanError (Option MarkerWords) :=
  markerWords? config "export" (docLines attributes)

/-! ## Lifecycle markers -/

/-- Read the class named after a lifecycle marker: one pair of parentheses with
a name between them. -/
def readTarget (rest : List Char) : Except MarkerFault String :=
  match (Text.after? ['('] (Text.trim rest)).bind (Text.before? [')']) with
  | none => .error .noParentheses
  | some inner =>
      if inner.contains '(' || inner.contains ')' then
        .error .manyParentheses
      else if (Text.trim inner).isEmpty then
        .error .noClass
      else
        .ok (String.ofList (Text.trim inner))

/-- The classes named by the lifecycle markers in the lines of a doc comment. -/
def lifecycleTargets (config : Config) (lifecycle : Lifecycle) :
    List String → Except ScanError (List String)
  | [] => .ok []
  | line :: lines =>
      match afterMarker? (config.marker lifecycle.word) line with
      | none => lifecycleTargets config lifecycle lines
      | some rest =>
          match readTarget rest with
          | .error fault => .error (.malformedMarker (config.marker lifecycle.word) line fault)
          | .ok target => (lifecycleTargets config lifecycle lines).map (target :: ·)

end NativeScript.Scan
