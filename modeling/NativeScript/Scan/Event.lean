import NativeScript.Report
import NativeScript.Scan.Error
import NativeScript.Text.Quoted

/-!
# Events of a scan

A scan tells what it finds and, as a warning, what it leaves out although it
looks like part of a class.  Events are values; their wording is one function of
them.
-/

namespace NativeScript.Scan

/-- What a scan tells while it runs. -/
inductive Event where
  | foundClass (className base : String) (exposedAs : Option String) (tool : Bool)
  | foundLifecycle (lifecycle : Lifecycle) (className function : String)
  | foundMethod (className method : String)
  | foundSignal (className signal : String)
  | foundProperty (className property : String) (kind : Kind)
  /-- All members of a class are bound; how many there are. -/
  | scannedMembers (className : String) (methods properties signals : Nat)
  /-- A signal literal has no literal name. -/
  | unnamedSignal (className field : String)
  /-- The arguments of a signal are no literal list. -/
  | looseArguments (className signal : String)
  /-- The default arguments of a signal are no literal list. -/
  | looseDefaults (className signal : String)
  /-- A parameter is taken apart by a pattern. -/
  | patternParameter (className method : String)
  | kindlessParameter (className method parameter : String)
  | kindlessField (className field : String)
deriving DecidableEq

namespace Event

/-- An optional name in a report. -/
def optionalName : Option String → String
  | none => "None"
  | some name => "Some(" ++ Text.quoted name ++ ")"

/-- The wording of an event. -/
def report : Event → Report
  | foundClass className base exposedAs tool =>
      .progress "found class" [
        ("class", .text className), ("base", .text base),
        ("alias", .text (optionalName exposedAs)), ("tool", .flag tool)]
  | foundLifecycle lifecycle className function =>
      .progress ("found " ++ lifecycle.word) [
        ("class", .text className), ("function", .text function)]
  | foundMethod className method =>
      .progress "found method" [("class", .text className), ("method", .text method)]
  | foundSignal className signal =>
      .progress "found signal" [("class", .text className), ("signal", .text signal)]
  | foundProperty className property kind =>
      .progress "found property" [
        ("class", .text className), ("property", .text property), ("kind", .text kind.render)]
  | scannedMembers className methods properties signals =>
      .progress "scanned class members" [
        ("class", .text className), ("methods", .count methods),
        ("properties", .count properties), ("signals", .count signals)]
  | unnamedSignal className field =>
      .warning "signal has no literal name, it will be ignored" [
        ("class", .text className), ("field", .text field)]
  | looseArguments className signal =>
      .warning "arguments on signal are not a literal list, they will be ignored" [
        ("class", .text className), ("signal", .text signal)]
  | looseDefaults className signal =>
      .warning "default arguments on signal are not a literal list, they will be ignored" [
        ("class", .text className), ("signal", .text signal)]
  | patternParameter className method =>
      .warning "parameter is not a plain binding, skipping it" [
        ("class", .text className), ("method", .text method)]
  | kindlessParameter className method parameter =>
      .warning "parameter has no resolvable type, skipping it" [
        ("class", .text className), ("method", .text method), ("param", .text parameter)]
  | kindlessField className field =>
      .warning "field has no resolvable type, skipping it" [
        ("class", .text className), ("field", .text field)]

end Event

end NativeScript.Scan
