import NativeScript.Config
import NativeScript.Entry.Member
import NativeScript.Scan.Event
import NativeScript.Source.Tree

/-!
# Signal literals

A signal of a class is found where a record literal of the class fills a field
directly with a record literal of the signal type.  Only what is written out
literally is read: a name that is a string, and arguments that are a list.
-/

namespace NativeScript.Scan

open Source (Code Path RecordLiteral SourceUnit)

/-! ## Literal values -/

/-- The conversions that leave a string literal a literal. -/
def textMethods : List String := ["into", "to_string", "to_owned"]

/-- The string that code stands for literally: a string literal, perhaps in
parentheses, behind a reference or converted. -/
def literalText? : Code → Option String
  | .text value => some value
  | .methodCall receiver method _ arguments =>
      if arguments.isEmpty && textMethods.contains method then literalText? receiver else none
  | .call (.name path _) [argument] =>
      if path.last == "from" then literalText? argument else none
  | .enclosed _ inner => literalText? inner
  | _ => none

/-- The conversions that leave a literal list a literal. -/
def listMethods : List String := ["to_vec", "into", "to_owned"]

/-- The texts of the elements of a literal list, perhaps in parentheses, behind a
reference or converted. -/
def literalList? : Code → Option (List String)
  | .list elements => some (elements.map Prod.fst)
  | .macroList elements => elements
  | .methodCall receiver method _ arguments =>
      if arguments.isEmpty && listMethods.contains method then literalList? receiver else none
  | .enclosed _ inner => literalList? inner
  | _ => none

/-! ## Finding signal literals -/

/-- A record literal of the signal type that fills a field of a class. -/
structure SignalLiteral where
  field : String
  parts : List (Option String × Code)

/-- Whether a path names the signal type, alone or inside the binding
namespace. -/
def isSignalPath (config : Config) (path : Path) : Bool :=
  path.last == config.signalType && (path.outer.isEmpty || path.first == config.bindingSpace)

/-- Whether a record literal is one of the class: by the last name of its path, or
as `Self` in an `impl` block for the class. -/
def isOfClass (className : String) (literal : RecordLiteral) : Bool :=
  literal.path.last == className ||
    (literal.path.isName "Self" && literal.owner == some className)

/-- The signal literal in a field of a record literal. -/
def signalLiteral? (config : Config) : Option String × Code → Option SignalLiteral
  | (some field, .record path _ parts _) =>
      if isSignalPath config path then some ⟨field, parts⟩ else none
  | _ => none

/-- The signal literals of a class in a unit, in the order of the text. -/
def signalLiterals (config : Config) (className : String) (unit : SourceUnit) :
    List SignalLiteral :=
  (unit.records.filter (isOfClass className)).flatMap fun literal =>
    literal.fields.filterMap (signalLiteral? config)

namespace SignalLiteral

/-! ## Reading a signal literal -/

/-- The value of a part; if it is given several times, the last one. -/
def part? (literal : SignalLiteral) (name : String) : Option Code :=
  literal.parts.reverse.lookup (some name)

/-- The name of the signal, if it is literal. -/
def name? (literal : SignalLiteral) : Option String :=
  (literal.part? "name").bind literalText?

/-- The texts of a list of arguments; none if the part is no literal list or is
left out. -/
def listPart (literal : SignalLiteral) (part : String) : List String :=
  ((literal.part? part).bind literalList?).getD []

/-- Whether a part is there but is no literal list. -/
def isLoose (literal : SignalLiteral) (part : String) : Bool :=
  (literal.part? part).any fun value => (literalList? value).isNone

/-- The signal that a literal declares. -/
def signal? (literal : SignalLiteral) : Option Entry.Signal :=
  literal.name?.map fun name => {
    name
    field := literal.field
    arguments := literal.listPart "args"
    defaults := literal.listPart "default_args" }

/-- What is left out of a signal literal of a class. -/
def warnings (className : String) (literal : SignalLiteral) : List Event :=
  match literal.name? with
  | none => [.unnamedSignal className literal.field]
  | some name =>
      (if literal.isLoose "args" then [.looseArguments className name] else []) ++
        (if literal.isLoose "default_args" then [.looseDefaults className name] else [])

end SignalLiteral

end NativeScript.Scan
