import NativeScript.Scan.TagKey

/-!
# Scan errors

A scan stops at the first defect in the scanned text.  An error holds what was
found and where; its wording is one function of it.  The wording of a text that
cannot be read at all is left to the reader of that text.
-/

namespace NativeScript

/-- The two functions that begin and end the life of an instance. -/
inductive Lifecycle where
  | constructor
  | destructor
deriving DecidableEq

/-- The word for a lifecycle function, in markers and messages. -/
def Lifecycle.word : Lifecycle → String
  | .constructor => "constructor"
  | .destructor => "destructor"

/-- What is wrong with a marker. -/
inductive MarkerFault where
  | noAlias
  | noParentheses
  | manyParentheses
  | noClass
deriving DecidableEq

/-- The wording of a marker fault. -/
def MarkerFault.reason : MarkerFault → String
  | noAlias => "missing name after 'as'"
  | noParentheses => "expected the class name in parenthesis"
  | manyParentheses => "many parenthesis"
  | noClass => "missing class name"

/-- Why a function cannot be the constructor or destructor of a class. -/
inductive ShapeFault where
  /-- It has a receiver; `owner` is the type it is a method of. -/
  | method (owner : Option String)
  | parameters (count : Nat)
  | noResult
  | manyResults (count : Nat)
  /-- A constructor gives something other than a pointer to its class. -/
  | wrongResult (result : Kind)
  /-- A destructor gives something. -/
  | unwantedResults (results : List Kind)
deriving DecidableEq

/-- The wording of a shape fault of the function named `function`. -/
def ShapeFault.reason (lifecycle : Lifecycle) (className function : String) :
    ShapeFault → String
  | method owner =>
      function ++ " is a method of " ++ owner.getD "an unknown type" ++
        ", it can not be used as " ++ lifecycle.word
  | parameters count =>
      lifecycle.word ++ "s of " ++ className ++ " take no params but " ++ function ++ " takes " ++
        toString count
  | noResult =>
      "constructors of " ++ className ++ " have to return a pointer to " ++ className ++ " but " ++
        function ++ " returns nothing"
  | manyResults count =>
      "constructors of " ++ className ++ " must return exactly one value but " ++ function ++
        " returns " ++ toString count
  | wrongResult (.pointer pointee) =>
      "constructors of " ++ className ++ " must return a pointer to " ++ className ++ " but " ++
        function ++ " returns a pointer to " ++ pointee.render ++ " instead"
  | wrongResult result =>
      "constructors of " ++ className ++ " must return a pointer to " ++ className ++ " but " ++
        function ++ " returns " ++ result.render
  | unwantedResults results =>
      "destructors of " ++ className ++ " return nothing but " ++ function ++ " returns " ++
        ", ".intercalate (results.map Kind.render)

/-- Why a tag attribute cannot be read. -/
inductive TagFault where
  /-- The attribute is an assignment. -/
  | notAList (name : String)
  /-- The items between the parentheses are not `key = "value"`. -/
  | unreadable
deriving DecidableEq

/-- The defect at which a scan stops. -/
inductive ScanError where
  /-- The text from `origin` is not well formed. -/
  | parse (origin : String)
  /-- The file or directory at `path` cannot be read. -/
  | unreadable (path : String)
  | malformedMarker (marker line : String) (fault : MarkerFault)
  | invalidLifecycle (lifecycle : Lifecycle) (className function : String) (fault : ShapeFault)
  | duplicateLifecycle (lifecycle : Lifecycle) (className first second : String)
  | duplicateClass (className : String)
  | reservedName (function : String)
  | unknownTagKey (className field key : String)
  | unknownTagValue (className field : String) (tag : ClosedTag) (value : String)
  | invalidTag (className field : String) (fault : TagFault)
deriving DecidableEq

namespace ScanError

/-- The class that an error is about. -/
def className? : ScanError → Option String
  | invalidLifecycle _ className _ _ => some className
  | duplicateLifecycle _ className _ _ => some className
  | duplicateClass className => some className
  | unknownTagKey className _ _ => some className
  | unknownTagValue className _ _ _ => some className
  | invalidTag className _ _ => some className
  | _ => none

/-- The wording of an error, where it does not depend on a reader of text. -/
def message? : ScanError → Option String
  | parse _ => none
  | unreadable _ => none
  | malformedMarker marker line fault =>
      some <| "could not parse " ++ marker ++ " comment '" ++ line ++ "': " ++ fault.reason
  | invalidLifecycle lifecycle className function fault =>
      some <| "could not validate " ++ lifecycle.word ++ " " ++ function ++ " of " ++ className ++
        ": " ++ fault.reason lifecycle className function
  | duplicateLifecycle lifecycle className first second =>
      some <| "class " ++ className ++ " has two " ++ lifecycle.word ++ "s: " ++ first ++ " and " ++
        second
  | duplicateClass className => some <| "class " ++ className ++ " is registered more than once"
  | reservedName function =>
      some <| function ++ " function present on files, you can not provide your own " ++
        function ++ " function while autoregistering classes"
  | unknownTagKey className field key =>
      some <| "on property " ++ field ++ " of " ++ className ++ ": unknown tag key " ++ key ++
        ", it must be one of: " ++ ", ".intercalate (TagKey.all.map TagKey.name)
  | unknownTagValue className field tag value =>
      some <| "on property " ++ field ++ " of " ++ className ++ ": unknown " ++ tag.key.name ++
        " " ++ value ++ ", it must be one of: " ++ ", ".intercalate tag.allowed
  | invalidTag className field (.notAList name) =>
      some <| "on property " ++ field ++ " of " ++ className ++ ": expected #[" ++ name ++
        "(...)]"
  | invalidTag _ _ .unreadable => none

end ScanError

end NativeScript
