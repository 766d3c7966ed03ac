import NativeScript.Engine.PropertyHint
import NativeScript.Engine.PropertyUsage
import NativeScript.Engine.RpcMode
import NativeScript.Text.Quoted

/-!
# Registration errors

A class is refused when a tag of one of its properties has no meaning, or when a
property has a getter or a setter of its own but not both.
-/

namespace NativeScript.Native

open Engine (PropertyHint PropertyUsage RpcMode)

/-- Why a class or a property is refused. -/
inductive RegistrationError where
  | unknownHint (value : String)
  | unknownUsage (value : String)
  | unknownRpcMode (value : String)
  | incompleteAccessors (className property : String)
deriving DecidableEq

namespace RegistrationError

/-- The wording for a tag without a meaning. -/
def unknownTag (what value : String) (allowed : List String) : String :=
  "unknown " ++ what ++ " " ++ Text.quoted value ++ ", allowed types: " ++
    ", ".intercalate allowed

/-- The wording of an error. -/
def message : RegistrationError → String
  | unknownHint value => unknownTag "property hint" value PropertyHint.tagNames
  | unknownUsage value => unknownTag "property usage" value PropertyUsage.tagNames
  | unknownRpcMode value => unknownTag "rset" value RpcMode.tagNames
  | incompleteAccessors className property =>
      "property " ++ className ++ "." ++ property ++
        ": you can not register a property that does not define both setter and getter functions"

end RegistrationError

end NativeScript.Native
