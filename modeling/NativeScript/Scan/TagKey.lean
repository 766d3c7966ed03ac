import NativeScript.Engine.PropertyHint
import NativeScript.Engine.PropertyUsage
import NativeScript.Engine.RpcMode

/-!
# Keys of field tags

A field tag says one thing about a property: `hint = "range"`.  Three of the keys
take one of a closed set of values, the others take any text.
-/

namespace NativeScript

/-- The key of a field tag. -/
inductive TagKey where
  | hint
  | hintString
  | usage
  | rset
  | getter
  | setter
deriving DecidableEq

namespace TagKey

/-- Every key, in the order in which messages list them. -/
def all : List TagKey := [.hint, .hintString, .usage, .rset, .getter, .setter]

/-- The spelling of a key. -/
def name : TagKey → String
  | hint => "hint"
  | hintString => "hint_string"
  | usage => "usage"
  | rset => "rset_type"
  | getter => "get"
  | setter => "set"

/-- The key of a spelling. -/
def ofName? (name : String) : Option TagKey :=
  all.find? (·.name == name)

end TagKey

/-- The keys whose value is one of a closed set. -/
inductive ClosedTag where
  | hint
  | usage
  | rset
deriving DecidableEq

namespace ClosedTag

/-- A closed tag among all tags. -/
def key : ClosedTag → TagKey
  | hint => .hint
  | usage => .usage
  | rset => .rset

/-- The values that a tag accepts. -/
def allowed : ClosedTag → List String
  | hint => Engine.PropertyHint.tagNames
  | usage => Engine.PropertyUsage.tagNames
  | rset => Engine.RpcMode.tagNames

end ClosedTag

end NativeScript
