import NativeScript.Kind.Basic
import NativeScript.Text.Blank
import NativeScript.Text.Fold
import NativeScript.Text.Lead

/-!
# Tags

Hints, usages and modes are written as tags.  The look-up is forgiving: blanks
around a tag, the binding namespace in front of it, the name of the enumeration
it belongs to, underscores, and the case of ASCII letters do not matter.  So
`range`, `Range` and `gdnative.PropertyHintRange` are one tag.
-/

namespace NativeScript.Engine.Tag

/-- A text without `lead` at its start, if it begins so. -/
def dropLead (lead : String) (text : List Char) : List Char :=
  (Text.after? lead.toList text).getD text

/-- Letters in lower case and no underscores. -/
def fold (text : List Char) : List Char :=
  Text.foldCase (text.filter (· != '_'))

/-- The key under which a tag is looked up in an enumeration, whose own name
`family` may stand in front. -/
def key (family : String) (text : String) : List Char :=
  let trimmed := Text.trim text.toList
  fold (dropLead family (dropLead (Kind.bindingSpace ++ ".") trimmed))

/-- The first value listed under the name that a tag spells. -/
def find? {α : Type} (family : String) (entries : List (String × α)) (text : String) :
    Option α :=
  (entries.find? fun entry => Text.foldCase entry.1.toList == key family text).map Prod.snd

/-- A name in lower case, as lists of accepted tags spell it. -/
def lowerName (name : String) : String :=
  String.ofList (Text.foldCase name.toList)

end NativeScript.Engine.Tag
