import NativeScript.Entry.Member
import NativeScript.Scan.Error
import NativeScript.Source.Literal
import NativeScript.Source.Tree

/-!
# Field tags

The tags of a field stand in an attribute: `#[godot(hint = "range")]`.  A field
may have several such attributes, and their tags add up; of tags with the same
key the last one counts.  An attribute whose only token is a dash, an underscore
or the word `omit` or `skip` keeps the field from being a property.
-/

namespace NativeScript.Scan

open Engine (PropertyHint PropertyUsage RpcMode)
open Source (Attribute Token)

/-- The tags of a field, in the order of the text. -/
structure FieldTags where
  /-- Whether the field is kept from being a property. -/
  ignored : Bool := false
  values : List (TagKey × String) := []
deriving DecidableEq

namespace FieldTags

/-- The tags of two attributes, one after the other. -/
def append (first second : FieldTags) : FieldTags :=
  ⟨first.ignored || second.ignored, first.values ++ second.values⟩

/-- The value of a key: that of the last tag with this key. -/
def value? (tags : FieldTags) (key : TagKey) : Option String :=
  tags.values.reverse.lookup key

/-! ## Reading one attribute -/

/-- Why the tags of an attribute cannot be read. -/
inductive ReadFault where
  | unknownKey (key : String)
  | unreadable
deriving DecidableEq

/-- Read the segments after the first one of a path: whether there are any, and
the tokens after the path. -/
def readSegments? : List Token → Option (Bool × List Token)
  | .mark ':' true :: .mark ':' _ :: .word _ :: rest =>
      (readSegments? rest).map fun (_, after) => (true, after)
  | .mark ':' true :: .mark ':' _ :: _ => none
  | rest => some (false, rest)

/-- Read the path at the start of a tag: the key and the tokens after it.  A path
that is not a single identifier has the empty key. -/
def readKey? : List Token → Option (String × List Token)
  | .word name :: rest =>
      (readSegments? rest).map fun (long, after) => (if long then "" else name, after)
  | .mark ':' true :: .mark ':' _ :: .word _ :: rest =>
      (readSegments? rest).map fun (_, after) => ("", after)
  | _ => none

/-- Read one tag.  Its key is judged before its value is looked at. -/
def readTag (tokens : List Token) : Except ReadFault (TagKey × String) :=
  match readKey? tokens with
  | none => .error .unreadable
  | some (name, rest) =>
      match TagKey.ofName? name with
      | none => .error (.unknownKey name)
      | some key =>
          match rest with
          | [.mark '=' _, .literal text] =>
              match Source.Literal.stringValue? text with
              | some value => .ok (key, value)
              | none => .error .unreadable
          | _ => .error .unreadable

/-- Whether a token is the comma between two tags. -/
def isComma : Token → Bool
  | .mark ',' _ => true
  | _ => false

/-- Split tokens at their commas. -/
def splitCommas : List Token → List (List Token)
  | [] => [[]]
  | token :: tokens =>
      if isComma token then
        [] :: splitCommas tokens
      else
        match splitCommas tokens with
        | [] => [[token]]
        | part :: parts => (token :: part) :: parts

/-- Read tags, the last of which may be empty. -/
def readTags : List (List Token) → Except ReadFault (List (TagKey × String))
  | [] => .ok []
  | [[]] => .ok []
  | part :: parts =>
      match readTag part with
      | .error fault => .error fault
      | .ok tag => (readTags parts).map (tag :: ·)

/-- The token texts that keep a field from being a property. -/
def ignoreWords : List String := ["-", "_", "omit", "skip"]

/-- Read the tags between the parentheses of an attribute. -/
def ofTokens (tokens : List Token) : Except ReadFault FieldTags :=
  if ignoreWords.contains (Token.renderAll tokens) then
    .ok { ignored := true }
  else
    (readTags (splitCommas tokens)).map fun values => { values }

/-! ## Reading the attributes of a field -/

/-- Read the tags of one attribute of a field. -/
def ofAttribute (name className field : String) (item : Attribute) :
    Except ScanError FieldTags :=
  if item.path.isName name then
    match item.content with
    | .bare => .ok {}
    | .value _ => .error (.invalidTag className field (.notAList name))
    | .list tokens =>
        match ofTokens tokens with
        | .error (.unknownKey key) => .error (.unknownTagKey className field key)
        | .error .unreadable => .error (.invalidTag className field .unreadable)
        | .ok tags => .ok tags
  else
    .ok {}

/-- Read the tags of a field, in attributes of this name. -/
def ofAttributes (name className field : String) : List Attribute → Except ScanError FieldTags
  | [] => .ok {}
  | item :: items =>
      match ofAttribute name className field item with
      | .error error => .error error
      | .ok tags => (ofAttributes name className field items).map tags.append

/-! ## Applying tags -/

/-- The value of a closed tag, read by `ofTag?`; without the tag, the default. -/
def closed {α : Type} [Inhabited α] (tags : FieldTags) (tag : ClosedTag)
    (ofTag? : String → Option α) (property : Entry.Property) : Except ScanError α :=
  match tags.value? tag.key with
  | none => .ok default
  | some text =>
      match ofTag? text with
      | some value => .ok value
      | none => .error (.unknownTagValue property.className property.name tag text)

/-- Set what the tags of its field say about a property, in place.  Nothing is set before every
closed tag is read. -/
def update (tags : FieldTags) : ExceptT ScanError (StateM Entry.Property) Unit := do
  let property ← get
  let hint ← tags.closed .hint PropertyHint.ofTag? property
  let usage ← tags.closed .usage PropertyUsage.ofTag? property
  let rset ← tags.closed .rset RpcMode.ofTag? property
  set { property with
    hint, usage, rset
    hintString := (tags.value? .hintString).getD ""
    getter := tags.value? .getter
    setter := tags.value? .setter }

/-- A property with what the tags of its field say about it. -/
def apply (tags : FieldTags) (property : Entry.Property) : Except ScanError Entry.Property :=
  match tags.update.run property with
  | (outcome, updated) => outcome.map fun _ => updated

end FieldTags

end NativeScript.Scan
