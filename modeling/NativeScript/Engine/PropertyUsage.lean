import NativeScript.Engine.Tag

/-!
# Property usage

The usage of a property is a set of flags: how the property is stored, shown and
replicated.  Some combinations of flags have a tag name of their own; any other
combination is shown by its number in base sixteen.
-/

namespace NativeScript.Engine

/-- How a property is stored, shown and replicated: a set of flags, one to a
bit. -/
structure PropertyUsage where
  bits : UInt32
deriving DecidableEq

namespace PropertyUsage

/-- The single flags, from the lowest bit on. -/
def flags : List (String × PropertyUsage) := [
    ("STORAGE", ⟨1⟩), ("EDITOR", ⟨2⟩), ("NETWORK", ⟨4⟩), ("EDITOR_HELPER", ⟨8⟩),
    ("CHECKABLE", ⟨16⟩), ("CHECKED", ⟨32⟩), ("INTERNATIONALIZED", ⟨64⟩), ("GROUP", ⟨128⟩),
    ("CATEGORY", ⟨256⟩), ("STORE_IF_NONZERO", ⟨512⟩), ("STORE_IF_NONONE", ⟨1024⟩),
    ("NO_INSTANCE_STATE", ⟨2048⟩), ("RESTART_IF_CHANGED", ⟨4096⟩), ("SCRIPT_VARIABLE", ⟨8192⟩),
    ("STORE_IF_NULL", ⟨16384⟩), ("ANIMATE_AS_TRIGGER", ⟨32768⟩),
    ("UPDATE_ALL_IF_MODIFIED", ⟨65536⟩)
  ]

/-- Stored, shown in the editor and replicated. -/
def default : PropertyUsage := ⟨7⟩

instance : Inhabited PropertyUsage := ⟨default⟩

/-- The usages that have a tag name. -/
def entries : List (String × PropertyUsage) := [
    ("Storage", ⟨1⟩), ("Editor", ⟨2⟩), ("Network", ⟨4⟩), ("EditorHelper", ⟨8⟩),
    ("Checkable", ⟨16⟩), ("Checked", ⟨32⟩), ("Internationalized", ⟨64⟩), ("Group", ⟨128⟩),
    ("Category", ⟨256⟩), ("StoreIfNonzero", ⟨512⟩), ("StoreIfNonone", ⟨1024⟩),
    ("NoInstanceState", ⟨2048⟩), ("RestartIfChanged", ⟨4096⟩), ("ScriptVariable", ⟨8192⟩),
    ("StoreIfNull", ⟨16384⟩), ("AnimateAsTrigger", ⟨32768⟩), ("UpdateAllIfModified", ⟨65536⟩),
    ("Default", default), ("DefaultIntl", ⟨71⟩), ("Noeditor", ⟨5⟩)
  ]

/-- The usage that a tag names. -/
def ofTag? (text : String) : Option PropertyUsage :=
  Tag.find? "PropertyUsage" entries text

/-- The tag name of exactly this combination of flags. -/
def tagName? (usage : PropertyUsage) : Option String :=
  (entries.find? fun entry => entry.2 == usage).map Prod.fst

/-- The accepted tags, in lower case. -/
def tagNames : List String :=
  entries.map fun entry => Tag.lowerName entry.1

/-- A number in base sixteen, after `0x`. -/
def hexadecimal (number : Nat) : String :=
  "0x" ++ String.ofList (Nat.toDigits 16 number)

/-- The tag name of a usage, or its number. -/
def render (usage : PropertyUsage) : String :=
  usage.tagName?.getD (hexadecimal usage.bits.toNat)

/-- The bits that belong to some flag. -/
def knownBits : UInt32 :=
  flags.foldl (fun bits flag => bits ||| flag.2.bits) 0

/-- Whether every bit of a usage belongs to a flag. -/
def isKnown (usage : PropertyUsage) : Bool :=
  usage.bits &&& ~~~knownBits == 0

/-- A usage without the bits that belong to no flag. -/
def truncate (usage : PropertyUsage) : PropertyUsage :=
  ⟨usage.bits &&& knownBits⟩

/-- The names of the flags in a usage, from the lowest bit on, and last the
number of the bits that belong to no flag, with bars between them. -/
def listed (usage : PropertyUsage) : String :=
  let named := flags.filterMap fun flag =>
    if usage.bits &&& flag.2.bits == flag.2.bits then some flag.1 else none
  let unknown := usage.bits &&& ~~~knownBits
  let rest := if unknown == 0 then [] else [hexadecimal unknown.toNat]
  " | ".intercalate (named ++ rest)

end PropertyUsage

end NativeScript.Engine
