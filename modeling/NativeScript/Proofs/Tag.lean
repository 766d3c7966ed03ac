import NativeScript.Engine.PropertyHint
import NativeScript.Engine.PropertyUsage
import NativeScript.Engine.RpcMode
import NativeScript.Engine.VariantType
import NativeScript.Proofs.Spelling

/-!
# Names as tags

A value is found under its own name: a name is its own tag, which neither the
namespace, nor the name of the enumeration, nor underscores or blanks change, and no
two names of one enumeration differ in their case alone.  What a value is shown as can
therefore be read back, unless it is a usage without a name.  Besides its names, a value
is found under their spellings and under nothing else.
-/

namespace NativeScript.Engine

namespace Tag

/-- A list of named values in which no name is empty, every name is its own tag, and no
two names are spelled alike. -/
structure IsTable {α : Type} (family : String) (entries : List (String × α)) : Prop where
  nonempty : ∀ entry ∈ entries, entry.1 ≠ ""
  own : ∀ entry ∈ entries, key family entry.1 = Text.foldCase entry.1.toList
  distinct : (entries.map fun entry => Text.foldCase entry.1.toList).Nodup

variable {α : Type} {family : String} {entries : List (String × α)}

/-- What is found by a tag is listed. -/
theorem exists_mem_of_find?_eq_some {text : String} {value : α}
    (found : find? family entries text = some value) : ∃ name, (name, value) ∈ entries := by
  rcases Option.map_eq_some_iff.mp found with ⟨⟨name, listed⟩, isFound, rfl⟩
  exact ⟨name, List.mem_of_find?_eq_some isFound⟩

/-- In a table a value is found under the name that it is listed by. -/
theorem IsTable.find?_of_mem (table : IsTable family entries) {name : String} {value : α}
    (member : (name, value) ∈ entries) : find? family entries name = some value := by
  rw [find?, table.own _ member]
  have distinct := table.distinct
  clear table
  induction entries with
  | nil => cases member
  | cons entry entries ih =>
      rw [List.map_cons, List.nodup_cons] at distinct
      rcases List.mem_cons.mp member with rfl | later
      · rw [List.find?_cons_of_pos (by simp)]
        rfl
      · have apart : Text.foldCase entry.1.toList ≠ Text.foldCase name.toList := by
          intro same
          exact distinct.1 (List.mem_map.mpr ⟨_, later, same.symm⟩)
        rw [List.find?_cons_of_neg (by simpa using apart)]
        exact ih later distinct.2

/-- A value is found by the tags whose key is one of its names. -/
theorem IsTable.find?_eq_some_iff (table : IsTable family entries) {text : String} {value : α} :
    find? family entries text = some value ↔
      ∃ name, (name, value) ∈ entries ∧ Text.foldCase name.toList = key family text := by
  constructor
  · intro found
    rcases Option.map_eq_some_iff.mp found with ⟨⟨name, listed⟩, isFound, rfl⟩
    have same := List.find?_some isFound
    exact ⟨name, List.mem_of_find?_eq_some isFound, eq_of_beq same⟩
  · rintro ⟨name, member, same⟩
    rw [← table.find?_of_mem member, find?, find?, table.own _ member, same]

theorem key_empty (family : String) : key family "" = [] := by
  have dropLead_nil : ∀ lead, dropLead lead [] = [] := by
    intro lead
    unfold dropLead
    cases lead.toList <;> rfl
  have blank : Text.trim "".toList = [] := rfl
  simp only [key, blank, dropLead_nil]
  rfl

/-- The empty tag names nothing. -/
theorem IsTable.find?_empty (table : IsTable family entries) : find? family entries "" = none := by
  rw [find?, key_empty, Option.map_eq_none_iff, List.find?_eq_none]
  intro entry member same
  exact table.nonempty entry member (by simpa [Text.foldCase] using same)

/-- Plain names make a table, unless one of them is empty. -/
theorem HasPlainNames.isTable (plain : HasPlainNames family entries)
    (nonempty : ∀ entry ∈ entries, entry.1 ≠ "") : IsTable family entries :=
  ⟨nonempty, fun _ => plain.key_name, plain.distinct⟩

/-! ## Look-ups -/

/-- A look-up of the values of an enumeration reads the spellings of their names. -/
structure ReadsSpellings {α : Type} (family : String) (names : α → List String)
    (ofTag? : String → Option α) : Prop where
  /-- A value is found under exactly the spellings of its names. -/
  exact : ∀ text value, ofTag? text = some value ↔ ∃ name ∈ names value, Spells family text name
  /-- Names that are spelled alike are names of one value. -/
  single : ∀ text first second name other, name ∈ names first → other ∈ names second →
    Spells family text name → Spells family text other → first = second
  /-- A respelled name is as good as the name. -/
  respelled : ∀ text value name, name ∈ names value → Respells text.toList name.toList →
    ofTag? text = ofTag? name

theorem IsTable.readsSpellings (table : IsTable family entries)
    (plain : HasPlainNames family entries) {names : α → List String}
    (listed : ∀ value name, name ∈ names value ↔ (name, value) ∈ entries) :
    ReadsSpellings family names (find? family entries) := by
  have found_iff (text value) : find? family entries text = some value ↔
      ∃ name ∈ names value, Spells family text name := by
    rw [table.find?_eq_some_iff]
    refine exists_congr fun name => ?_
    rw [listed]
    exact and_congr_right fun member => eq_comm.trans (plain.key_eq_iff member)
  refine ⟨found_iff, ?_, ?_⟩
  · intro text first second name other isFirst isSecond spells spellsOther
    have foundFirst := (found_iff text first).mpr ⟨name, isFirst, spells⟩
    have foundSecond := (found_iff text second).mpr ⟨other, isSecond, spellsOther⟩
    exact Option.some.inj (foundFirst.symm.trans foundSecond)
  · intro text value name isName respells
    have found := (found_iff text value).mpr ⟨name, isName, respells.spells family⟩
    have itself := (found_iff name value).mpr ⟨name, isName, (Respells.refl _).spells family⟩
    rw [found, itself]

end Tag

/-! ## The enumerations -/

theorem PropertyHint.hasPlainNames : Tag.HasPlainNames "PropertyHint" entries := by
  decide

theorem PropertyHint.isTable : Tag.IsTable "PropertyHint" entries :=
  hasPlainNames.isTable (by decide)

theorem PropertyHint.ofTag?_name (hint : PropertyHint) : ofTag? hint.name = some hint := by
  have member : hint ∈ all := by cases hint <;> decide
  exact isTable.find?_of_mem (List.mem_map.mpr ⟨hint, member, rfl⟩)

theorem RpcMode.hasPlainNames : Tag.HasPlainNames "MethodRpcMode" entries := by
  decide

theorem RpcMode.isTable : Tag.IsTable "MethodRpcMode" entries :=
  hasPlainNames.isTable (by decide)

theorem RpcMode.ofTag?_name (mode : RpcMode) : ofTag? mode.name = some mode := by
  have member : mode ∈ all := by cases mode <;> decide
  exact isTable.find?_of_mem
    (List.mem_append_left _ (List.mem_map.mpr ⟨mode, member, rfl⟩))

theorem VariantType.hasPlainNames : Tag.HasPlainNames "VariantType" entries := by
  decide

theorem VariantType.isTable : Tag.IsTable "VariantType" entries :=
  hasPlainNames.isTable (by decide)

namespace PropertyUsage

theorem hasPlainNames : Tag.HasPlainNames "PropertyUsage" entries := by
  decide

theorem isTable : Tag.IsTable "PropertyUsage" entries :=
  hasPlainNames.isTable (by decide)

/-- A usage that is shown by a name. -/
def IsNamed (usage : PropertyUsage) : Prop :=
  usage.tagName?.isSome = true

theorem isNamed_default : IsNamed default :=
  rfl

/-- A usage that a tag names has a name. -/
theorem isNamed_of_ofTag? {text : String} {usage : PropertyUsage}
    (found : ofTag? text = some usage) : usage.IsNamed := by
  rcases Tag.exists_mem_of_find?_eq_some found with ⟨name, member⟩
  have listed : (entries.find? fun entry => entry.2 == usage).isSome = true :=
    List.find?_isSome.mpr ⟨_, member, beq_self_eq_true usage⟩
  simpa [IsNamed, tagName?] using listed

/-- A usage that has a name is read back from what it is shown as. -/
theorem ofTag?_render {usage : PropertyUsage} (isNamed : usage.IsNamed) :
    ofTag? usage.render = some usage := by
  rcases Option.isSome_iff_exists.mp isNamed with ⟨name, named⟩
  rcases Option.map_eq_some_iff.mp named with ⟨⟨shown, value⟩, found, rfl⟩
  have same : value = usage := by simpa using List.find?_some found
  subst same
  rw [render, named]
  exact isTable.find?_of_mem (List.mem_of_find?_eq_some found)

end PropertyUsage

/-! ## Names that are listed -/

/-- The names of a mode. -/
def RpcMode.names : RpcMode → List String
  | puppet => [puppet.name, "slave"]
  | remotesync => [remotesync.name, "sync"]
  | mode => [mode.name]

/-- In an enumeration that is listed with one name for each value, these are the names. -/
theorem mem_singleton_name_iff {α : Type} {all : List α} (complete : ∀ value, value ∈ all)
    (nameOf : α → String) (value : α) (name : String) :
    name ∈ [nameOf value] ↔ (name, value) ∈ all.map fun value => (nameOf value, value) := by
  simp only [List.mem_singleton, List.mem_map, Prod.mk.injEq]
  constructor
  · rintro rfl
    exact ⟨value, complete value, rfl, rfl⟩
  · rintro ⟨_, _, rfl, rfl⟩
    rfl

theorem RpcMode.mem_names_iff (mode : RpcMode) (name : String) :
    name ∈ mode.names ↔ (name, mode) ∈ entries := by
  cases mode <;> simp [names, entries, all, RpcMode.name]

theorem PropertyUsage.mem_tagName?_iff (usage : PropertyUsage) (name : String) :
    name ∈ usage.tagName?.toList ↔ (name, usage) ∈ entries := by
  have own : ∀ entry ∈ entries, entry.2.tagName? = some entry.1 := by decide
  rw [Option.mem_toList]
  constructor
  · intro isName
    obtain ⟨⟨_, _⟩, found, rfl⟩ := Option.map_eq_some_iff.mp isName
    have same := List.find?_some found
    obtain rfl := eq_of_beq same
    exact List.mem_of_find?_eq_some found
  · exact own (name, usage)

/-- Each of the four enumerations whose values are named by tags is looked up by exactly the
spellings of the names of its values. -/
theorem ofTag?_readsSpellings :
    Tag.ReadsSpellings "PropertyHint" (fun hint => [hint.name]) PropertyHint.ofTag? ∧
    Tag.ReadsSpellings "MethodRpcMode" RpcMode.names RpcMode.ofTag? ∧
    Tag.ReadsSpellings "VariantType" (fun type => [type.name]) VariantType.ofTag? ∧
    Tag.ReadsSpellings "PropertyUsage" (fun usage => usage.tagName?.toList) PropertyUsage.ofTag? := by
  have allHints (hint : PropertyHint) : hint ∈ PropertyHint.all := by cases hint <;> decide
  have allTypes (type : VariantType) : type ∈ VariantType.all := by cases type <;> decide
  exact ⟨PropertyHint.isTable.readsSpellings PropertyHint.hasPlainNames
      (mem_singleton_name_iff allHints PropertyHint.name),
    RpcMode.isTable.readsSpellings RpcMode.hasPlainNames RpcMode.mem_names_iff,
    VariantType.isTable.readsSpellings VariantType.hasPlainNames
      (mem_singleton_name_iff allTypes VariantType.name),
    PropertyUsage.isTable.readsSpellings PropertyUsage.hasPlainNames
      PropertyUsage.mem_tagName?_iff⟩

end NativeScript.Engine
