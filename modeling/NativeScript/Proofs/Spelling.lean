import NativeScript.Engine.Tag
import NativeScript.Proofs.LetterCase

/-!
# Spellings of tags

A tag stands between blanks.  It may begin with the binding namespace and then with the name of
its enumeration, both spelled exactly, and ends in a name whose letters may be in any case and
may have underscores anywhere around them.  No name holds a blank, a dot or an underscore or
begins like the name of its enumeration, so these parts do not get in each other's way, and a
tag is read as a value exactly if it is a spelling of one of its names.
-/

namespace NativeScript.Engine

namespace Tag

/-! ## Spellings -/

/-- A text is a name in which letters have changed their case and underscores were put in. -/
inductive Respells : List Char → List Char → Prop
  | nil : Respells [] []
  | underscore {text name : List Char} (rest : Respells text name) : Respells ('_' :: text) name
  | letter {other char : Char} {text name : List Char} (same : other.toLower = char.toLower)
      (rest : Respells text name) : Respells (other :: text) (char :: name)

/-- A text is another one, or has `lead` in front of it. -/
def MayLead (lead : String) (text rest : List Char) : Prop :=
  text = rest ∨ text = lead.toList ++ rest

/-- A tag spells a name of the enumeration `family`. -/
def Spells (family text name : String) : Prop :=
  ∃ before inner after rest respelled,
    text.toList = before ++ (inner ++ after) ∧ Text.AllBlank before ∧ Text.AllBlank after ∧
      MayLead (Kind.bindingSpace ++ ".") inner rest ∧ MayLead family rest respelled ∧
      Respells respelled name.toList

theorem Respells.refl (name : List Char) : Respells name name := by
  induction name with
  | nil => exact .nil
  | cons char name ih => exact .letter rfl ih

/-- A name that is respelled without further parts is spelled. -/
theorem Respells.spells {text name : String} (respells : Respells text.toList name.toList)
    (family : String) : Spells family text name :=
  ⟨[], text.toList, [], text.toList, text.toList, by simp, by simp [Text.AllBlank],
    by simp [Text.AllBlank], Or.inl rfl, Or.inl rfl, respells⟩

/-- Without its underscores and the case of its letters, a respelled name is the name. -/
theorem respells_iff {text name : List Char} (single : '_' ∉ name) :
    Respells text name ↔ fold text = Text.foldCase name := by
  constructor
  · intro respells
    induction respells with
    | nil => rfl
    | underscore rest ih => exact ih single
    | @letter other char text name same rest ih =>
        rw [List.mem_cons, not_or] at single
        have notMark : other ≠ '_' := by
          rintro rfl
          exact Text.toLower_ne_underscore (Ne.symm single.1) same.symm
        have ih := ih single.2
        simp_all [fold, Text.foldCase]
  · intro same
    induction text generalizing name with
    | nil =>
        obtain rfl := List.map_eq_nil_iff.mp same.symm
        exact .nil
    | cons other text ih =>
        by_cases mark : other = '_'
        · subst mark
          exact .underscore (ih single same)
        · have kept : fold (other :: text) = other.toLower :: fold text := by
            simp [fold, Text.foldCase, mark]
          rw [kept] at same
          obtain ⟨char, rest, rfl, isLetter, isRest⟩ := List.map_eq_cons_iff.mp same.symm
          rw [List.mem_cons, not_or] at single
          exact .letter isLetter.symm (ih single.2 isRest.symm)

/-! ## What stands in front -/

theorem mayLead_dropLead (lead : String) (text : List Char) :
    MayLead lead text (dropLead lead text) := by
  unfold dropLead
  cases found : Text.after? lead.toList text with
  | none => exact Or.inl rfl
  | some rest => exact Or.inr (Text.after?_eq_some_iff.mp found)

/-- What may be in front is dropped, unless the text behind begins with the same again. -/
theorem MayLead.dropLead_eq {lead : String} {text rest : List Char} (may : MayLead lead text rest)
    (other : ¬ lead.toList <+: rest) : dropLead lead text = rest := by
  unfold dropLead
  rcases may with rfl | rfl
  · cases found : Text.after? lead.toList text with
    | none => rfl
    | some after => exact absurd ⟨after, (Text.after?_eq_some_iff.mp found).symm⟩ other
  · rw [Text.after?_append, Option.getD_some]

theorem MayLead.forall_mem {lead : String} {text rest : List Char} (may : MayLead lead text rest)
    {holds : Char → Prop} (inLead : ∀ char ∈ lead.toList, holds char)
    (inRest : ∀ char ∈ rest, holds char) : ∀ char ∈ text, holds char := by
  rcases may with rfl | rfl
  · exact inRest
  · exact List.forall_mem_append.mpr ⟨inLead, inRest⟩

/-! ## Names -/

/-- Whether a name holds letters and digits only, and does not begin like the name of its
enumeration, in whatever case. -/
def isPlainName (family name : List Char) : Bool :=
  name.all Char.isAlphanum && !(Text.foldCase family).isPrefixOf (Text.foldCase name)

/-- An enumeration and its values have plain names, and no two of its names differ in their case
alone. -/
structure HasPlainNames {α : Type} (family : String) (entries : List (String × α)) : Prop where
  own : family.toList.all Char.isAlphanum = true
  names : ∀ entry ∈ entries, isPlainName family.toList entry.1.toList = true
  distinct : (entries.map fun entry => Text.foldCase entry.1.toList).Nodup

instance {α : Type} (family : String) (entries : List (String × α)) :
    Decidable (HasPlainNames family entries) :=
  decidable_of_iff
    (family.toList.all Char.isAlphanum = true ∧
      (∀ entry ∈ entries, isPlainName family.toList entry.1.toList = true) ∧
      (entries.map fun entry => Text.foldCase entry.1.toList).Nodup)
    ⟨fun ⟨own, names, distinct⟩ => ⟨own, names, distinct⟩,
      fun plain => ⟨plain.own, plain.names, plain.distinct⟩⟩

theorem isPlainName_iff {family name : List Char} :
    isPlainName family name = true ↔
      (∀ char ∈ name, char.isAlphanum = true) ∧ ¬ Text.foldCase family <+: Text.foldCase name := by
  rw [isPlainName, Bool.and_eq_true, List.all_eq_true, Bool.not_eq_true', ← Bool.not_eq_true,
    List.isPrefixOf_iff_prefix]

/-- The binding namespace in front of a tag holds no blank. -/
theorem not_isBlank_of_mem_space :
    ∀ char ∈ (Kind.bindingSpace ++ ".").toList, Text.isBlank char = false :=
  -- The list of characters is searched, not the finite type of all characters.
  @of_decide_eq_true _ (List.decidableBAll _ _) rfl

/-- A letter or digit has no meaning of its own in a tag. -/
theorem clean_of_isAlphanum {char : Char} (plain : char.isAlphanum = true) :
    Text.isBlank char = false ∧ char ≠ '.' := by
  refine ⟨Text.isBlank_of_isAlphanum plain, ?_⟩
  rintro rfl
  cases plain

theorem underscore_notMem_of_isAlphanum {name : List Char}
    (plain : ∀ char ∈ name, char.isAlphanum = true) : '_' ∉ name := by
  intro mark
  cases plain '_' mark

/-- A respelled name holds no blank and no dot. -/
theorem Respells.clean {text name : List Char} (respells : Respells text name)
    (plain : ∀ char ∈ name, char.isAlphanum = true) :
    ∀ char ∈ text, Text.isBlank char = false ∧ char ≠ '.' := by
  induction respells with
  | nil => simp
  | underscore rest ih => exact List.forall_mem_cons.mpr ⟨by decide, ih plain⟩
  | @letter other char text name same rest ih =>
      rw [List.forall_mem_cons] at plain
      have isLetter : other.isAlphanum = true := by
        rw [← Text.isAlphanum_toLower, same, Text.isAlphanum_toLower]
        exact plain.1
      exact List.forall_mem_cons.mpr ⟨clean_of_isAlphanum isLetter, ih plain.2⟩

/-- Letters in front of a text stay in front when underscores and case are dropped. -/
theorem prefix_fold_of_prefix {lead text : List Char}
    (plain : ∀ char ∈ lead, char.isAlphanum = true) (begins : lead <+: text) :
    Text.foldCase lead <+: fold text := by
  have kept : lead.filter (· != '_') = lead := by
    rw [List.filter_eq_self]
    intro char member
    exact bne_iff_ne.mpr fun mark => underscore_notMem_of_isAlphanum plain (mark ▸ member)
  have filtered := begins.filter (· != '_')
  rw [kept] at filtered
  exact filtered.map Char.toLower

namespace HasPlainNames

variable {α : Type} {family : String} {entries : List (String × α)}

/-- The parts of a spelling do not get in each other's way: none of them is dropped but what
stands in front of the name. -/
theorem key_eq_of_spells (plain : HasPlainNames family entries) {name text : String} {value : α}
    (member : (name, value) ∈ entries) (spells : Spells family text name) :
    key family text = Text.foldCase name.toList := by
  obtain ⟨before, inner, after, rest, respelled, isText, blankBefore, blankAfter, inSpace,
    inFamily, respells⟩ := spells
  have plainFamily := List.all_eq_true.mp plain.own
  obtain ⟨plainName, apart⟩ := isPlainName_iff.mp (plain.names _ member)
  have isFolded := (respells_iff (underscore_notMem_of_isAlphanum plainName)).mp respells
  have cleanRest : ∀ char ∈ rest, Text.isBlank char = false ∧ char ≠ '.' :=
    inFamily.forall_mem (fun char inName => clean_of_isAlphanum (plainFamily char inName))
      (respells.clean plainName)
  have cleanInner : ∀ char ∈ inner, Text.isBlank char = false :=
    inSpace.forall_mem not_isBlank_of_mem_space fun char inRest => (cleanRest char inRest).1
  have trimmed : Text.trim text.toList = inner :=
    Text.trim_eq_iff.mpr ⟨before, after, isText, blankBefore, blankAfter,
      fun char isHead => cleanInner char (List.mem_of_mem_head? isHead),
      fun char isLast => cleanInner char (List.mem_of_mem_getLast? isLast)⟩
  have unspaced : dropLead (Kind.bindingSpace ++ ".") inner = rest := by
    refine inSpace.dropLead_eq fun begins => ?_
    exact (cleanRest '.' (begins.subset (by decide))).2 rfl
  have unnamed : dropLead family rest = respelled := by
    refine inFamily.dropLead_eq fun begins => apart ?_
    rw [← isFolded]
    exact prefix_fold_of_prefix plainFamily begins
  rw [key, trimmed, unspaced, unnamed, isFolded]

/-- The key of a tag is a name, up to case, exactly if the tag spells the name. -/
theorem key_eq_iff (plain : HasPlainNames family entries) {name text : String} {value : α}
    (member : (name, value) ∈ entries) :
    key family text = Text.foldCase name.toList ↔ Spells family text name := by
  refine ⟨fun same => ?_, plain.key_eq_of_spells member⟩
  obtain ⟨plainName, _⟩ := isPlainName_iff.mp (plain.names _ member)
  obtain ⟨before, after, isText, blankBefore, blankAfter, _⟩ :=
    Text.trim_eq_iff.mp (rfl : Text.trim text.toList = _)
  exact ⟨before, _, after, _, _, isText, blankBefore, blankAfter, mayLead_dropLead _ _,
    mayLead_dropLead _ _, (respells_iff (underscore_notMem_of_isAlphanum plainName)).mpr same⟩

/-- A plain name is its own key, up to case. -/
theorem key_name (plain : HasPlainNames family entries) {entry : String × α}
    (member : entry ∈ entries) : key family entry.1 = Text.foldCase entry.1.toList :=
  (plain.key_eq_iff member).mpr ((Respells.refl _).spells family)

end HasPlainNames

end Tag

end NativeScript.Engine
