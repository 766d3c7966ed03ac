import NativeScript.Proofs.TagFault

/-!
# How field tags add up

The tags of a field may stand in one attribute or in many, and other attributes may stand
anywhere between them.  What they say depends on the tags alone: for each key the value that
comes last.  An attribute that keeps the field out says so wherever it stands, but it does not
hide a key that is not known.
-/

namespace NativeScript.Scan.FieldTags

open Source (Attribute Token)

/-! ## Tags in one attribute -/

/-- Tokens that list tags, with commas between them and perhaps one at the end. -/
inductive ListsTags : List Token → List (TagKey × String) → Prop
  | nil : ListsTags [] []
  | last {part : List Token} {key : TagKey} {value : String} (isTag : IsTag part key value) :
      ListsTags part [(key, value)]
  | cons {part tokens : List Token} {key : TagKey} {value : String}
      {pairs : List (TagKey × String)} (joint : Bool) (isTag : IsTag part key value)
      (further : ListsTags tokens pairs) :
      ListsTags (part ++ .mark ',' joint :: tokens) ((key, value) :: pairs)

variable {part tokens : List Token} {key : TagKey} {value : String}
  {pairs others : List (TagKey × String)}

theorem IsTag.splitCommas_eq (isTag : IsTag part key value) : splitCommas part = [part] := by
  obtain ⟨joint, text, rfl, _⟩ := isTag
  rfl

theorem IsTag.splitCommas_append (isTag : IsTag part key value) (joint : Bool)
    (tokens : List Token) :
    splitCommas (part ++ .mark ',' joint :: tokens) = part :: splitCommas tokens := by
  obtain ⟨between, text, rfl, _⟩ := isTag
  rfl

theorem IsTag.ne_nil (isTag : IsTag part key value) : part ≠ [] := by
  obtain ⟨joint, text, rfl, _⟩ := isTag
  exact List.cons_ne_nil _ _

theorem IsTag.readTags_cons (isTag : IsTag part key value) (parts : List (List Token)) :
    readTags (part :: parts) = (readTags parts).map ((key, value) :: ·) := by
  rw [readTags.eq_3 part parts fun empty => absurd empty isTag.ne_nil,
    readTag_eq_ok_iff.mpr isTag]

/-- Listed tags are read in their order. -/
theorem ListsTags.readTags_eq (lists : ListsTags tokens pairs) :
    readTags (splitCommas tokens) = .ok pairs := by
  induction lists with
  | nil => rfl
  | last isTag =>
      rw [isTag.splitCommas_eq, isTag.readTags_cons]
      rfl
  | cons joint isTag _ ih =>
      rw [isTag.splitCommas_append, isTag.readTags_cons, ih]
      rfl

/-- A text that begins with a tag holds an equals sign, which no text that keeps a field out
does. -/
theorem IsTag.not_keepOut_append (isTag : IsTag part key value) (tokens : List Token) :
    ¬ KeepOut (part ++ tokens) := by
  obtain ⟨joint, text, rfl, _⟩ := isTag
  have plain : ∀ word ∈ ignoreWords, '=' ∉ word.toList := by decide
  intro keepOut
  apply plain _ keepOut
  simp [Token.renderAll, Token.render]

theorem ListsTags.not_keepOut (lists : ListsTags tokens pairs) : ¬ KeepOut tokens := by
  cases lists with
  | nil => decide
  | last isTag => simpa using isTag.not_keepOut_append []
  | cons joint isTag further => exact isTag.not_keepOut_append _

/-! ## Tags in many attributes -/

/-- Attributes that hold no tags: those of another name, bare ones, and those that keep the field
from being a property. -/
inductive IsAside (name : String) (item : Attribute) : Prop
  | foreign (other : item.path.isName name = false) : IsAside name item
  | bare (isBare : item.content = .bare) : IsAside name item
  | keepOut (keepsOut : IsKeepOut name item) : IsAside name item

/-- Tags stand in attributes of this name, in their order, with others between them. -/
inductive SpreadOver (name : String) : List (TagKey × String) → List Attribute → Prop
  | nil : SpreadOver name [] []
  | listed {item : Attribute} {items : List Attribute} {tokens : List Token}
      {pairs others : List (TagKey × String)} (named : item.path.isName name = true)
      (content : item.content = .list tokens) (lists : ListsTags tokens pairs)
      (further : SpreadOver name others items) : SpreadOver name (pairs ++ others) (item :: items)
  | aside {item : Attribute} {items : List Attribute} {pairs : List (TagKey × String)}
      (isAside : IsAside name item) (further : SpreadOver name pairs items) :
      SpreadOver name pairs (item :: items)

variable {name : String} {item : Attribute} {attributes : List Attribute}

theorem ListsTags.ofTokens_eq (lists : ListsTags tokens pairs) :
    ofTokens tokens = .ok { values := pairs } := by
  have listed : ¬ ignoreWords.contains (Token.renderAll tokens) = true := by
    simpa [KeepOut] using lists.not_keepOut
  rw [ofTokens, if_neg listed, lists.readTags_eq]
  rfl

theorem ofAttribute_eq_of_lists (className field : String) (named : item.path.isName name = true)
    (content : item.content = .list tokens) (lists : ListsTags tokens pairs) :
    ofAttribute name className field item = .ok { values := pairs } := by
  rw [ofAttribute, if_pos named, content]
  simp only [lists.ofTokens_eq]

theorem IsAside.exists_ofAttribute_eq (isAside : IsAside name item) (className field : String) :
    ∃ ignored, ofAttribute name className field item = .ok { ignored } := by
  unfold ofAttribute
  cases isAside with
  | foreign other =>
      rw [other]
      exact ⟨false, rfl⟩
  | bare isBare =>
      rw [isBare]
      exact ⟨false, by split <;> rfl⟩
  | keepOut keepsOut =>
      obtain ⟨named, tokens, content, keepOut⟩ := keepsOut
      have found : ignoreWords.contains (Token.renderAll tokens) = true := by
        simpa [KeepOut] using keepOut
      have kept : ofTokens tokens = .ok { ignored := true } := if_pos found
      rw [if_pos named, content]
      simp only [kept]
      exact ⟨true, rfl⟩

/-- Tags are read as they are spread. -/
theorem SpreadOver.exists_ofAttributes_eq (spread : SpreadOver name pairs attributes)
    (className field : String) :
    ∃ ignored, ofAttributes name className field attributes = .ok { ignored, values := pairs } := by
  induction spread with
  | nil => exact ⟨false, rfl⟩
  | listed named content lists _ ih =>
      obtain ⟨ignored, isOk⟩ := ih
      rw [ofAttributes, ofAttribute_eq_of_lists className field named content lists, isOk]
      exact ⟨ignored, by simp [Except.map, append]⟩
  | aside isAside _ ih =>
      obtain ⟨ignored, isOk⟩ := ih
      obtain ⟨first, here⟩ := isAside.exists_ofAttribute_eq className field
      rw [ofAttributes, here, isOk]
      exact ⟨first || ignored, rfl⟩

/-! ## The last value -/

/-- A key is given this value, and none after it. -/
def IsLast (pairs : List (TagKey × String)) (key : TagKey) (value : String) : Prop :=
  ∃ before after, pairs = before ++ (key, value) :: after ∧ ∀ pair ∈ after, pair.1 ≠ key

theorem value?_eq_some_iff_isLast {tags : FieldTags} :
    tags.value? key = some value ↔ IsLast tags.values key value := by
  rw [value?, List.lookup_eq_some_iff]
  constructor
  · rintro ⟨after, before, split, others⟩
    refine ⟨before.reverse, after.reverse, by simpa using congrArg List.reverse split, ?_⟩
    intro pair member same
    have other := others pair (List.mem_reverse.mp member)
    simp [same] at other
  · rintro ⟨before, after, split, others⟩
    refine ⟨after.reverse, before.reverse, by simp [split], ?_⟩
    intro pair member
    simpa using (others pair (List.mem_reverse.mp member)).symm

theorem value?_eq_none_iff {tags : FieldTags} :
    tags.value? key = none ↔ ∀ pair ∈ tags.values, pair.1 ≠ key := by
  rw [value?, List.lookup_eq_none_iff]
  constructor
  · intro absent pair member same
    have other := absent pair (List.mem_reverse.mpr member)
    simp [same] at other
  · intro absent pair member
    simpa using (absent pair (List.mem_reverse.mp member)).symm

/-! ## Unknown keys -/

theorem IsTag.eq_of_writesKey (isTag : IsTag part key value) {written : String}
    (writes : WritesKey part written) : written = key.name := by
  obtain ⟨joint, text, rfl, _⟩ := isTag
  cases writes
  rfl

/-- A key that is not known cannot be read, whatever else stands among the attributes. -/
theorem exists_ofAttributes_eq_error (className field : String) {written : String}
    (carries : Carries name attributes part) (writes : WritesKey part written)
    (unknown : ∀ known : TagKey, known.name ≠ written) :
    ∃ error, ofAttributes name className field attributes = .error error := by
  cases outcome : ofAttributes name className field attributes with
  | error error => exact ⟨error, rfl⟩
  | ok tags =>
      have readable := ((ofAttributes_exact name className field attributes tags).mp outcome).1
      obtain ⟨item, member, named, tokens, content, kept, isPart⟩ := carries
      rcases readable item member named with isBare | ⟨listed, isList, tokensReadable⟩
      · rw [isBare] at content
        cases content
      · rw [isList] at content
        cases content
        obtain ⟨key, value, isTag⟩ := (tokensReadable.resolve_left kept) part isPart
        exact absurd (isTag.eq_of_writesKey writes).symm (unknown key)

/-! ## Merging -/

/-- However tags are spread over the attributes of a field, they are read, and each key has the
value that comes last.  The field is kept out exactly if some attribute says so.  A key that is
not known is an error also beside such an attribute. -/
theorem ofAttributes_merges (name className field : String) (attributes : List Attribute) :
    (∀ pairs, SpreadOver name pairs attributes →
      ∃ tags, ofAttributes name className field attributes = .ok tags ∧
        (∀ key value, tags.value? key = some value ↔ IsLast pairs key value) ∧
        (∀ key, tags.value? key = none ↔ ∀ pair ∈ pairs, pair.1 ≠ key) ∧
        (tags.ignored = true ↔ ∃ item ∈ attributes, IsKeepOut name item)) ∧
      ∀ part written, Carries name attributes part → WritesKey part written →
        (∀ known : TagKey, known.name ≠ written) →
        ∃ error, ofAttributes name className field attributes = .error error := by
  refine ⟨fun pairs spread => ?_, fun part written => exists_ofAttributes_eq_error className field⟩
  obtain ⟨ignored, isOk⟩ := spread.exists_ofAttributes_eq className field
  have isSaid := ((ofAttributes_exact name className field attributes _).mp isOk).2
  refine ⟨_, isOk, fun key value => value?_eq_some_iff_isLast, fun key => value?_eq_none_iff, ?_⟩
  rw [isSaid, attributesSay_ignored_iff]

/-- A field with two attributes of tags, one between them that keeps it out and one of another
name; with a colour among its tags it cannot be read. -/
theorem ofAttributes_merges_range :
    let item (name : String) (tokens : List Token) : Attribute := ⟨.ofName name, .list tokens⟩
    let tag (key value : String) : List Token := [.word key, .mark '=' false, .literal value]
    let first := item "godot" (tag "hint" "\"enum\"" ++ .mark ',' false :: tag "get" "\"hp\"")
    let attributes := [first, item "godot" [.word "skip"], item "serde" [.word "default"],
      item "godot" (tag "hint" "\"range\"")]
    let pairs : List (TagKey × String) := [(.hint, "enum"), (.getter, "hp"), (.hint, "range")]
    let broken := item "godot" (tag "colour" "\"red\"") :: attributes
    SpreadOver "godot" pairs attributes ∧
      (∃ tags, ofAttributes "godot" "Player" "hp" attributes = .ok tags ∧
        tags.value? .hint = some "range" ∧ tags.value? .usage = none ∧ tags.ignored = true) ∧
      ∃ error, ofAttributes "godot" "Player" "hp" broken = .error error := by
  intro item tag first attributes pairs broken
  have isTag (key : TagKey) (value : String)
      (isString : Source.Literal.stringValue? ("\"" ++ value ++ "\"") = some value) :
      IsTag (tag key.name ("\"" ++ value ++ "\"")) key value :=
    ⟨false, _, rfl, isString⟩
  have listsFirst : ListsTags (tag "hint" "\"enum\"" ++ .mark ',' false :: tag "get" "\"hp\"")
      [(.hint, "enum"), (.getter, "hp")] :=
    .cons false (isTag .hint "enum" (by decide)) (.last (isTag .getter "hp" (by decide)))
  have listsLast : ListsTags (tag "hint" "\"range\"") [(.hint, "range")] :=
    .last (isTag .hint "range" (by decide))
  have keepsOut : IsKeepOut "godot" (item "godot" [.word "skip"]) := ⟨rfl, _, rfl, by decide⟩
  have spread : SpreadOver "godot" pairs attributes :=
    .listed rfl rfl listsFirst <| .aside (.keepOut keepsOut) <| .aside (.foreign rfl) <|
      .listed rfl rfl listsLast .nil
  obtain ⟨tags, isOk, isLast, isAbsent, isIgnored⟩ :=
    (ofAttributes_merges "godot" "Player" "hp" attributes).1 pairs spread
  refine ⟨spread, ⟨tags, isOk, ?_, ?_, ?_⟩, ?_⟩
  · exact (isLast .hint "range").mpr ⟨[(.hint, "enum"), (.getter, "hp")], [], rfl, by simp⟩
  · exact (isAbsent .usage).mpr (by decide)
  · exact isIgnored.mpr ⟨_, by simp [attributes], keepsOut⟩
  · have carries : Carries "godot" broken (tag "colour" "\"red\"") :=
      ⟨_, List.mem_cons_self, rfl, _, rfl, by decide, List.mem_cons_self⟩
    exact (ofAttributes_merges "godot" "Player" "hp" broken).2 _ "colour" carries
      (.word (by simp)) fun known => by cases known <;> decide

end NativeScript.Scan.FieldTags
