import NativeScript.Proofs.FieldTags

/-!
# What is wrong with field tags

A field whose tags cannot be read or applied carries the tag that is wrong: between two commas
in one of its attributes stand tokens whose key is not known, whose value is not one that the
key accepts, or that are no tag at all.
-/

namespace NativeScript

/-- Whether a value is one that a closed tag accepts. -/
def ClosedTag.accepts : ClosedTag → String → Bool
  | hint, text => (Engine.PropertyHint.ofTag? text).isSome
  | usage, text => (Engine.PropertyUsage.ofTag? text).isSome
  | rset, text => (Engine.RpcMode.ofTag? text).isSome

namespace Scan.FieldTags

open Source (Attribute Field Token)

/-! ## One tag -/

/-- Tokens begin with the path of a tag.  A word is a key itself; a path of several segments,
or with a `::` in front, is the empty key. -/
inductive WritesKey : List Token → String → Prop
  | word {name : String} {rest : List Token}
      (ends : ∀ joint after, rest ≠ .mark ':' true :: .mark ':' joint :: after) :
      WritesKey (.word name :: rest) name
  | long (name next : String) (joint : Bool) (rest : List Token) :
      WritesKey (.word name :: .mark ':' true :: .mark ':' joint :: .word next :: rest) ""
  | absolute (name : String) (joint : Bool) (rest : List Token) :
      WritesKey (.mark ':' true :: .mark ':' joint :: .word name :: rest) ""

theorem writesKey_of_readKey?_eq_some {tokens rest : List Token} {key : String}
    (read : readKey? tokens = some (key, rest)) : WritesKey tokens key := by
  unfold readKey? at read
  split at read
  · rename_i name after
    rcases Option.map_eq_some_iff.mp read with ⟨⟨long, found⟩, segments, same⟩
    obtain ⟨rfl, rfl⟩ := Prod.mk.inj same
    unfold readSegments? at segments
    split at segments
    · rename_i joint next more
      rcases Option.map_eq_some_iff.mp segments with ⟨_, _, isLong⟩
      obtain ⟨rfl, rfl⟩ := Prod.mk.inj isLong
      exact .long name next joint more
    · cases segments
    · rename_i ends
      obtain ⟨rfl, rfl⟩ := Prod.mk.inj (Option.some.inj segments)
      exact .word fun joint after => ends joint after
  · rename_i joint name after
    rcases Option.map_eq_some_iff.mp read with ⟨_, _, same⟩
    obtain ⟨rfl, rfl⟩ := Prod.mk.inj same
    exact .absolute name joint after
  · cases read

/-- Tokens between two commas are no tag, for the reason that a fault tells. -/
inductive BreaksTag (tokens : List Token) : ReadFault → Prop
  | unknownKey {key : String} (written : WritesKey tokens key)
      (unknown : ∀ known : TagKey, known.name ≠ key) : BreaksTag tokens (.unknownKey key)
  | unreadable (noTag : ∀ key value, ¬ IsTag tokens key value) : BreaksTag tokens .unreadable

theorem breaksTag_of_readTag_eq_error {tokens : List Token} {fault : ReadFault}
    (failed : readTag tokens = .error fault) : BreaksTag tokens fault := by
  have noTag : ∀ key value, ¬ IsTag tokens key value := by
    intro key value isTag
    rw [readTag_eq_ok_iff.mpr isTag] at failed
    cases failed
  cases fault with
  | unreadable => exact .unreadable noTag
  | unknownKey key =>
      unfold readTag at failed
      split at failed
      · cases failed
      · rename_i name rest read
        split at failed
        · rename_i unknown
          obtain rfl := ReadFault.unknownKey.inj (Except.error.inj failed)
          refine .unknownKey (writesKey_of_readKey?_eq_some read) fun known same => ?_
          rw [TagKey.ofName?_eq_some_iff.mpr same] at unknown
          cases unknown
        · split at failed
          · split at failed <;> cases failed
          · cases failed

theorem exists_of_readTags_eq_error {parts : List (List Token)} {fault : ReadFault}
    (failed : readTags parts = .error fault) :
    ∃ part ∈ dropFinalComma parts, BreaksTag part fault := by
  fun_induction readTags parts with
  | case1 => cases failed
  | case2 => cases failed
  | case3 part parts inner other stopped =>
      obtain rfl := Except.error.inj failed
      rw [dropFinalComma_cons inner]
      exact ⟨part, List.mem_cons_self, breaksTag_of_readTag_eq_error stopped⟩
  | case4 part parts inner tag isOk ih =>
      rcases ih (Outcome.map_eq_error_iff.mp failed) with ⟨other, member, breaks⟩
      rw [dropFinalComma_cons inner]
      exact ⟨other, List.mem_cons_of_mem part member, breaks⟩

/-! ## The attributes of a field -/

/-- Attributes carry a tag: one of them, of the name for field tags, lists these tokens between
two commas and does not keep the field out. -/
def Carries (name : String) (attributes : List Attribute) (part : List Token) : Prop :=
  ∃ item ∈ attributes, item.path.isName name = true ∧
    ∃ tokens, item.content = .list tokens ∧ ¬ KeepOut tokens ∧
      part ∈ dropFinalComma (splitCommas tokens)

/-- An error about the tags of a field of a class tells the field, and the tag that is wrong
stands there: its key is unknown, its value is not one that its key accepts, it is no tag at
all, or the attribute is an assignment. -/
inductive IsTagError (name className : String) (field : Field) : ScanError → Prop
  | unknownKey {part : List Token} {key : String} (carries : Carries name field.attributes part)
      (written : WritesKey part key) (unknown : ∀ known : TagKey, known.name ≠ key) :
      IsTagError name className field (.unknownTagKey className field.name key)
  | unknownValue {part : List Token} {tag : ClosedTag} {value : String}
      (carries : Carries name field.attributes part) (isTag : IsTag part tag.key value)
      (refused : tag.accepts value = false) :
      IsTagError name className field (.unknownTagValue className field.name tag value)
  | unreadable {part : List Token} (carries : Carries name field.attributes part)
      (noTag : ∀ key value, ¬ IsTag part key value) :
      IsTagError name className field (.invalidTag className field.name .unreadable)
  | assigned {item : Attribute} {code : Source.Code} (member : item ∈ field.attributes)
      (named : item.path.isName name = true) (isValue : item.content = .value code) :
      IsTagError name className field (.invalidTag className field.name (.notAList name))

theorem isTagError_of_ofAttribute_eq_error {name className : String} {field : Field}
    {item : Attribute} (member : item ∈ field.attributes) {error : ScanError}
    (failed : ofAttribute name className field.name item = .error error) :
    IsTagError name className field error := by
  unfold ofAttribute at failed
  split at failed
  · rename_i named
    split at failed
    · cases failed
    · rename_i code isValue
      obtain rfl := Except.error.inj failed
      exact .assigned member named isValue
    · rename_i tokens isList
      have broken {fault : ReadFault} (stopped : ofTokens tokens = .error fault) :
          ∃ part, Carries name field.attributes part ∧ BreaksTag part fault := by
        unfold ofTokens at stopped
        split at stopped
        · cases stopped
        · rename_i listed
          have kept : ¬ KeepOut tokens := by simpa [KeepOut] using listed
          rcases exists_of_readTags_eq_error (Outcome.map_eq_error_iff.mp stopped) with
            ⟨part, isPart, breaks⟩
          exact ⟨part, ⟨item, member, named, tokens, isList, kept, isPart⟩, breaks⟩
      split at failed
      · rename_i key stopped
        obtain rfl := Except.error.inj failed
        rcases broken stopped with ⟨part, carries, breaks⟩
        cases breaks with
        | unknownKey written unknown => exact .unknownKey carries written unknown
      · rename_i stopped
        obtain rfl := Except.error.inj failed
        rcases broken stopped with ⟨part, carries, breaks⟩
        cases breaks with
        | unreadable noTag => exact .unreadable carries noTag
      · cases failed
  · cases failed

theorem isTagError_of_ofAttributes_eq_error {name className : String} {field : Field}
    {error : ScanError}
    (failed : ofAttributes name className field.name field.attributes = .error error) :
    IsTagError name className field error := by
  suffices walk : ∀ items, ofAttributes name className field.name items = .error error →
      ∃ item ∈ items, ofAttribute name className field.name item = .error error by
    rcases walk _ failed with ⟨item, member, stopped⟩
    exact isTagError_of_ofAttribute_eq_error member stopped
  intro items stopped
  induction items with
  | nil => cases stopped
  | cons item items ih =>
      unfold ofAttributes at stopped
      split at stopped
      · rename_i other here
        obtain rfl := Except.error.inj stopped
        exact ⟨item, List.mem_cons_self, here⟩
      · rcases ih (Outcome.map_eq_error_iff.mp stopped) with ⟨other, member, later⟩
        exact ⟨other, List.mem_cons_of_mem item member, later⟩

/-! ## Values -/

/-- The value of a key is that of a tag that the attributes carry. -/
theorem exists_carries_of_value?_eq_some {name : String} {attributes : List Attribute}
    {key : TagKey} {value : String}
    (given : (attributesSay name attributes).value? key = some value) :
    ∃ part, Carries name attributes part ∧ IsTag part key value := by
  have listed : (key, value) ∈ (attributesSay name attributes).values := by
    rcases List.lookup_eq_some_iff.mp given with ⟨before, after, split, _⟩
    rw [← List.mem_reverse, split]
    simp
  rcases List.mem_flatMap.mp listed with ⟨item, member, said⟩
  unfold attributeSays at said
  split at said
  · rename_i named
    split at said
    · rename_i tokens isList
      unfold tokensSay at said
      dsimp only at said
      split at said
      · cases said
      · rename_i kept
        rcases List.mem_filterMap.mp said with ⟨part, isPart, read⟩
        refine ⟨part, ⟨item, member, named, tokens, isList, kept, isPart⟩,
          readTag_eq_ok_iff.mp ?_⟩
        cases outcome : readTag part with
        | error fault => rw [outcome] at read; cases read
        | ok tag => rw [outcome] at read; exact congrArg _ (Option.some.inj read)
    · cases said
  · cases said

theorem exists_of_closed_eq_error {α : Type} [Inhabited α] {tags : FieldTags} {tag : ClosedTag}
    {ofTag? : String → Option α} {property : Entry.Property} {error : ScanError}
    (failed : tags.closed tag ofTag? property = .error error) :
    ∃ text, tags.value? tag.key = some text ∧ ofTag? text = none ∧
      error = .unknownTagValue property.className property.name tag text := by
  unfold closed at failed
  split at failed
  · cases failed
  · rename_i text given
    split at failed
    · cases failed
    · rename_i refused
      exact ⟨text, given, refused, (Except.error.inj failed).symm⟩

theorem exists_of_apply_eq_error {tags : FieldTags} {property : Entry.Property}
    {error : ScanError} (failed : tags.apply property = .error error) :
    ∃ tag text, tags.value? (ClosedTag.key tag) = some text ∧ tag.accepts text = false ∧
      error = .unknownTagValue property.className property.name tag text := by
  rw [apply_eq_readOnto] at failed
  rcases Outcome.bind_eq_error_iff.mp failed with hint | ⟨_, _, later⟩
  · rcases exists_of_closed_eq_error hint with ⟨text, given, refused, isError⟩
    exact ⟨.hint, text, given, by simp [ClosedTag.accepts, refused], isError⟩
  · rcases Outcome.bind_eq_error_iff.mp later with usage | ⟨_, _, last⟩
    · rcases exists_of_closed_eq_error usage with ⟨text, given, refused, isError⟩
      exact ⟨.usage, text, given, by simp [ClosedTag.accepts, refused], isError⟩
    · rcases Outcome.bind_eq_error_iff.mp last with rset | ⟨_, _, done⟩
      · rcases exists_of_closed_eq_error rset with ⟨text, given, refused, isError⟩
        exact ⟨.rset, text, given, by simp [ClosedTag.accepts, refused], isError⟩
      · cases done

end Scan.FieldTags

end NativeScript
