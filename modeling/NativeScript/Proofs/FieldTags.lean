import NativeScript.Proofs.Outcome
import NativeScript.Scan.FieldTags

/-!
# What field tags say

A tag is a known key, an equals sign and a string literal.  The tags of a field
can be read exactly when every attribute of the right name is bare, keeps the
field out, or lists such tags; and they can be applied exactly when the last value
given to each closed key is one that the key accepts.
-/

namespace NativeScript

theorem TagKey.ofName?_eq_some_iff {name : String} {key : TagKey} :
    TagKey.ofName? name = some key ↔ key.name = name := by
  constructor
  · intro found
    simpa using List.find?_some found
  · rintro rfl
    cases key <;> rfl

namespace Scan.FieldTags

open Engine (PropertyHint PropertyUsage RpcMode)
open Outcome (Exact)
open Source (Attribute Token)

/-! ## One tag -/

/-- The tokens of a tag: a known key and the string that it is given. -/
def IsTag (tokens : List Token) (key : TagKey) (value : String) : Prop :=
  ∃ joint text, tokens = [.word key.name, .mark '=' joint, .literal text] ∧
    Source.Literal.stringValue? text = some value

theorem eq_of_readSegments?_eq_some_false {tokens after : List Token}
    (short : readSegments? tokens = some (false, after)) : after = tokens := by
  fun_cases readSegments? tokens <;> simp_all [readSegments?]

theorem name_ne_empty (key : TagKey) : key.name ≠ "" := by
  cases key <;> decide

/-- A key that is known is a single word. -/
theorem eq_cons_of_readKey?_eq_some {tokens rest : List Token} {key : TagKey}
    (read : readKey? tokens = some (key.name, rest)) : tokens = .word key.name :: rest := by
  unfold readKey? at read
  split at read
  · rename_i name after
    rcases Option.map_eq_some_iff.mp read with ⟨⟨long, found⟩, segments, same⟩
    cases long with
    | true =>
        simp only [if_true, Prod.mk.injEq] at same
        exact absurd same.1.symm (name_ne_empty key)
    | false =>
        simp only [Bool.false_eq_true, if_false, Prod.mk.injEq] at same
        rcases same with ⟨rfl, rfl⟩
        rw [eq_of_readSegments?_eq_some_false segments]
  · rcases Option.map_eq_some_iff.mp read with ⟨⟨long, found⟩, segments, same⟩
    simp only [Prod.mk.injEq] at same
    exact absurd same.1.symm (name_ne_empty key)
  · cases read

theorem readTag_eq_ok_iff {tokens : List Token} {key : TagKey} {value : String} :
    readTag tokens = .ok (key, value) ↔ IsTag tokens key value := by
  constructor
  · intro read
    unfold readTag at read
    split at read
    · cases read
    · rename_i name rest readKey
      split at read
      · cases read
      · rename_i found ofName
        split at read
        · rename_i joint text
          split at read
          · rename_i value isString
            cases read
            rw [← TagKey.ofName?_eq_some_iff.mp ofName] at readKey
            rw [eq_cons_of_readKey?_eq_some readKey]
            exact ⟨joint, text, rfl, isString⟩
          · cases read
        · cases read
  · rintro ⟨joint, text, rfl, isString⟩
    have readKey : readKey? [.word key.name, .mark '=' joint, .literal text] =
        some (key.name, [.mark '=' joint, .literal text]) := by
      simp [readKey?, readSegments?]
    have ofName : TagKey.ofName? key.name = some key := TagKey.ofName?_eq_some_iff.mpr rfl
    simp [readTag, readKey, ofName, isString]

/-! ## The tags between parentheses -/

/-- Parts of a list between commas, without the empty one after a final comma. -/
def dropFinalComma : List (List Token) → List (List Token)
  | [] => []
  | [[]] => []
  | part :: parts => part :: dropFinalComma parts

/-- The tags among parts of a list. -/
def tagsAmong (parts : List (List Token)) : List (TagKey × String) :=
  (dropFinalComma parts).filterMap fun part => (readTag part).toOption

/-- Parts of a list that are all tags. -/
def AllTags (parts : List (List Token)) : Prop :=
  ∀ part ∈ dropFinalComma parts, ∃ key value, IsTag part key value

theorem dropFinalComma_cons {part : List Token} {parts : List (List Token)}
    (inner : part = [] → parts = [] → False) :
    dropFinalComma (part :: parts) = part :: dropFinalComma parts :=
  dropFinalComma.eq_3 part parts inner

theorem readTags_exact (parts : List (List Token)) :
    Exact (readTags parts) (AllTags parts) (tagsAmong parts) := by
  unfold AllTags tagsAmong
  fun_induction readTags parts with
  | case1 => exact Exact.ok (by simp [dropFinalComma])
  | case2 => exact Exact.ok (by simp [dropFinalComma])
  | case3 part parts inner fault stopped =>
      apply Exact.error
      intro allTags
      rw [dropFinalComma_cons inner] at allTags
      rcases allTags part List.mem_cons_self with ⟨key, value, isTag⟩
      rw [readTag_eq_ok_iff.mpr isTag] at stopped
      cases stopped
  | case4 part parts inner tag isOk ih =>
      have isTag : ∃ key value, IsTag part key value :=
        ⟨tag.1, tag.2, readTag_eq_ok_iff.mp isOk⟩
      rw [dropFinalComma_cons inner, List.filterMap_cons, isOk]
      exact ih.map.congr (by simp [isTag]) fun _ => rfl

/-- Tokens between parentheses that keep a field from being a property. -/
def KeepOut (tokens : List Token) : Prop :=
  Token.renderAll tokens ∈ ignoreWords

instance (tokens : List Token) : Decidable (KeepOut tokens) :=
  inferInstanceAs (Decidable (_ ∈ _))

/-- Tokens between parentheses that can be read. -/
def TokensReadable (tokens : List Token) : Prop :=
  KeepOut tokens ∨ AllTags (splitCommas tokens)

/-- What the tokens between parentheses say. -/
def tokensSay (tokens : List Token) : FieldTags where
  ignored := decide (KeepOut tokens)
  values := if KeepOut tokens then [] else tagsAmong (splitCommas tokens)

theorem ofTokens_exact (tokens : List Token) :
    Exact (ofTokens tokens) (TokensReadable tokens) (tokensSay tokens) := by
  unfold ofTokens TokensReadable tokensSay
  by_cases keepOut : KeepOut tokens
  · have found : ignoreWords.contains (Token.renderAll tokens) = true := by
      simpa [KeepOut] using keepOut
    simp only [found, if_true, keepOut, decide_true]
    exact Exact.ok (Or.inl trivial)
  · have missing : ¬ ignoreWords.contains (Token.renderAll tokens) = true := by
      simpa [KeepOut] using keepOut
    simp only [if_neg missing, keepOut, if_false, decide_false, false_or]
    exact (readTags_exact _).map

/-! ## The attributes of a field -/

/-- An attribute that, if it is one for field tags, can be read: it is bare or
lists what can be read. -/
def AttributeReadable (name : String) (item : Attribute) : Prop :=
  item.path.isName name = true →
    item.content = .bare ∨ ∃ tokens, item.content = .list tokens ∧ TokensReadable tokens

/-- What an attribute says, if it is one for field tags. -/
def attributeSays (name : String) (item : Attribute) : FieldTags :=
  if item.path.isName name then
    match item.content with
    | .list tokens => tokensSay tokens
    | _ => {}
  else
    {}

theorem ofAttribute_exact (name className field : String) (item : Attribute) :
    Exact (ofAttribute name className field item) (AttributeReadable name item)
      (attributeSays name item) := by
  unfold ofAttribute AttributeReadable attributeSays
  cases named : item.path.isName name with
  | false => exact Exact.ok (by simp)
  | true =>
      cases content : item.content with
      | bare => exact Exact.ok (by simp)
      | value code => exact Exact.error (by simp)
      | list tokens =>
          have exact := ofTokens_exact tokens
          cases outcome : ofTokens tokens with
          | error fault =>
              have refused := exact.not_of_eq_error outcome
              cases fault <;> simp only [outcome, if_true] <;>
                exact Exact.error (by simpa using refused)
          | ok tags =>
              rcases (exact tags).mp outcome with ⟨readable, rfl⟩
              simp only [outcome, if_true]
              exact Exact.ok (by simpa using readable)

/-- What the attributes of a field say together. -/
def attributesSay (name : String) (attributes : List Attribute) : FieldTags where
  ignored := attributes.any fun item => (attributeSays name item).ignored
  values := attributes.flatMap fun item => (attributeSays name item).values

theorem ofAttributes_exact (name className field : String) (attributes : List Attribute) :
    Exact (ofAttributes name className field attributes)
      (∀ item ∈ attributes, AttributeReadable name item) (attributesSay name attributes) := by
  induction attributes with
  | nil => exact Exact.ok (by simp)
  | cons item items ih =>
      have exact := ofAttribute_exact name className field item
      cases outcome : ofAttribute name className field item with
      | error error =>
          rw [ofAttributes, outcome]
          exact Exact.error fun readable =>
            exact.not_of_eq_error outcome (readable item List.mem_cons_self)
      | ok tags =>
          rcases (exact tags).mp outcome with ⟨readable, rfl⟩
          rw [ofAttributes, outcome]
          exact ih.map.congr (by simp [readable]) fun _ => rfl

/-- An attribute that keeps its field from being a property. -/
def IsKeepOut (name : String) (item : Attribute) : Prop :=
  item.path.isName name = true ∧ ∃ tokens, item.content = .list tokens ∧ KeepOut tokens

theorem attributesSay_ignored_iff {name : String} {attributes : List Attribute} :
    (attributesSay name attributes).ignored = true ↔ ∃ item ∈ attributes, IsKeepOut name item := by
  simp only [attributesSay, List.any_eq_true]
  apply exists_congr
  intro item
  apply and_congr_right
  intro member
  unfold attributeSays IsKeepOut
  cases item.path.isName name <;> cases item.content <;> simp [tokensSay]

/-! ## Applying tags -/

/-- Tags whose last value for each closed key is one that the key accepts. -/
structure ValuesKnown (tags : FieldTags) : Prop where
  hint : ∀ text, tags.value? .hint = some text → (PropertyHint.ofTag? text).isSome = true
  usage : ∀ text, tags.value? .usage = some text → (PropertyUsage.ofTag? text).isSome = true
  rset : ∀ text, tags.value? .rset = some text → (RpcMode.ofTag? text).isSome = true

/-- A property with what tags say about it; a value that is not known counts as
the default. -/
def applied (tags : FieldTags) (property : Entry.Property) : Entry.Property :=
  { property with
    hint := ((tags.value? .hint).bind PropertyHint.ofTag?).getD default
    usage := ((tags.value? .usage).bind PropertyUsage.ofTag?).getD default
    rset := ((tags.value? .rset).bind RpcMode.ofTag?).getD default
    hintString := (tags.value? .hintString).getD ""
    getter := tags.value? .getter
    setter := tags.value? .setter }

theorem closed_exact {α : Type} [Inhabited α] (tags : FieldTags) (tag : ClosedTag)
    (ofTag? : String → Option α) (property : Entry.Property) :
    Exact (tags.closed tag ofTag? property)
      (∀ text, tags.value? tag.key = some text → (ofTag? text).isSome = true)
      (((tags.value? tag.key).bind ofTag?).getD default) := by
  unfold closed
  cases given : tags.value? tag.key with
  | none => exact Exact.ok (by simp)
  | some text =>
      cases known : ofTag? text with
      | none =>
          simp only [known]
          exact Exact.error (by simp [known])
      | some value =>
          simp only [Option.bind_some, known]
          exact Exact.ok (by simp [known])

/-- A property with what tags say about it, once the closed tags are read in the order of their
keys. -/
def readOnto (tags : FieldTags) (property : Entry.Property) : Except ScanError Entry.Property := do
  let hint ← tags.closed .hint PropertyHint.ofTag? property
  let usage ← tags.closed .usage PropertyUsage.ofTag? property
  let rset ← tags.closed .rset RpcMode.ofTag? property
  .ok { property with
    hint, usage, rset
    hintString := (tags.value? .hintString).getD ""
    getter := tags.value? .getter
    setter := tags.value? .setter }

theorem run_get_bind {ε σ β : Type} (next : σ → ExceptT ε (StateM σ) β) (state : σ) :
    (get >>= next).run state = (next state).run state :=
  rfl

/-- A step that only reads leaves the state to the steps after it. -/
theorem run_liftM_bind {ε σ α β : Type} (read : Except ε α)
    (next : α → ExceptT ε (StateM σ) β) (state : σ) :
    ((liftM read : ExceptT ε (StateM σ) α) >>= next).run state =
      match read with
      | .ok value => (next value).run state
      | .error error => (.error error, state) := by
  cases read <;> rfl

/-- An update in place either sets everything or leaves the property as it was. -/
theorem run_update (tags : FieldTags) (property : Entry.Property) :
    tags.update.run property =
      match tags.readOnto property with
      | .ok updated => (.ok (), updated)
      | .error error => (.error error, property) := by
  unfold update readOnto
  rw [run_get_bind, run_liftM_bind]
  cases tags.closed .hint PropertyHint.ofTag? property with
  | error error => rfl
  | ok hint =>
      dsimp only
      rw [run_liftM_bind]
      cases tags.closed .usage PropertyUsage.ofTag? property with
      | error error => rfl
      | ok usage =>
          dsimp only
          rw [run_liftM_bind]
          cases tags.closed .rset RpcMode.ofTag? property <;> rfl

theorem apply_eq_readOnto (tags : FieldTags) (property : Entry.Property) :
    tags.apply property = tags.readOnto property := by
  unfold apply
  rw [run_update]
  cases tags.readOnto property <;> rfl

theorem apply_exact (tags : FieldTags) (property : Entry.Property) :
    Exact (tags.apply property) tags.ValuesKnown (tags.applied property) := by
  have exactHint := closed_exact tags .hint PropertyHint.ofTag? property
  have exactUsage := closed_exact tags .usage PropertyUsage.ofTag? property
  have exactRset := closed_exact tags .rset RpcMode.ofTag? property
  rw [apply_eq_readOnto]
  have exactAll : Exact (tags.readOnto property) (_ ∧ _ ∧ _ ∧ True) (tags.applied property) :=
    exactHint.bind fun _ => exactUsage.bind fun _ => exactRset.bind fun _ => Exact.ok trivial
  refine exactAll.congr ?_ fun _ => rfl
  constructor
  · rintro ⟨hint, usage, rset, _⟩
    exact ⟨hint, usage, rset⟩
  · rintro ⟨hint, usage, rset⟩
    exact ⟨hint, usage, rset, trivial⟩

end Scan.FieldTags

end NativeScript
