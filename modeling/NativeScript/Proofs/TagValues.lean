import NativeScript.Native.Session
import NativeScript.Proofs.TagFault

/-!
# Tag values in a scan and in a session

A scan and a session read the values of the closed tags on their own: the scan stops with an
error about the field, the session refuses the property.  Both are one reading, and differ only
in what they say about the first value that its tag does not accept.
-/

namespace NativeScript

open Engine (PropertyHint PropertyUsage RpcMode)
open Native (PropertyAttributes RegistrationError Session)

namespace ClosedTag

/-! ## One reading -/

/-- Every closed tag, in the order in which their values are read. -/
def all : List ClosedTag := [.hint, .usage, .rset]

/-- The first closed tag that does not accept the value that it is given. -/
def refusing? (given : ClosedTag → String) : Option ClosedTag :=
  all.find? fun tag => !tag.accepts (given tag)

variable {ε α : Type}

/-- A value, or the error that says that there is none. -/
def orError (error : ε) : Option α → Except ε α
  | some value => .ok value
  | none => .error error

/-- The values of all closed tags.  `refusal` says what is wrong with the value of a tag. -/
def readValues (refusal : ClosedTag → ε) (given : ClosedTag → String) :
    Except ε (PropertyHint × PropertyUsage × RpcMode) := do
  let hint ← orError (refusal .hint) (PropertyHint.ofTag? (given .hint))
  let usage ← orError (refusal .usage) (PropertyUsage.ofTag? (given .usage))
  let rset ← orError (refusal .rset) (RpcMode.ofTag? (given .rset))
  .ok (hint, usage, rset)

/-- Each closed tag names the value beside it. -/
structure ReadAs (given : ClosedTag → String) (hint : PropertyHint) (usage : PropertyUsage)
    (rset : RpcMode) : Prop where
  hint : PropertyHint.ofTag? (given .hint) = some hint
  usage : PropertyUsage.ofTag? (given .usage) = some usage
  rset : RpcMode.ofTag? (given .rset) = some rset

/-- Whether the values can be read, and which of them cannot, does not depend on what is said
about it. -/
theorem readValues_cases (given : ClosedTag → String) :
    (∃ hint usage rset, ReadAs given hint usage rset ∧
        ∀ {ε : Type} (refusal : ClosedTag → ε),
          readValues refusal given = .ok (hint, usage, rset)) ∨
      ∃ tag, refusing? given = some tag ∧
        ∀ {ε : Type} (refusal : ClosedTag → ε),
          readValues refusal given = .error (refusal tag) := by
  unfold readValues refusing? all
  simp only [List.find?_cons, accepts]
  cases isHint : PropertyHint.ofTag? (given .hint) with
  | none => exact .inr ⟨.hint, rfl, fun _ => rfl⟩
  | some hint =>
      cases isUsage : PropertyUsage.ofTag? (given .usage) with
      | none => exact .inr ⟨.usage, rfl, fun _ => rfl⟩
      | some usage =>
          cases isMode : RpcMode.ofTag? (given .rset) with
          | none => exact .inr ⟨.rset, rfl, fun _ => rfl⟩
          | some rset =>
              exact .inl ⟨hint, usage, rset, ⟨isHint, isUsage, isMode⟩, fun _ => rfl⟩

end ClosedTag

/-! ## The session -/

/-- What a session says about a value that a tag does not accept. -/
def ClosedTag.unknown : ClosedTag → String → RegistrationError
  | hint => .unknownHint
  | usage => .unknownUsage
  | rset => .unknownRpcMode

theorem Native.ofTagOr_eq_orError {α : Type} [Inhabited α] (ofTag? : String → Option α)
    (unknown : String → RegistrationError) {tag : String} (filled : tag ≠ "") :
    ofTagOr ofTag? unknown tag = ClosedTag.orError (unknown tag) (ofTag? tag) := by
  unfold ofTagOr
  rw [if_neg (by simpa using filled)]
  cases ofTag? tag <;> rfl

/-- A session reads the values of the closed tags, unless they are empty. -/
theorem Native.Session.newProperty_eq_readValues {given : ClosedTag → String}
    (filled : ∀ tag, given tag ≠ "") (session : Session) (className name hintString : String) :
    session.newProperty className name (given .hint) hintString (given .usage) (given .rset) =
      (ClosedTag.readValues (fun tag => tag.unknown (given tag)) given).map
        fun (hint, usage, rset) =>
          ({ className, name, attributes := { hint, hintString, usage, rset },
             slot := session.slots.length },
            { session with slots := session.slots ++ [.nil] }) := by
  unfold newProperty PropertyAttributes.ofTags ClosedTag.readValues
  rw [ofTagOr_eq_orError _ _ (filled .hint), ofTagOr_eq_orError _ _ (filled .usage),
    ofTagOr_eq_orError _ _ (filled .rset)]
  simp only [Outcome.map_bind]
  rfl

/-! ## The scan -/

namespace Scan.FieldTags

/-- Tags give every closed key a value that is not empty, and the property its hint string. -/
structure GivesValues (tags : FieldTags) (given : ClosedTag → String) (hintString : String) :
    Prop where
  value? : ∀ tag, tags.value? (ClosedTag.key tag) = some (given tag)
  filled : ∀ tag, given tag ≠ ""
  hintString : (tags.value? .hintString).getD "" = hintString

variable {tags : FieldTags} {given : ClosedTag → String} {hintString : String}

theorem closed_eq_orError {α : Type} [Inhabited α] {tag : ClosedTag} {text : String}
    (isGiven : tags.value? tag.key = some text) (ofTag? : String → Option α)
    (property : Entry.Property) :
    tags.closed tag ofTag? property =
      ClosedTag.orError (.unknownTagValue property.className property.name tag text)
        (ofTag? text) := by
  unfold closed
  rw [isGiven]
  dsimp only
  cases ofTag? text <;> rfl

/-- Tags with these values and this hint string. -/
def ofValues (given : ClosedTag → String) (hintString : String) : FieldTags where
  values := (.hintString, hintString) :: ClosedTag.all.map fun tag => (tag.key, given tag)

theorem ofValues_givesValues (filled : ∀ tag, given tag ≠ "") (hintString : String) :
    (ofValues given hintString).GivesValues given hintString where
  value? := by rintro (_ | _ | _) <;> rfl
  filled
  hintString := rfl

namespace GivesValues

/-- A scan reads the values of the closed tags. -/
theorem readOnto_eq_readValues (gives : tags.GivesValues given hintString)
    (property : Entry.Property) :
    tags.readOnto property =
      (ClosedTag.readValues
          (fun tag => .unknownTagValue property.className property.name tag (given tag))
          given).map
        fun (hint, usage, rset) =>
          { property with
            hint, usage, rset, hintString
            getter := tags.value? .getter
            setter := tags.value? .setter } := by
  unfold readOnto ClosedTag.readValues
  rw [closed_eq_orError (gives.value? .hint), closed_eq_orError (gives.value? .usage),
    closed_eq_orError (gives.value? .rset), gives.hintString]
  simp only [Outcome.map_bind]
  rfl

/-! ## Agreement -/

/-- Tags on a field are accepted exactly if a session accepts their values, and then both say
the same of the property: what the tags name.  Otherwise the first value that its tag does not
accept is reported by both, and the scanned property stays as it was. -/
theorem update_agrees_newProperty (gives : tags.GivesValues given hintString)
    (property : Entry.Property) (session : Session) (className name : String) :
    let update : Except ScanError Unit × Entry.Property := tags.update.run property
    let made := session.newProperty className name (given .hint) hintString (given .usage)
      (given .rset)
    ((∃ updated, update = (.ok (), updated)) ↔ ∃ result, made = .ok result) ∧
      (∀ updated result, update = (.ok (), updated) → made = .ok result →
        ClosedTag.ReadAs given updated.hint updated.usage updated.rset ∧
        updated.hintString = hintString ∧
        updated = { property with
          hint := result.1.attributes.hint
          usage := result.1.attributes.usage
          rset := result.1.attributes.rset
          hintString := result.1.attributes.hintString
          getter := tags.value? .getter
          setter := tags.value? .setter }) ∧
      ∀ error after, update = (.error error, after) →
        after = property ∧ ∃ tag, ClosedTag.refusing? given = some tag ∧
          error = .unknownTagValue property.className property.name tag (given tag) ∧
          made = .error (tag.unknown (given tag)) := by
  intro update made
  have isUpdate : update = _ := run_update tags property
  have isMade : made = _ :=
    session.newProperty_eq_readValues gives.filled className name hintString
  rw [gives.readOnto_eq_readValues] at isUpdate
  rcases ClosedTag.readValues_cases given with
    ⟨hint, usage, rset, readAs, isRead⟩ | ⟨tag, isRefusing, isRefused⟩
  · simp only [isRead, Outcome.map_ok] at isUpdate isMade
    rw [isUpdate, isMade]
    refine ⟨by simp, ?_, by simp⟩
    rintro updated result ⟨⟩ ⟨⟩
    exact ⟨readAs, rfl, rfl⟩
  · simp only [isRefused, Except.map] at isUpdate isMade
    rw [isUpdate, isMade]
    refine ⟨by simp, by simp, ?_⟩
    rintro error after ⟨⟩
    exact ⟨rfl, tag, isRefusing, rfl, rfl⟩

/-- Of two values that are not accepted, a usage and a mode, both report the usage. -/
theorem update_agrees_newProperty_loud :
    let given : ClosedTag → String
      | .hint => "range"
      | .usage => "loud"
      | .rset => "everywhere"
    let property : Entry.Property := { className := "Hud", name := "score", kind := .named "int" }
    (ofValues given "0,10").update.run property =
        (.error (.unknownTagValue "Hud" "score" .usage "loud"), property) ∧
      ∃ tag, ClosedTag.refusing? given = some tag ∧
        ScanError.unknownTagValue "Hud" "score" .usage "loud" =
          .unknownTagValue "Hud" "score" tag (given tag) ∧
        ({} : Session).newProperty "Hud" "score" "range" "0,10" "loud" "everywhere" =
          .error (tag.unknown (given tag)) := by
  intro given property
  have gives : (ofValues given "0,10").GivesValues given "0,10" :=
    ofValues_givesValues (by rintro (_ | _ | _) <;> decide) "0,10"
  have isHint : PropertyHint.ofTag? "range" = some .range := by decide
  have noUsage : PropertyUsage.ofTag? "loud" = none := by decide
  have isUpdate : (ofValues given "0,10").update.run property =
      (.error (.unknownTagValue "Hud" "score" .usage "loud"), property) := by
    rw [run_update, gives.readOnto_eq_readValues, ClosedTag.readValues, isHint, noUsage]
    rfl
  exact ⟨isUpdate,
    ((gives.update_agrees_newProperty property {} "Hud" "score").2.2 _ _ isUpdate).2⟩

end GivesValues

end Scan.FieldTags

end NativeScript
