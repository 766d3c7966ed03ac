import NativeScript.Proofs.Kind.Grammar

/-!
# Canonical kinds

Not every kind is read back from its written form: a name may look like another
kind, and a member of a pointer, an array or a map is written like a pointer, an
array or a map.  The kinds that are read back are the canonical ones, which are told
by their names alone.
-/

namespace NativeScript.Kind

open Outcome (map_eq_ok_iff)

/-! ## Canonical kinds -/

/-- A kind that is a plain or a qualified name. -/
def IsPath : Kind → Prop
  | named _ => True
  | qualified _ _ => True
  | pointer _ => False
  | array _ => False
  | map _ _ => False

/-- A text that is the member of a qualified name. -/
structure IsMember (text : List Char) : Prop where
  nonempty : text ≠ []
  undotted : '.' ∉ text
  opened : '[' ∉ text
  closed : ']' ∉ text

/-- A kind whose names cannot be taken for anything else. -/
def Canonical : Kind → Prop
  | named name => IsName name.toList ∧ ∀ space member, ¬ IsDotted name.toList space member
  | pointer pointee => pointee.Canonical
  | array element => element.Canonical
  | map key value => key.Canonical ∧ value.Canonical
  | qualified space member => space.Canonical ∧ space.IsPath ∧ IsMember member.toList

/-! ## What is read as a name -/

theorem isPath_ofName (text : List Char) : (ofName text).IsPath := by
  fun_cases ofName text <;> exact trivial

/-- A path is only read from a name. -/
theorem isName_of_read {text : List Char} {kind : Kind} (isOk : read text = .ok kind)
    (isPath : kind.IsPath) : IsName text ∧ ofName text = kind := by
  cases opens : opening text with
  | pointer rest =>
      rw [eq_of_opening_pointer opens, read_pointer] at isOk
      rcases map_eq_ok_iff.mp isOk with ⟨pointee, _, rfl⟩
      exact isPath.elim
  | array rest =>
      rw [eq_of_opening_array opens] at isOk
      rcases read_array_eq_ok_iff.mp isOk with ⟨_, element, _, _, rfl⟩
      exact isPath.elim
  | map rest =>
      rw [eq_of_opening_map opens] at isOk
      rcases read_map_eq_ok_iff.mp isOk with ⟨_, _, key, value, _, _, _, rfl⟩
      exact isPath.elim
  | name => exact (read_name_eq_ok_iff opens).mp isOk

theorem read_eq_ok_named_iff {text : List Char} {name : String} :
    read text = .ok (named name) ↔
      IsName text ∧ (∀ space member, ¬ IsDotted text space member) ∧ String.ofList text = name := by
  constructor
  · intro isOk
    rcases isName_of_read isOk trivial with ⟨isName, same⟩
    have undotted : ∀ space member, ¬ IsDotted text space member := by
      intro space member dotted
      rw [ofName_of_isDotted dotted] at same
      cases same
    rw [ofName_of_not_isDotted undotted] at same
    exact ⟨isName, undotted, named.inj same⟩
  · rintro ⟨isName, undotted, rfl⟩
    rw [read_of_isName isName, ofName_of_not_isDotted undotted]

theorem read_eq_ok_qualified_iff {text : List Char} {space : Kind} {member : String} :
    read text = .ok (qualified space member) ↔
      IsName text ∧ ∃ before, IsDotted text before member.toList ∧ read before = .ok space := by
  constructor
  · intro isOk
    rcases isName_of_read isOk trivial with ⟨isName, same⟩
    by_cases dots : ∃ before after, IsDotted text before after
    · rcases dots with ⟨before, after, dotted⟩
      rw [ofName_of_isDotted dotted] at same
      rcases qualified.inj same with ⟨sameSpace, rfl⟩
      refine ⟨isName, before, by simpa using dotted, ?_⟩
      rw [read_of_isName (dotted.isName_space isName), sameSpace]
    · have undotted : ∀ before after, ¬ IsDotted text before after := by simpa using dots
      rw [ofName_of_not_isDotted undotted] at same
      cases same
  · rintro ⟨isName, before, dotted, isOk⟩
    rw [read_of_isDotted isName dotted, isOk, Except.map, String.ofList_toList]

/-! ## Canonical kinds are read back -/

/-- A text is read back exactly as a member of a path if it names one and the path
is read back. -/
theorem read_member_eq_ok_iff {before after : List Char} {space : Kind} :
    read (before ++ '.' :: after) = .ok (qualified space (String.ofList after)) ↔
      read before = .ok space ∧ space.IsPath ∧ IsMember after := by
  rw [read_eq_ok_qualified_iff, String.toList_ofList]
  constructor
  · rintro ⟨isName, other, dotted, isOk⟩
    obtain rfl : before = other := List.append_cancel_right dotted.parts
    have sameSpace := (read_of_isName (dotted.isName_space isName)).symm.trans isOk
    refine ⟨isOk, ?_, dotted.member_ne_nil, dotted.last, ?_, ?_⟩
    · rw [← Except.ok.inj sameSpace]
      exact isPath_ofName before
    · exact fun inside => isName.opened (by simp [inside])
    · exact fun inside => isName.closed (by simp [inside])
  · rintro ⟨isOk, isPath, nonempty, undotted, opened, closed⟩
    rcases isName_of_read isOk isPath with ⟨isName, _⟩
    refine ⟨⟨by simp, ?_, ?_, ?_⟩, before, ⟨rfl, undotted, isName.nonempty, nonempty⟩, isOk⟩
    · simp [isName.opened, opened]
    · simp [isName.closed, closed]
    · rw [List.head?_append_of_ne_nil before isName.nonempty]
      exact isName.unstarred

theorem read_array_render_eq_ok_iff {element : Kind} :
    read (array element).render.toList = .ok (array element) ↔
      read element.render.toList = .ok element := by
  have shape : (array element).render.toList =
      "ArrayType[".toList ++ (element.render.toList ++ "]".toList) := by
    simp [render]
  rw [shape, read_array_eq_ok_iff]
  constructor
  · rintro ⟨inner, found, split, isOk, same⟩
    cases same
    -- What stands between the brackets is the written form of what it is read as.
    rwa [← (written_of_read isOk).2] at isOk
  · intro isOk
    have balanced := (written_of_read isOk).1.balanced
    exact ⟨_, element, balanced.splitClosing_eq [], isOk, rfl⟩

theorem read_map_render_eq_ok_iff {key value : Kind} :
    read (map key value).render.toList = .ok (map key value) ↔
      read key.render.toList = .ok key ∧ read value.render.toList = .ok value := by
  have shape : (map key value).render.toList =
      "MapType[".toList ++ (key.render.toList ++ ']' :: value.render.toList) := by
    simp [render]
  rw [shape, read_map_eq_ok_iff]
  constructor
  · rintro ⟨inner, after, foundKey, foundValue, split, readKey, readValue, same⟩
    cases same
    rw [← (written_of_read readKey).2] at readKey
    rw [← (written_of_read readValue).2] at readValue
    exact ⟨readKey, readValue⟩
  · rintro ⟨readKey, readValue⟩
    have balanced := (written_of_read readKey).1.balanced
    exact ⟨_, _, key, value, balanced.splitClosing_eq _, readKey, readValue, rfl⟩

theorem Canonical.read_render {kind : Kind} (canonical : kind.Canonical) :
    read kind.render.toList = .ok kind := by
  induction kind with
  | named name =>
      exact read_eq_ok_named_iff.mpr ⟨canonical.1, canonical.2, String.ofList_toList⟩
  | pointer pointee ih =>
      have shape : (pointer pointee).render.toList = "*".toList ++ pointee.render.toList := by
        simp [render]
      rw [shape, read_pointer, ih canonical, Except.map]
  | array element ih => exact read_array_render_eq_ok_iff.mpr (ih canonical)
  | map key value ihKey ihValue =>
      exact read_map_render_eq_ok_iff.mpr ⟨ihKey canonical.1, ihValue canonical.2⟩
  | qualified space member ih =>
      have isOk := read_member_eq_ok_iff.mpr ⟨ih canonical.1, canonical.2⟩
      rw [String.ofList_toList] at isOk
      simpa [render] using isOk

/-- The kinds that are read back from their written form are the canonical ones. -/
theorem ofString_render_eq_ok_iff (kind : Kind) :
    ofString kind.render = .ok kind ↔ kind.Canonical := by
  unfold ofString
  induction kind with
  | named name => simp [render, read_eq_ok_named_iff, Canonical]
  | pointer pointee ih =>
      have shape : (pointer pointee).render.toList = "*".toList ++ pointee.render.toList := by
        simp [render]
      rw [shape, read_pointer, map_eq_ok_iff, Canonical, ← ih]
      simp
  | array element ih => rw [read_array_render_eq_ok_iff, ih, Canonical]
  | map key value ihKey ihValue => rw [read_map_render_eq_ok_iff, ihKey, ihValue, Canonical]
  | qualified space member ih =>
      have shape : (qualified space member).render.toList =
          space.render.toList ++ '.' :: member.toList := by
        simp [render]
      have exact := @read_member_eq_ok_iff space.render.toList member.toList space
      rw [String.ofList_toList] at exact
      rw [shape, exact, ih, Canonical]

/-- A member of a pointer is written like a pointer to a member. -/
example : (qualified (pointer (named "a")) "b").render =
    (pointer (qualified (named "a") "b")).render := by
  decide

end NativeScript.Kind
