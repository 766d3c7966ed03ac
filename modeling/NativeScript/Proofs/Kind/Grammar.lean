import Mathlib.Data.List.Basic
import NativeScript.Kind.Reader
import NativeScript.Proofs.Outcome

/-!
# The grammar of written kinds

A text is the written form of a kind exactly when it is a name, a star before a
written kind, or an array or a map built from written kinds.  The brackets of a
written kind are balanced, so the search for a closing bracket passes over it and
cuts a text where the grammar does.  Nothing of a text is lost in reading: the kind
that is read has this very text as its written form.
-/

namespace NativeScript.Kind

open Outcome (map_eq_ok_iff)

/-! ## Balanced texts -/

/-- A text over which the search for a closing bracket passes. -/
def Balanced (text : List Char) : Prop :=
  ∀ depth rest, splitClosing depth (text ++ rest) =
    (splitClosing depth rest).map fun (inner, after) => (text ++ inner, after)

@[simp]
theorem splitClosing_cons_closing (text : List Char) :
    splitClosing 0 (']' :: text) = some ([], text) :=
  rfl

theorem splitClosing_cons_closing_succ (depth : Nat) (text : List Char) :
    splitClosing (depth + 1) (']' :: text) =
      (splitClosing depth text).map fun (inner, after) => (']' :: inner, after) :=
  rfl

theorem splitClosing_cons_opening (depth : Nat) (text : List Char) :
    splitClosing depth ('[' :: text) =
      (splitClosing (depth + 1) text).map fun (inner, after) => ('[' :: inner, after) :=
  rfl

theorem splitClosing_cons_of_ne {char : Char} (opens : char ≠ '[') (closes : char ≠ ']')
    (depth : Nat) (text : List Char) :
    splitClosing depth (char :: text) =
      (splitClosing depth text).map fun (inner, after) => (char :: inner, after) := by
  simp only [splitClosing, if_neg closes, if_neg opens]

theorem Balanced.append {first second : List Char} (balancedFirst : Balanced first)
    (balancedSecond : Balanced second) : Balanced (first ++ second) := by
  intro depth rest
  rw [List.append_assoc, balancedFirst, balancedSecond]
  simp [Function.comp_def]

/-- A text without brackets is balanced. -/
theorem balanced_of_not_mem {text : List Char} (opened : '[' ∉ text) (closed : ']' ∉ text) :
    Balanced text := by
  induction text with
  | nil =>
      intro depth rest
      simp
  | cons char text ih =>
      simp only [List.mem_cons, not_or] at opened closed
      intro depth rest
      rw [List.cons_append, splitClosing_cons_of_ne (Ne.symm opened.1) (Ne.symm closed.1),
        ih opened.2 closed.2]
      simp [Function.comp_def]

/-- A balanced text in brackets is balanced. -/
theorem Balanced.bracketed {text : List Char} (balanced : Balanced text) :
    Balanced ('[' :: (text ++ [']'])) := by
  intro depth rest
  rw [List.cons_append, List.append_assoc, List.singleton_append, splitClosing_cons_opening,
    balanced, splitClosing_cons_closing_succ]
  simp [Function.comp_def]

/-- After a balanced text the search stops at the next bracket. -/
theorem Balanced.splitClosing_eq {text : List Char} (balanced : Balanced text)
    (rest : List Char) : splitClosing 0 (text ++ ']' :: rest) = some (text, rest) := by
  rw [balanced, splitClosing_cons_closing]
  simp

/-! ## Where a text is cut -/

/-- A text is cut at a bracket: the text before it and the text after it end and
begin at positions of the whole text, which are one byte apart. -/
def IsCut (text before after : String) : Prop :=
  ∃ close next : text.Pos, close.Splits before ("]" ++ after) ∧ next.Splits (before ++ "]") after ∧
    next.offset.byteIdx = close.offset.byteIdx + 1

/-- Between the two parts of a text there is a position. -/
theorem exists_splits {text before after : String} (parts : text = before ++ after) :
    ∃ position : text.Pos, position.Splits before after :=
  ⟨⟨before.rawEndPos, String.Pos.Raw.isValid_iff_exists_append.mpr ⟨before, after, parts, rfl⟩⟩,
    ⟨parts, rfl⟩⟩

theorem isCut_of_splitClosing {text : String} {depth : Nat} {inner after : List Char}
    (split : splitClosing depth text.toList = some (inner, after)) :
    IsCut text (String.ofList inner) (String.ofList after) := by
  have parts : text = String.ofList inner ++ ("]" ++ String.ofList after) := by
    apply String.toList_inj.mp
    simpa using eq_of_splitClosing split
  rcases exists_splits parts with ⟨close, closes⟩
  rcases exists_splits (parts.trans String.append_assoc.symm) with ⟨next, continues⟩
  refine ⟨close, next, closes, continues, ?_⟩
  rw [closes.offset_eq_rawEndPos, continues.offset_eq_rawEndPos]
  exact String.utf8ByteSize_append

/-! ## The grammar -/

/-- A text that is read as a name. -/
structure IsName (text : List Char) : Prop where
  nonempty : text ≠ []
  opened : '[' ∉ text
  closed : ']' ∉ text
  unstarred : text.head? ≠ some '*'

/-- The texts that are written forms of kinds. -/
inductive Written : List Char → Prop where
  | pointer {pointee : List Char} (written : Written pointee) : Written ("*".toList ++ pointee)
  | array {element : List Char} (written : Written element) :
      Written ("ArrayType[".toList ++ element ++ "]".toList)
  | map {key value : List Char} (writtenKey : Written key) (writtenValue : Written value) :
      Written ("MapType[".toList ++ key ++ "]".toList ++ value)
  | name {text : List Char} (isName : IsName text) : Written text

theorem Written.balanced {text : List Char} (written : Written text) : Balanced text := by
  induction written with
  | pointer _ ih => exact (balanced_of_not_mem (by decide) (by decide)).append ih
  | array _ ih =>
      have word : Balanced "ArrayType".toList := balanced_of_not_mem (by decide) (by decide)
      exact word.append ih.bracketed
  | map _ _ ihKey ihValue =>
      have word : Balanced "MapType".toList := balanced_of_not_mem (by decide) (by decide)
      exact (word.append ihKey.bracketed).append ihValue
  | name isName => exact balanced_of_not_mem isName.opened isName.closed

/-! ## One step of reading -/

theorem hasBracket_eq_false_iff {text : List Char} :
    hasBracket text = false ↔ '[' ∉ text ∧ ']' ∉ text := by
  induction text with
  | nil => simp [hasBracket]
  | cons char text ih =>
      simp only [hasBracket] at ih
      simp [hasBracket, ih]
      grind

theorem opening_of_isName {text : List Char} (isName : IsName text) : opening text = .name := by
  cases opens : opening text with
  | name => rfl
  | pointer rest =>
      rw [eq_of_opening_pointer opens] at isName
      exact absurd rfl isName.unstarred
  | array rest =>
      rw [eq_of_opening_array opens] at isName
      exact absurd (by simp) isName.opened
  | map rest =>
      rw [eq_of_opening_map opens] at isName
      exact absurd (by simp) isName.opened

theorem read_pointer (pointee : List Char) :
    read ("*".toList ++ pointee) = (read pointee).map pointer := by
  have opens : opening ("*".toList ++ pointee) = .pointer pointee := rfl
  rw [read]
  split <;> rename_i found <;> rw [opens] at found <;> cases found
  rfl

theorem read_array_eq_ok_iff {rest : List Char} {kind : Kind} :
    read ("ArrayType[".toList ++ rest) = .ok kind ↔
      ∃ inner element, splitClosing 0 rest = some (inner, []) ∧ read inner = .ok element ∧
        array element = kind := by
  have opens : opening ("ArrayType[".toList ++ rest) = .array rest := rfl
  rw [read]
  split <;> rename_i found <;> rw [opens] at found <;> cases found
  split
  · rename_i split
    simp [split]
  · rename_i inner after split
    cases after <;> simp [split, map_eq_ok_iff]

theorem read_map_eq_ok_iff {rest : List Char} {kind : Kind} :
    read ("MapType[".toList ++ rest) = .ok kind ↔
      ∃ inner after key value, splitClosing 0 rest = some (inner, after) ∧ read inner = .ok key ∧
        read after = .ok value ∧ map key value = kind := by
  have opens : opening ("MapType[".toList ++ rest) = .map rest := rfl
  rw [read]
  split <;> rename_i found <;> rw [opens] at found <;> cases found
  split
  · rename_i split
    simp [split]
  · rename_i inner after split
    constructor
    · intro isOk
      cases readInner : read inner with
      | error error => simp [readInner] at isOk
      | ok key =>
          rw [readInner] at isOk
          rcases map_eq_ok_iff.mp isOk with ⟨value, readAfter, same⟩
          exact ⟨inner, after, key, value, split, readInner, readAfter, same⟩
    · rintro ⟨_, _, key, value, same, readInner, readAfter, rfl⟩
      rw [split] at same
      cases same
      rw [readInner, readAfter]
      rfl

theorem unstarred_of_opening {text : List Char} (opens : opening text = .name) :
    text.head? ≠ some '*' := by
  intro starred
  rcases List.head?_eq_some_iff.mp starred with ⟨rest, rfl⟩
  have isPointer : opening ('*' :: rest) = .pointer rest := rfl
  rw [isPointer] at opens
  cases opens

theorem read_name_eq_ok_iff {text : List Char} (opens : opening text = .name) {kind : Kind} :
    read text = .ok kind ↔ IsName text ∧ ofName text = kind := by
  rw [read]
  split <;> rename_i found <;> rw [opens] at found <;> cases found
  by_cases empty : text = []
  · simp only [empty, List.isEmpty_nil, if_true, reduceCtorEq, false_iff]
    exact fun isName => isName.1.nonempty rfl
  · rw [if_neg (mt List.isEmpty_iff.mp empty)]
    cases bracket : hasBracket text with
    | true =>
        simp only [if_true, reduceCtorEq, false_iff]
        intro isName
        have none := hasBracket_eq_false_iff.mpr ⟨isName.1.opened, isName.1.closed⟩
        rw [bracket] at none
        cases none
    | false =>
        have isName : IsName text :=
          ⟨empty, (hasBracket_eq_false_iff.mp bracket).1, (hasBracket_eq_false_iff.mp bracket).2,
            unstarred_of_opening opens⟩
        simp [isName]

theorem read_of_isName {text : List Char} (isName : IsName text) :
    read text = .ok (ofName text) :=
  (read_name_eq_ok_iff (opening_of_isName isName)).mpr ⟨isName, rfl⟩

/-! ## Names -/

/-- A name whose last dot stands between two parts that are not empty. -/
structure IsDotted (text space member : List Char) : Prop where
  parts : text = space ++ '.' :: member
  last : '.' ∉ member
  space_ne_nil : space ≠ []
  member_ne_nil : member ≠ []

theorem splitLastDot_eq_none {text : List Char} (undotted : '.' ∉ text) :
    splitLastDot text = none := by
  induction text with
  | nil => rfl
  | cons char text ih =>
      simp only [List.mem_cons, not_or] at undotted
      rw [splitLastDot, ih undotted.2, if_neg (Ne.symm undotted.1)]

theorem not_mem_of_splitLastDot_eq_none {text : List Char} (split : splitLastDot text = none) :
    '.' ∉ text := by
  induction text with
  | nil => simp
  | cons char text ih =>
      rw [splitLastDot] at split
      split at split
      · cases split
      · rename_i later
        split at split
        · cases split
        · rename_i undotted
          simp only [List.mem_cons, not_or]
          exact ⟨Ne.symm undotted, ih later⟩

theorem not_mem_of_splitLastDot {text space member : List Char}
    (split : splitLastDot text = some (space, member)) : '.' ∉ member := by
  induction text generalizing space with
  | nil => cases split
  | cons char text ih =>
      rw [splitLastDot] at split
      split at split
      · rename_i later
        cases split
        exact ih later
      · rename_i later
        split at split
        · cases split
          exact not_mem_of_splitLastDot_eq_none later
        · cases split

/-- A text is split at its last dot, and nothing is lost. -/
theorem splitLastDot_eq_some_iff {text space member : List Char} :
    splitLastDot text = some (space, member) ↔
      text = space ++ '.' :: member ∧ '.' ∉ member := by
  constructor
  · intro split
    exact ⟨eq_of_splitLastDot split, not_mem_of_splitLastDot split⟩
  · rintro ⟨rfl, last⟩
    induction space with
    | nil => rw [List.nil_append, splitLastDot, splitLastDot_eq_none last, if_pos rfl]
    | cons char space ih => rw [List.cons_append, splitLastDot, ih]

theorem ofName_of_isDotted {text space member : List Char} (dotted : IsDotted text space member) :
    ofName text = qualified (ofName space) (String.ofList member) := by
  have split := splitLastDot_eq_some_iff.mpr ⟨dotted.parts, dotted.last⟩
  rw [ofName]
  split
  · rename_i found
    rw [split] at found
    cases found
    simp [dotted.space_ne_nil, dotted.member_ne_nil]
  · rename_i missing
    rw [split] at missing
    cases missing

theorem ofName_of_not_isDotted {text : List Char}
    (undotted : ∀ space member, ¬ IsDotted text space member) :
    ofName text = named (String.ofList text) := by
  rw [ofName]
  split
  · rename_i space member split
    rcases splitLastDot_eq_some_iff.mp split with ⟨parts, last⟩
    by_cases noSpace : space = []
    · simp [noSpace]
    · by_cases noMember : member = []
      · simp [noMember]
      · exact absurd ⟨parts, last, noSpace, noMember⟩ (undotted space member)
  · rfl

/-- A name without a dot is plain. -/
theorem ofName_of_not_mem {text : List Char} (undotted : '.' ∉ text) :
    ofName text = named (String.ofList text) := by
  apply ofName_of_not_isDotted
  intro space member dotted
  exact undotted (by simp [dotted.parts])

/-- What precedes a dot inside a name is a name. -/
theorem IsDotted.isName_space {text space member : List Char}
    (dotted : IsDotted text space member) (isName : IsName text) : IsName space := by
  obtain ⟨rfl, last, nonempty, _⟩ := dotted
  rcases isName with ⟨_, opened, closed, unstarred⟩
  refine ⟨nonempty, fun inside => opened (List.mem_append_left _ inside),
    fun inside => closed (List.mem_append_left _ inside), ?_⟩
  rwa [List.head?_append_of_ne_nil space nonempty] at unstarred

/-- A dotted name is read as the member of what its namespace is read as. -/
theorem read_of_isDotted {text space member : List Char} (isName : IsName text)
    (dotted : IsDotted text space member) :
    read text = (read space).map fun kind => qualified kind (String.ofList member) := by
  rw [read_of_isName isName, read_of_isName (dotted.isName_space isName),
    ofName_of_isDotted dotted]
  rfl

/-- The written form of what is read as a name is the name. -/
theorem render_ofName (text : List Char) : (ofName text).render.toList = text := by
  fun_induction ofName text with
  | case1 text space member split sides => simp [render]
  | case2 text space member split sides ih => simp [render, ih, eq_of_splitLastDot split]
  | case3 text split => simp [render]

/-! ## Reading follows the grammar -/

/-- A text that can be read is in the grammar, and is the written form of what is
read. -/
theorem written_of_read {text : List Char} {kind : Kind} (isOk : read text = .ok kind) :
    Written text ∧ kind.render.toList = text := by
  cases opens : opening text with
  | pointer rest =>
      have shape := eq_of_opening_pointer opens
      have shorter : rest.length < text.length := by simp [shape]
      rw [shape, read_pointer] at isOk
      rcases map_eq_ok_iff.mp isOk with ⟨pointee, readRest, rfl⟩
      rcases written_of_read readRest with ⟨written, rendered⟩
      rw [shape]
      exact ⟨.pointer written, by simp [render, rendered]⟩
  | array rest =>
      have shape := eq_of_opening_array opens
      rw [shape] at isOk
      rcases read_array_eq_ok_iff.mp isOk with ⟨inner, element, split, readInner, rfl⟩
      rw [eq_of_splitClosing split, ← List.append_assoc] at shape
      have shorter : inner.length < text.length := by
        simp [shape]
        omega
      rcases written_of_read readInner with ⟨written, rendered⟩
      rw [shape]
      exact ⟨.array written, by simp [render, rendered]⟩
  | map rest =>
      have shape := eq_of_opening_map opens
      rw [shape] at isOk
      rcases read_map_eq_ok_iff.mp isOk with
        ⟨inner, after, key, value, split, readInner, readAfter, rfl⟩
      rw [eq_of_splitClosing split, List.append_cons, ← List.append_assoc, ← List.append_assoc]
        at shape
      have shorterKey : inner.length < text.length := by
        simp [shape]
        omega
      have shorterValue : after.length < text.length := by
        simp [shape]
        omega
      rcases written_of_read readInner with ⟨writtenKey, renderedKey⟩
      rcases written_of_read readAfter with ⟨writtenValue, renderedValue⟩
      rw [shape]
      exact ⟨.map writtenKey writtenValue, by simp [render, renderedKey, renderedValue]⟩
  | name =>
      rcases (read_name_eq_ok_iff opens).mp isOk with ⟨isName, rfl⟩
      exact ⟨.name isName, render_ofName text⟩
termination_by text.length

/-- Every text in the grammar can be read. -/
theorem Written.exists_read {text : List Char} (written : Written text) :
    ∃ kind, read text = .ok kind := by
  induction written with
  | @pointer pointee _ ih =>
      rcases ih with ⟨kind, isOk⟩
      exact ⟨.pointer kind, by rw [read_pointer, isOk]; rfl⟩
  | @array element written ih =>
      rcases ih with ⟨kind, isOk⟩
      refine ⟨.array kind, ?_⟩
      rw [List.append_assoc]
      exact read_array_eq_ok_iff.mpr ⟨element, kind, written.balanced.splitClosing_eq [], isOk, rfl⟩
  | @map key value written _ ihKey ihValue =>
      rcases ihKey with ⟨keyKind, readKey⟩
      rcases ihValue with ⟨valueKind, readValue⟩
      refine ⟨.map keyKind valueKind, ?_⟩
      rw [List.append_assoc, List.append_assoc]
      exact read_map_eq_ok_iff.mpr
        ⟨key, value, keyKind, valueKind, written.balanced.splitClosing_eq value, readKey, readValue,
          rfl⟩
  | @name text isName => exact ⟨ofName text, read_of_isName isName⟩

/-- The texts that can be read are those of the grammar, and a kind that is read
is written as the text it was read from.  A text is only cut between characters. -/
theorem ofString_grammar :
    (∀ text, (∃ kind, ofString text = .ok kind) ↔ Written text.toList) ∧
    (∀ text kind, ofString text = .ok kind → kind.render = text) ∧
    (∀ first second kind, ofString first = .ok kind → ofString second = .ok kind →
      first = second) ∧
    ∀ (text : String) inner after, splitClosing 0 text.toList = some (inner, after) →
      IsCut text (String.ofList inner) (String.ofList after) := by
  have rendered : ∀ text kind, ofString text = .ok kind → kind.render = text := by
    intro text kind isOk
    exact String.toList_inj.mp (written_of_read isOk).2
  refine ⟨fun text => ⟨?_, Written.exists_read⟩, rendered, ?_, ?_⟩
  · rintro ⟨kind, isOk⟩
    exact (written_of_read isOk).1
  · intro first second kind isOkFirst isOkSecond
    rw [← rendered first kind isOkFirst, rendered second kind isOkSecond]
  · intro text inner after split
    exact isCut_of_splitClosing split

/-- A map whose key is not of ASCII characters, and whose value is a pointer to a
dotted name. -/
theorem ofString_grammar_map :
    ofString "MapType[é]*a.b" = .ok (map (named "é") (pointer (qualified (named "a") "b"))) ∧
    (map (named "é") (pointer (qualified (named "a") "b"))).render = "MapType[é]*a.b" ∧
    (∀ text, ofString text = .ok (map (named "é") (pointer (qualified (named "a") "b"))) →
      text = "MapType[é]*a.b") ∧
    splitClosing 0 "é]*a.b".toList = some ("é".toList, "*a.b".toList) ∧
    IsCut "é]*a.b" "é" "*a.b" := by
  have split : splitClosing 0 "é]*a.b".toList = some ("é".toList, "*a.b".toList) := rfl
  have readKey : read "é".toList = .ok (named "é") := by
    rw [read_of_isName ⟨by decide, by decide, by decide, by decide⟩,
      ofName_of_not_mem (by decide)]
    rfl
  have dotted : IsDotted "a.b".toList ['a'] ['b'] := ⟨rfl, by decide, by decide, by decide⟩
  have readMember : read "a.b".toList = .ok (qualified (named "a") "b") := by
    rw [read_of_isName ⟨by decide, by decide, by decide, by decide⟩, ofName_of_isDotted dotted,
      ofName_of_not_mem (by decide)]
  have readValue : read ("*".toList ++ "a.b".toList) =
      .ok (pointer (qualified (named "a") "b")) := by
    rw [read_pointer, readMember]
    rfl
  have isOk : ofString "MapType[é]*a.b" =
      .ok (map (named "é") (pointer (qualified (named "a") "b"))) :=
    read_map_eq_ok_iff.mpr ⟨_, _, _, _, split, readKey, readValue, rfl⟩
  rcases ofString_grammar with ⟨_, rendered, injective, cut⟩
  exact ⟨isOk, rendered _ _ isOk, fun text isOkToo => injective _ _ _ isOkToo isOk, split,
    cut _ _ _ split⟩

end NativeScript.Kind
