import Mathlib.Data.Char
import Mathlib.Data.List.Lex
import Mathlib.Tactic.SplitIfs
import NativeScript.Proofs.LetterCase
import NativeScript.Text.Fold

/-!
# Bytes of a text

In UTF-8 the bytes of two different characters part at a byte that is lower for the lower
character.  So bytes are ordered as the characters that they encode, and bytes begin with the
bytes of a text exactly if the text begins with it; a cut behind them does not go through a
character.  The letters of ASCII change their case byte by byte.
-/

namespace NativeScript.Text

/-- The bytes of a text in UTF-8. -/
def bytes (text : List Char) : List UInt8 :=
  text.flatMap String.utf8EncodeChar

@[simp]
theorem bytes_nil : bytes [] = [] :=
  rfl

@[simp]
theorem bytes_cons (char : Char) (text : List Char) :
    bytes (char :: text) = String.utf8EncodeChar char ++ bytes text :=
  List.flatMap_cons

@[simp]
theorem bytes_append (first second : List Char) :
    bytes (first ++ second) = bytes first ++ bytes second :=
  List.flatMap_append

/-! ## Where bytes part -/

/-- Bytes are the same up to a place where the first of them are lower. -/
inductive Below : List UInt8 → List UInt8 → Prop
  | here {low high : UInt8} (first second : List UInt8) (lower : low < high) :
      Below (low :: first) (high :: second)
  | later (byte : UInt8) {first second : List UInt8} (below : Below first second) :
      Below (byte :: first) (byte :: second)

namespace Below

variable {first second : List UInt8}

theorem cons_iff {low high : UInt8} :
    Below (low :: first) (high :: second) ↔
      low < high ∨ (low = high ∧ Below first second) := by
  constructor
  · intro below
    cases below with
    | here _ _ lower => exact .inl lower
    | later _ below => exact .inr ⟨rfl, below⟩
  · rintro (lower | ⟨rfl, below⟩)
    · exact .here first second lower
    · exact .later low below

/-- What follows does not matter once bytes have parted. -/
theorem append (below : Below first second) (more others : List UInt8) :
    Below (first ++ more) (second ++ others) := by
  induction below with
  | here first second lower => exact .here _ _ lower
  | later byte _ ih => exact .later byte ih

theorem lt (below : Below first second) : first < second := by
  induction below with
  | here first second lower => exact List.cons_lt_cons_iff.mpr (.inl lower)
  | later byte _ ih => exact List.cons_lt_cons_iff.mpr (.inr ⟨rfl, ih⟩)

/-- Bytes that have parted do not go on one another. -/
theorem not_isPrefix (below : Below first second) : ¬ first <+: second ∧ ¬ second <+: first := by
  induction below with
  | here first second lower =>
      have apart := UInt8.ne_of_lt lower
      exact ⟨fun begins => apart (List.cons_prefix_cons.mp begins).1,
        fun begins => apart (List.cons_prefix_cons.mp begins).1.symm⟩
  | later byte _ ih => simpa [List.cons_prefix_cons] using ih

end Below

/-- The bytes of a lower character are below. -/
theorem below_utf8EncodeChar {low high : Char} (lower : low < high) :
    Below (String.utf8EncodeChar low) (String.utf8EncodeChar high) := by
  have numbers : low.val.toNat < high.val.toNat := UInt32.lt_iff_toNat_lt.mp lower
  have bound : high.val.toNat < 0x110000 := by
    have valid := high.valid
    simp only [UInt32.isValidChar, Nat.isValidChar] at valid
    omega
  unfold String.utf8EncodeChar
  dsimp only
  generalize low.val.toNat = first at *
  generalize high.val.toNat = second at *
  -- The digits in base 64 of the two numbers, each from the one before.
  have digits (number : Nat) :
      number / 4096 = number / 64 / 64 ∧ number / 262144 = number / 64 / 64 / 64 := by omega
  obtain ⟨isFirst, isFirst'⟩ := digits first
  obtain ⟨isSecond, isSecond'⟩ := digits second
  split_ifs <;>
    simp (disch := omega) only [Below.cons_iff, UInt8.lt_iff_toNat_lt, ← UInt8.toNat_inj,
      UInt8.toNat_ofNat', Nat.mod_eq_of_lt] <;>
    omega

/-! ## Order and beginnings -/

/-- Texts are ordered as their bytes. -/
theorem bytes_lt_of_lt {first second : List Char} (lower : first < second) :
    bytes first < bytes second := by
  induction lower with
  | @nil char second =>
      have filled : bytes (char :: second) ≠ [] := by simp [String.utf8EncodeChar_ne_nil]
      exact List.not_le.mp (fun le => filled (List.le_nil.mp le))
  | @cons char first second _ ih =>
      rw [bytes_cons, bytes_cons]
      exact List.append_left_lt ih
  | @rel char first other second lower =>
      rw [bytes_cons, bytes_cons]
      exact ((below_utf8EncodeChar lower).append _ _).lt

theorem bytes_injective : Function.Injective bytes := by
  intro first second same
  rcases lt_trichotomy first second with below | isSame | above
  · exact absurd (same ▸ bytes_lt_of_lt below) (List.lt_irrefl _)
  · exact isSame
  · exact absurd (same ▸ bytes_lt_of_lt above) (List.lt_irrefl _)

/-- Bytes begin with those of a text exactly if their text begins with it. -/
theorem bytes_isPrefix_iff {lead text : List Char} : bytes lead <+: bytes text ↔ lead <+: text := by
  induction lead generalizing text with
  | nil => simp
  | cons char lead ih =>
      cases text with
      | nil => simp [String.utf8EncodeChar_ne_nil]
      | cons other text =>
          rw [bytes_cons, bytes_cons, List.cons_prefix_cons]
          rcases lt_trichotomy char other with lower | rfl | higher
          · have below := (below_utf8EncodeChar lower).append (bytes lead) (bytes text)
            simp [below.not_isPrefix.1, lower.ne]
          · simp [List.prefix_append_right_inj, ih]
          · have below := (below_utf8EncodeChar higher).append (bytes text) (bytes lead)
            simp [below.not_isPrefix.2, higher.ne']

/-! ## Case -/

/-- A byte, in lower case if it is a letter of ASCII. -/
def foldByte (byte : UInt8) : UInt8 :=
  if 65 ≤ byte ∧ byte ≤ 90 then byte + 32 else byte

theorem foldByte_ofNat {point : Nat} (small : point < 256) :
    foldByte (UInt8.ofNat point) =
      UInt8.ofNat (if 65 ≤ point ∧ point ≤ 90 then point + 32 else point) := by
  have isPoint : (UInt8.ofNat point).toNat = point := by
    rw [UInt8.toNat_ofNat', Nat.mod_eq_of_lt small]
  have bounds : (65 ≤ UInt8.ofNat point ∧ UInt8.ofNat point ≤ 90) ↔ 65 ≤ point ∧ point ≤ 90 := by
    rw [UInt8.le_iff_toNat_le, UInt8.le_iff_toNat_le, isPoint]
    rfl
  unfold foldByte
  split_ifs with isLetter inside inside
  · exact (UInt8.ofNat_add _ _).symm
  · exact absurd (bounds.mp isLetter) inside
  · exact absurd (bounds.mpr inside) isLetter
  · rfl

/-- Letters of ASCII are single bytes, and other characters have no byte that is one. -/
theorem map_foldByte_utf8EncodeChar (char : Char) :
    (String.utf8EncodeChar char).map foldByte = String.utf8EncodeChar char.toLower := by
  cases capital : char.isUpper with
  | true =>
      have bounds : 65 ≤ char.val.toNat ∧ char.val.toNat ≤ 90 := asciiUpper_iff.mp capital
      have shifted : char.toLower.val.toNat = char.val.toNat + 32 := toNat_toLower capital
      unfold String.utf8EncodeChar
      dsimp only
      rw [shifted, if_pos (by omega), if_pos (by omega), List.map_singleton,
        foldByte_ofNat (by omega), if_pos bounds]
  | false =>
      have bounds : ¬ (65 ≤ char.val.toNat ∧ char.val.toNat ≤ 90) := by
        rw [← Bool.not_eq_true, asciiUpper_iff] at capital
        exact capital
      rw [toLower_of_not_asciiUpper capital]
      unfold String.utf8EncodeChar
      dsimp only
      generalize char.val.toNat = point at *
      split_ifs <;>
        simp (disch := omega) only [List.map_cons, List.map_nil, foldByte_ofNat, if_neg]

theorem map_foldByte_bytes (text : List Char) :
    (bytes text).map foldByte = bytes (foldCase text) := by
  induction text with
  | nil => rfl
  | cons char text ih =>
      rw [bytes_cons, List.map_append, map_foldByte_utf8EncodeChar, ih]
      rfl

/-- Texts that differ only in case have as many bytes. -/
theorem length_bytes_of_sameFolded {first second : List Char}
    (same : sameFolded first second = true) : (bytes first).length = (bytes second).length := by
  rw [← List.length_map (f := foldByte), map_foldByte_bytes, beq_iff_eq.mp same,
    ← map_foldByte_bytes, List.length_map]

/-! ## Beginnings in any case -/

/-- The bytes of a text begin with those of `lead`, up to the case of ASCII letters. -/
def StartsLike (lead text : List Char) : Prop :=
  ((bytes text).take (bytes lead).length).map foldByte = (bytes lead).map foldByte

/-- A text whose bytes begin like those of `lead` begins with `lead` in some case. -/
theorem startsLike_iff {lead text : List Char} :
    StartsLike lead text ↔
      ∃ head rest, text = head ++ rest ∧ sameFolded head lead = true := by
  have sameLength : (bytes (foldCase lead)).length = (bytes lead).length := by
    rw [← map_foldByte_bytes, List.length_map]
  have begins : StartsLike lead text ↔ foldCase lead <+: foldCase text := by
    rw [StartsLike, List.map_take, map_foldByte_bytes, map_foldByte_bytes, ← sameLength,
      ← bytes_isPrefix_iff, List.prefix_iff_eq_take, eq_comm]
  rw [begins]
  constructor
  · rintro ⟨after, same⟩
    obtain ⟨head, rest, rfl, isHead, _⟩ := List.map_eq_append_iff.mp same.symm
    exact ⟨head, rest, rfl, beq_iff_eq.mpr isHead⟩
  · rintro ⟨head, rest, rfl, same⟩
    rw [← beq_iff_eq.mp same]
    exact ⟨foldCase rest, List.map_append.symm⟩

/-- A text that begins like `lead` is cut between two characters. -/
theorem StartsLike.exists_cut {lead text : List Char} (starts : StartsLike lead text) :
    ∃ head rest, text = head ++ rest ∧ bytes head = (bytes text).take (bytes lead).length := by
  obtain ⟨head, rest, rfl, same⟩ := startsLike_iff.mp starts
  refine ⟨head, rest, rfl, ?_⟩
  rw [bytes_append, ← length_bytes_of_sameFolded same, List.take_left]

/-- What follows `lead` in any case is the text of the bytes that follow those of `lead`. -/
theorem afterFolded?_eq_some_iff_bytes {lead text rest : List Char} :
    afterFolded? lead text = some rest ↔
      StartsLike lead text ∧ bytes rest = (bytes text).drop (bytes lead).length := by
  rw [afterFolded?_eq_some_iff]
  constructor
  · rintro ⟨head, rfl, same⟩
    refine ⟨startsLike_iff.mpr ⟨head, rest, rfl, same⟩, ?_⟩
    rw [bytes_append, ← length_bytes_of_sameFolded same, List.drop_left]
  · rintro ⟨starts, behind⟩
    obtain ⟨head, after, rfl, same⟩ := startsLike_iff.mp starts
    rw [bytes_append, ← length_bytes_of_sameFolded same, List.drop_left] at behind
    exact ⟨head, by rw [bytes_injective behind], same⟩

end NativeScript.Text
