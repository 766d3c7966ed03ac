import NativeScript.Text.Blank
import NativeScript.Text.LetterCase

/-!
# Letters and their case

The capitals of ASCII are lowered by a fixed distance, so they stay apart and stay letters, and
lowering gives no underscore.  No character is a capital and in lower case at once.
-/

namespace NativeScript.Text

theorem asciiUpper_iff {char : Char} :
    char.isUpper = true ↔ 65 ≤ char.toNat ∧ char.toNat ≤ 90 := by
  have asNumbers : ('A'.val ≤ char.val ∧ char.val ≤ 'Z'.val) ↔
      65 ≤ char.toNat ∧ char.toNat ≤ 90 :=
    and_congr UInt32.le_iff_toNat_le UInt32.le_iff_toNat_le
  exact decide_eq_true_iff.trans asNumbers

theorem toNat_toLower {char : Char} (capital : char.isUpper = true) :
    char.toLower.toNat = char.toNat + 32 := by
  have bounds := asciiUpper_iff.mp capital
  have shifted : char.toLower.toNat = (char.toNat + 32) % 2 ^ 32 :=
    congrArg Char.toNat (dif_pos (of_decide_eq_true capital))
  omega

theorem toLower_of_not_asciiUpper {char : Char} (small : char.isUpper = false) :
    char.toLower = char :=
  dif_neg (of_decide_eq_false small)

theorem asciiLower_iff {char : Char} :
    char.isLower = true ↔ 97 ≤ char.toNat ∧ char.toNat ≤ 122 := by
  have asNumbers : (char.val ≥ 'a'.val ∧ char.val ≤ 'z'.val) ↔
      97 ≤ char.toNat ∧ char.toNat ≤ 122 :=
    and_congr UInt32.le_iff_toNat_le UInt32.le_iff_toNat_le
  rw [← asNumbers]
  exact (Bool.and_eq_true_iff).trans (and_congr decide_eq_true_iff decide_eq_true_iff)

theorem toNat_toUpper {char : Char} (small : char.isLower = true) :
    char.toUpper.toNat + 32 = char.toNat := by
  have bounds := asciiLower_iff.mp small
  have within : char.val ≥ 'a'.val ∧ char.val ≤ 'z'.val :=
    ⟨UInt32.le_iff_toNat_le.mpr bounds.1, UInt32.le_iff_toNat_le.mpr bounds.2⟩
  -- The distance is added as a word, so the sum runs over.
  have distance : ('A'.val - 'a'.val).toNat = 2 ^ 32 - 32 := rfl
  have shifted : char.toUpper.toNat = (char.toNat + ('A'.val - 'a'.val).toNat) % 2 ^ 32 :=
    (congrArg Char.toNat (dif_pos within)).trans (UInt32.toNat_add _ _)
  omega

theorem isAlphanum_iff {char : Char} :
    char.isAlphanum = true ↔
      (65 ≤ char.toNat ∧ char.toNat ≤ 90) ∨ (97 ≤ char.toNat ∧ char.toNat ≤ 122) ∨
        (48 ≤ char.toNat ∧ char.toNat ≤ 57) := by
  have split : char.isAlphanum = (char.isUpper || (char.isLower || char.isDigit)) :=
    Bool.or_assoc _ _ _
  rw [split, Bool.or_eq_true, Bool.or_eq_true, asciiUpper_iff, asciiLower_iff,
    Char.isDigit_iff_toNat]
  rfl

/-- A letter stays a letter when it is lowered. -/
theorem isAlphanum_toLower (char : Char) : char.toLower.isAlphanum = char.isAlphanum := by
  cases capital : char.isUpper with
  | true =>
      have bounds := asciiUpper_iff.mp capital
      rw [Bool.eq_iff_iff, isAlphanum_iff, isAlphanum_iff, toNat_toLower capital]
      omega
  | false => rw [toLower_of_not_asciiUpper capital]

theorem isBlank_of_isAlphanum {char : Char} (plain : char.isAlphanum = true) :
    isBlank char = false := by
  have bounds := isAlphanum_iff.mp plain
  simp [isBlank]
  omega

theorem toLower_ne_underscore {char : Char} (other : char ≠ '_') : char.toLower ≠ '_' := by
  cases capital : char.isUpper with
  | true =>
      intro same
      have shifted := toNat_toLower capital
      rw [same] at shifted
      have bounds := asciiUpper_iff.mp capital
      have underscore : '_'.toNat = 95 := rfl
      omega
  | false => rwa [toLower_of_not_asciiUpper capital]

theorem ofNat_ne_underscore (point : Nat) (above : '_'.toNat < point) :
    Char.ofNat point ≠ '_' := by
  by_cases valid : point.isValidChar
  · have isPoint : (Char.ofNat point).toNat = point := congrArg Char.toNat (dif_pos valid)
    intro same
    rw [same] at isPoint
    exact Nat.lt_irrefl _ (isPoint ▸ above)
  · have isZero : Char.ofNat point = Char.ofNat 0 := dif_neg valid
    rw [isZero]
    decide

theorem underscore_lt_of_mem_lowerings :
    ∀ lowering ∈ lowerings, ('_'.toNat : Int) < lowering.run.first + lowering.distance := by
  decide +kernel

/-- Lowering gives no underscore. -/
theorem underscore_notMem_lowered {char : Char} (other : char ≠ '_') : '_' ∉ lowered char := by
  unfold lowered
  split
  · simpa using (toLower_ne_underscore other).symm
  · split
    · decide
    · split
      · rename_i lowering found
        have inside := List.find?_some found
        have above := underscore_lt_of_mem_lowerings lowering (List.mem_of_find?_eq_some found)
        simp only [CodePoints.Run.contains, Bool.and_eq_true, decide_eq_true_eq] at inside
        have clean := ofNat_ne_underscore (char.toNat + lowering.distance).toNat (by omega)
        simpa using clean.symm
      · simpa using other.symm

theorem val_lt_of_asciiUpper {char : Char} (capital : char.isUpper = true) : char.val < 128 :=
  UInt32.lt_iff_toNat_lt.mpr (Nat.lt_of_le_of_lt (asciiUpper_iff.mp capital).2 (by decide))

theorem lowered_of_asciiUpper {char : Char} (capital : char.isUpper = true) :
    lowered char = [char.toLower] :=
  if_pos (val_lt_of_asciiUpper capital)

theorem isUpper_of_asciiUpper {char : Char} (capital : char.isUpper = true) :
    isUpper char = true := by
  rwa [isUpper, if_pos (val_lt_of_asciiUpper capital)]

/-- The capitals of ASCII stay apart. -/
theorem toLower_inj {first second : Char} (capital : first.isUpper = true)
    (capitalToo : second.isUpper = true) (same : first.toLower = second.toLower) :
    first = second := by
  have shifted := toNat_toLower capital
  rw [same, toNat_toLower capitalToo] at shifted
  exact Char.toNat_inj.mp (Nat.add_right_cancel shifted).symm

/-! ## The two cases -/

namespace CodePoints.Run

variable {run first second : Run} {point : Nat}

theorem bounds_of_contains (inside : run.contains point = true) :
    run.first ≤ point ∧ point ≤ run.last := by
  rw [contains, Bool.and_eq_true] at inside
  exact of_decide_eq_true inside.1

/-- Whether two runs share no code point: one ends before the other begins, or they are
interleaved. -/
def apart (first second : Run) : Bool :=
  Nat.blt first.last second.first || Nat.blt second.last first.first ||
    (List.range' first.first (first.last + 1 - first.first)).all fun point =>
      !(first.contains point && second.contains point)

theorem contains_eq_false_of_apart (areApart : first.apart second = true)
    (inside : first.contains point = true) : second.contains point = false := by
  have bounds := bounds_of_contains inside
  rw [Bool.eq_false_iff]
  intro insideToo
  have boundsToo := bounds_of_contains insideToo
  simp only [apart, Bool.or_eq_true, Nat.blt_eq, List.all_eq_true, List.mem_range'_1] at areApart
  rcases areApart with (before | behind) | interleaved
  · omega
  · omega
  · have shared := interleaved point (by omega)
    rw [inside, insideToo] at shared
    cases shared

end CodePoints.Run

theorem lowercase_apart_uppercase :
    (lowercase.all fun lower => uppercase.all lower.apart) = true := by
  decide +kernel

/-- No character beyond ASCII has both cases. -/
theorem uppercase_contains_eq_false {point : Nat} (small : lowercase.contains point = true) :
    uppercase.contains point = false := by
  obtain ⟨lower, isLower, inside⟩ := List.any_eq_true.mp small
  apply List.any_eq_false.mpr
  intro upper isUpper
  have areApart := List.all_eq_true.mp
    (List.all_eq_true.mp lowercase_apart_uppercase lower isLower) upper isUpper
  rw [CodePoints.Run.contains_eq_false_of_apart areApart inside]
  exact Bool.false_ne_true

end NativeScript.Text
