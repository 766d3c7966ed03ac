import NativeScript.Kind.Basic
import NativeScript.Text.Lead

/-!
# Reading kinds

The written form of a kind is read from left to right: a star announces a
pointer, `ArrayType[` an array and `MapType[` a map.  Any other text is a name,
whose last dot separates a member from its namespace when both are non-empty.
-/

namespace NativeScript.Kind

/-- Why a text is not the written form of a kind. -/
inductive ReadError where
  | empty
  | unbalancedBrackets (text : String)
  | trailingText (text : String)
deriving DecidableEq

/-- The wording of a read error. -/
def ReadError.message : ReadError → String
  | empty => "empty kind"
  | unbalancedBrackets text => "unbalanced brackets in kind '" ++ text ++ "'"
  | trailingText text => "unexpected trailing text in kind '" ++ text ++ "'"

/-! ## Brackets -/

/-- Split a text at the bracket that closes an already opened one.  `depth`
counts the brackets opened since. -/
def splitClosing (depth : Nat) : List Char → Option (List Char × List Char)
  | [] => none
  | char :: text =>
      if char = ']' then
        match depth with
        | 0 => some ([], text)
        | depth + 1 => (splitClosing depth text).map fun (inner, rest) => (char :: inner, rest)
      else
        (splitClosing (if char = '[' then depth + 1 else depth) text).map
          fun (inner, rest) => (char :: inner, rest)

/-- The two sides of the closing bracket, with the bracket between them, are the
text. -/
theorem eq_of_splitClosing {depth : Nat} {text inner rest : List Char}
    (split : splitClosing depth text = some (inner, rest)) :
    text = inner ++ ']' :: rest := by
  induction text generalizing depth inner rest with
  | nil => simp [splitClosing] at split
  | cons char text ih =>
      simp only [splitClosing] at split
      split at split
      · rename_i closes
        cases depth with
        | zero => simp_all
        | succ depth =>
            obtain ⟨⟨inner', rest'⟩, tail, eq⟩ := Option.map_eq_some_iff.1 split
            simp only [Prod.mk.injEq] at eq
            simp [← eq.1, ← eq.2, ih tail]
      · obtain ⟨⟨inner', rest'⟩, tail, eq⟩ := Option.map_eq_some_iff.1 split
        simp only [Prod.mk.injEq] at eq
        simp [← eq.1, ← eq.2, ih tail]

/-! ## Names -/

/-- Split a text at its last dot. -/
def splitLastDot : List Char → Option (List Char × List Char)
  | [] => none
  | char :: text =>
      match splitLastDot text with
      | some (space, member) => some (char :: space, member)
      | none => if char = '.' then some ([], text) else none

/-- The two sides of the last dot, with the dot between them, are the text. -/
theorem eq_of_splitLastDot {text space member : List Char}
    (split : splitLastDot text = some (space, member)) :
    text = space ++ '.' :: member := by
  induction text generalizing space member with
  | nil => simp [splitLastDot] at split
  | cons char text ih =>
      simp only [splitLastDot] at split
      split at split
      · rename_i space' member' tail
        simp only [Option.some.injEq, Prod.mk.injEq] at split
        simp [← split.1, ← split.2, ih tail]
      · split at split
        · rename_i dot
          simp only [Option.some.injEq, Prod.mk.injEq] at split
          simp [← split.1, ← split.2, dot]
        · simp at split

/-- Read a name: the last dot separates a member from its namespace when both
are non-empty. -/
def ofName (text : List Char) : Kind :=
  match _split : splitLastDot text with
  | some (space, member) =>
      if space.isEmpty || member.isEmpty then
        named (String.ofList text)
      else
        qualified (ofName space) (String.ofList member)
  | none => named (String.ofList text)
termination_by text.length
decreasing_by
  rw [eq_of_splitLastDot _split]
  simp

/-! ## Kinds -/

/-- How the written form of a kind begins, with the text after the beginning. -/
inductive Opening where
  | pointer (rest : List Char)
  | array (rest : List Char)
  | map (rest : List Char)
  | name

/-- How a text begins. -/
def opening (text : List Char) : Opening :=
  match Text.after? "*".toList text with
  | some rest => .pointer rest
  | none =>
      match Text.after? "ArrayType[".toList text with
      | some rest => .array rest
      | none =>
          match Text.after? "MapType[".toList text with
          | some rest => .map rest
          | none => .name

theorem eq_of_opening_pointer {text rest : List Char} (opens : opening text = .pointer rest) :
    text = "*".toList ++ rest := by
  unfold opening at opens
  grind [Text.after?_eq_some_iff]

theorem eq_of_opening_array {text rest : List Char} (opens : opening text = .array rest) :
    text = "ArrayType[".toList ++ rest := by
  unfold opening at opens
  grind [Text.after?_eq_some_iff]

theorem eq_of_opening_map {text rest : List Char} (opens : opening text = .map rest) :
    text = "MapType[".toList ++ rest := by
  unfold opening at opens
  grind [Text.after?_eq_some_iff]

/-- Whether a text holds a square bracket. -/
def hasBracket (text : List Char) : Bool :=
  text.any fun char => char == '[' || char == ']'

/-- Read the written form of a kind. -/
def read (text : List Char) : Except ReadError Kind :=
  match _opens : opening text with
  | .pointer rest => (read rest).map pointer
  | .array rest =>
      match _closes : splitClosing 0 rest with
      | none => .error (.unbalancedBrackets (String.ofList text))
      | some (inner, after) =>
          if after.isEmpty then
            (read inner).map array
          else
            .error (.trailingText (String.ofList text))
  | .map rest =>
      match _closes : splitClosing 0 rest with
      | none => .error (.unbalancedBrackets (String.ofList text))
      | some (inner, after) =>
          match read inner with
          | .error error => .error error
          | .ok key => (read after).map (map key)
  | .name =>
      if text.isEmpty then
        .error .empty
      else if hasBracket text then
        .error (.unbalancedBrackets (String.ofList text))
      else
        .ok (ofName text)
termination_by text.length
decreasing_by
  · simp [eq_of_opening_pointer _opens]
  · simp [eq_of_opening_array _opens, eq_of_splitClosing _closes]
    omega
  · simp [eq_of_opening_map _opens, eq_of_splitClosing _closes]
    omega
  · simp [eq_of_opening_map _opens, eq_of_splitClosing _closes]
    omega

/-- Read the written form of a kind from a string. -/
def ofString (text : String) : Except ReadError Kind :=
  read text.toList

end NativeScript.Kind
