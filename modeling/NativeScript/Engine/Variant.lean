import NativeScript.Engine.VariantType

/-!
# Boxed values

Values cross the boundary to the engine in boxes that carry their type.  Real
numbers are kept as decimals: they are stored and handed on, never computed
with.

The engine holds a real number in a float of 64 bits.  Decimals leave out what is
special to floats: no decimal is NaN, an infinity or a negative zero, and none is
rounded to the nearest float, so two decimals with one nearest float stay apart.
-/

namespace NativeScript.Engine

/-- The number `mantissa * 10 ^ (-places)`, exactly. -/
structure Decimal where
  mantissa : Int
  places : Nat
deriving DecidableEq

/-- Drop a trailing zero from each of the decimal places that end in one. -/
def Decimal.shorten (mantissa : Int) : Nat → Decimal
  | 0 => ⟨mantissa, 0⟩
  | places + 1 =>
      if mantissa % 10 = 0 then shorten (mantissa / 10) places else ⟨mantissa, places + 1⟩

/-- A decimal without needless places, so that equal numbers are equal
decimals. -/
def Decimal.normalize (decimal : Decimal) : Decimal :=
  Decimal.shorten decimal.mantissa decimal.places

/-- A boxed value. -/
inductive Variant where
  | nil
  | bool (value : Bool)
  | int (value : Int64)
  | uint (value : UInt64)
  /-- A finite real number, which is not rounded to a float. -/
  | real (value : Decimal)
  | string (value : String)
  | vector2 (x y : Decimal)
  | vector3 (x y z : Decimal)
  /-- An engine object, by its number. -/
  | object (id : UInt64)
  | array (items : List Variant)
  | dictionary (items : List (Variant × Variant))

namespace Variant

/-- The type tag of a boxed value. -/
def type : Variant → VariantType
  | nil => .nil
  | bool _ => .bool
  | int _ => .int
  | uint _ => .int
  | real _ => .real
  | string _ => .string
  | vector2 _ _ => .vector2
  | vector3 _ _ _ => .vector3
  | object _ => .object
  | array _ => .array
  | dictionary _ => .dictionary

/-- Whether a box is empty. -/
def isNil : Variant → Bool
  | nil => true
  | _ => false

instance : Inhabited Variant := ⟨nil⟩

mutual

/-- Whether two boxes hold the same value.  Signed and unsigned numbers are
never the same. -/
def same : Variant → Variant → Bool
  | nil, nil => true
  | bool left, bool right => left == right
  | int left, int right => left == right
  | uint left, uint right => left == right
  | real left, real right => left.normalize == right.normalize
  | string left, string right => left == right
  | vector2 x y, vector2 x' y' => x.normalize == x'.normalize && y.normalize == y'.normalize
  | vector3 x y z, vector3 x' y' z' =>
      x.normalize == x'.normalize && y.normalize == y'.normalize && z.normalize == z'.normalize
  | object left, object right => left == right
  | array left, array right => sameItems left right
  | dictionary left, dictionary right => sameEntries left right
  | _, _ => false

/-- Whether two lists hold the same values in the same order. -/
def sameItems : List Variant → List Variant → Bool
  | [], [] => true
  | item :: items, item' :: items' => same item item' && sameItems items items'
  | _, _ => false

/-- Whether two lists hold the same pairs in the same order. -/
def sameEntries : List (Variant × Variant) → List (Variant × Variant) → Bool
  | [], [] => true
  | (key, value) :: entries, (key', value') :: entries' =>
      same key key' && same value value' && sameEntries entries entries'
  | _, _ => false

end

instance : BEq Variant := ⟨same⟩

end Variant

end NativeScript.Engine
