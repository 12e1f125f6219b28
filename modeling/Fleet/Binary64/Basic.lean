/-
# Finite binary floating-point numbers

A number of a document that is no integer is a double: a sign, a significand below `2 ^ 53` and an
exponent, in the one normalized form.  All arithmetic is exact on natural numbers with one
rounding at the end, to nearest with ties to even.
-/
namespace Fleet

/-! ## The type -/

/-- The value of the leading bit of a significand, `2 ^ 52`. -/
abbrev Binary64.leadingBit : Nat := 4503599627370496

/-- The least number with more bits than a significand, `2 ^ 53`. -/
abbrev Binary64.significandSize : Nat := 9007199254740992

/-- The number `± significand * 2 ^ exponent`, normalized. -/
structure Binary64 where
  /-- The sign, which zero has too. -/
  negative : Bool
  /-- The significand, with its leading bit. -/
  significand : Nat
  /-- The exponent of the significand's last bit. -/
  exponent : Int
  /-- The significand has at most 53 bits. -/
  significand_lt : significand < Binary64.significandSize
  /-- The exponent is in the range of the format. -/
  exponent_range : -1074 ≤ exponent ∧ exponent ≤ 971
  /-- The leading bit is set, except next to zero. -/
  normal : exponent = -1074 ∨ Binary64.leadingBit ≤ significand
  deriving DecidableEq

namespace Binary64

/-- Zero with a sign. -/
def zero (negative : Bool) : Binary64 :=
  ⟨negative, 0, -1074, by decide, by decide, Or.inl rfl⟩

/-- Whether the number is a zero of either sign. -/
def isZero (x : Binary64) : Bool :=
  x.significand == 0

/-- Equality of values: the two zeros are equal. -/
def same (a b : Binary64) : Bool :=
  a == b || (a.isZero && b.isZero)

/-- The same number with the other sign where asked for. -/
def negateIf (flip : Bool) (x : Binary64) : Binary64 :=
  { x with negative := x.negative != flip }

/-! ## Rounding -/

/-- A quotient rounded to the nearest natural number, a half to the even neighbour. -/
def roundHalfEven (num den : Nat) : Nat :=
  let q := num / den
  let r := num % den
  if 2 * r < den then q
  else if den < 2 * r then q + 1
  else if q % 2 = 0 then q else q + 1

/-- The quotient `num / (den * 2 ^ e)` as a pair of natural numbers. -/
def shifted (num den : Nat) (e : Int) : Nat × Nat :=
  if 0 ≤ e then (num, den * Nat.pow 2 e.toNat) else (num * Nat.pow 2 (-e).toNat, den)

/-- The exponent at which a positive quotient has a 53-bit integer part, or the least exponent. -/
def exponentOf (num den : Nat) : Int :=
  let guess : Int := (Nat.log2 num : Int) - (Nat.log2 den : Int) - 52
  let (n, d) := shifted num den guess
  max (if n < d * leadingBit then guess - 1 else guess) (-1074)

/-- The number with these parts, if they are normalized and in range. -/
def ofParts? (negative : Bool) (significand : Nat) (exponent : Int) : Option Binary64 :=
  if h : significand < significandSize ∧ (-1074 ≤ exponent ∧ exponent ≤ 971) ∧
      (exponent = -1074 ∨ leadingBit ≤ significand) then
    some ⟨negative, significand, exponent, h.1, h.2.1, h.2.2⟩
  else none

/-- The double nearest to a quotient, unless it is out of range. -/
def ofRatio? (negative : Bool) (num den : Nat) : Option Binary64 :=
  if num = 0 then some (zero negative)
  else
    let e := exponentOf num den
    let (n, d) := shifted num den e
    let m := roundHalfEven n d
    if m = significandSize then ofParts? negative leadingBit (e + 1) else ofParts? negative m e

/-- The size of a number as a quotient of natural numbers. -/
def ratio (x : Binary64) : Nat × Nat :=
  if 0 ≤ x.exponent then (x.significand * Nat.pow 2 x.exponent.toNat, 1)
  else (x.significand, Nat.pow 2 (-x.exponent).toNat)

/-- The rounded product, unless it is out of range. -/
def mul? (a b : Binary64) : Option Binary64 :=
  ofRatio? (a.negative != b.negative) (a.ratio.1 * b.ratio.1) (a.ratio.2 * b.ratio.2)

/-- The rounded quotient by a number that is not zero, unless it is out of range. -/
def div? (a b : Binary64) : Option Binary64 :=
  ofRatio? (a.negative != b.negative) (a.ratio.1 * b.ratio.2) (a.ratio.2 * b.ratio.1)

/-! ## Decimal literals -/

/-- The greatest exponent of a power of ten that is a double. -/
def greatestPower : Nat := 308

/-- The double nearest to a power of ten, unless it is out of range. -/
def powerOfTen? (n : Nat) : Option Binary64 :=
  if n ≤ greatestPower then ofRatio? false (Nat.pow 10 n) 1 else none

/-- Divides by a power of ten, in steps of at most the greatest power that is a double. -/
def scaleDown? : Nat → Binary64 → Nat → Option Binary64
  | 0, x, n => (powerOfTen? n).bind x.div?
  | steps + 1, x, n =>
    if x.isZero then some x
    else if n ≤ greatestPower then (powerOfTen? n).bind x.div?
    else
      ((powerOfTen? greatestPower).bind x.div?).bind fun y =>
        scaleDown? steps y (n - greatestPower)

/-- Multiplies by a power of ten. -/
def scaleUp? (x : Binary64) (n : Nat) : Option Binary64 :=
  if x.isZero then some x else (powerOfTen? n).bind x.mul?

/--
The double that a decimal literal denotes, unless it is too large.  The digits are rounded first,
then scaled by a power of ten that is rounded itself, so that the last bit may differ from the
nearest double's.
-/
def ofDecimal? (negative : Bool) (digits : Nat) (exponent : Int) : Option Binary64 :=
  ((ofRatio? false digits 1).bind fun x =>
    if 0 ≤ exponent then x.scaleUp? exponent.toNat
    else scaleDown? (-exponent).toNat x (-exponent).toNat).map
      (negateIf negative)

end Binary64

end Fleet
