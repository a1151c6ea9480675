/-
  LoggingOperator.Decimal.Binary64 — FINITE 64-BIT FLOATS AS EXACT NUMBERS.

  A finite float is a sign and a value `mantissa * 2 ^ exponent`.  Each value
  is kept in the one form the hardware uses: either the mantissa has all of
  its 53 bits, or the exponent is the least one.  So two floats are equal as
  values of this type exactly if they have the same 64 bits; only `agrees`
  looks past the sign of a zero.

  Rounding (`ofRatio?`) takes an exact quotient of natural numbers to the
  nearest float, a half going to the even mantissa, and answers `none` when
  the result would be infinite.
-/

namespace LoggingOperator

/-- A finite 64-bit float: `mantissa * 2 ^ exponent`, negated if `negative`.
    A mantissa has 53 bits: it is below 9007199254740992, and the highest bit
    is worth 4503599627370496. -/
structure Binary64 where
  negative : Bool
  mantissa : Nat
  exponent : Int
  mantissa_lt : mantissa < 9007199254740992 := by decide
  exponent_ge : -1074 ≤ exponent := by decide
  exponent_le : exponent ≤ 971 := by decide
  /-- Every mantissa bit is used unless the exponent is the least one. -/
  normal : 4503599627370496 ≤ mantissa ∨ exponent = -1074 := by decide
deriving DecidableEq

namespace Binary64

/-! ## §1. Zeros and signs -/

/-- The zero of the given sign. -/
def zero (negative : Bool) : Binary64 where
  negative := negative
  mantissa := 0
  exponent := -1074

instance : Inhabited Binary64 := ⟨zero false⟩

/-- Zero of either sign. -/
def isZero (x : Binary64) : Bool :=
  x.mantissa == 0

/-- Equality of values: both zeros are equal. -/
def agrees (x y : Binary64) : Bool :=
  decide (x = y) || (x.isZero && y.isZero)

/-- The float with its sign chosen anew. -/
def withSign (negative : Bool) (x : Binary64) : Binary64 :=
  { x with negative := negative }

/-! ## §2. Rounding a quotient -/

/-- The quotient rounded to the nearest natural number, a half to the even one. -/
def roundHalfEven (num den : Nat) : Nat :=
  let quotient := num / den
  let rest := 2 * (num % den)
  if rest < den then quotient
  else if den < rest then quotient + 1
  else if quotient % 2 = 0 then quotient else quotient + 1

/-- `num / den / 2 ^ exponent` as a quotient of natural numbers. -/
def scaled (num den : Nat) (exponent : Int) : Nat × Nat :=
  if exponent < 0 then (num * Nat.pow 2 exponent.natAbs, den)
  else (num, den * Nat.pow 2 exponent.natAbs)

/-- The exponent at which the quotient has 53 bits, and no less than the least exponent. -/
def exponentFor (num den : Nat) : Int :=
  let estimate : Int := (Nat.log2 num : Int) - (Nat.log2 den : Int) - 52
  let (n, d) := scaled num den estimate
  let exact := if n < d * 4503599627370496 then estimate - 1 else estimate
  max (-1074) exact

/-- The float made of these parts, if they are in normal form. -/
def ofParts? (negative : Bool) (mantissa : Nat) (exponent : Int) : Option Binary64 :=
  if h : mantissa < 9007199254740992 ∧ -1074 ≤ exponent ∧ exponent ≤ 971
      ∧ (4503599627370496 ≤ mantissa ∨ exponent = -1074) then
    some ⟨negative, mantissa, exponent, h.1, h.2.1, h.2.2.1, h.2.2.2⟩
  else none

/-- The float nearest to `num / den`; `none` if that is infinite. -/
def ofRatio? (negative : Bool) (num den : Nat) : Option Binary64 :=
  if num = 0 then some (zero negative)
  else
    let exponent := exponentFor num den
    let (n, d) := scaled num den exponent
    let mantissa := roundHalfEven n d
    if mantissa = 9007199254740992 then ofParts? negative 4503599627370496 (exponent + 1)
    else ofParts? negative mantissa exponent

/-! ## §3. Arithmetic on magnitudes -/

/-- The magnitude as a quotient of natural numbers. -/
def ratio (x : Binary64) : Nat × Nat :=
  if x.exponent < 0 then (x.mantissa, Nat.pow 2 x.exponent.natAbs)
  else (x.mantissa * Nat.pow 2 x.exponent.natAbs, 1)

/-- The rounded product of the magnitudes, with the sign of `x`. -/
def mul? (x y : Binary64) : Option Binary64 :=
  ofRatio? x.negative (x.ratio.1 * y.ratio.1) (x.ratio.2 * y.ratio.2)

/-- The rounded quotient of the magnitudes, with the sign of `x`; `none` for a zero divisor. -/
def div? (x y : Binary64) : Option Binary64 :=
  if y.isZero then none
  else ofRatio? x.negative (x.ratio.1 * y.ratio.2) (x.ratio.2 * y.ratio.1)

/-! ## §4. Laws -/

@[simp] theorem agrees_self (x : Binary64) : x.agrees x = true := by
  simp [agrees]

end Binary64

end LoggingOperator
