/-
  LoggingOperator.Decimal.Shortest — THE FEWEST DECIMAL DIGITS OF A FLOAT.

  A finite float is printed with the fewest decimal digits that read back to
  it, and among those with the digits nearest to its value.  All arithmetic is
  exact: the reals that round to the float form an interval whose ends are
  given in quarters of its unit, and a decimal `d * 10 ^ k` is tested against
  these ends by cross-multiplication.

  For one digit, two digits and so on, only the two decimals next to the value
  are tried: if any decimal of that length lies in the interval, so does one
  of the two.
-/
import LoggingOperator.Decimal.Binary64
import LoggingOperator.Text.Numeral

namespace LoggingOperator.Binary64

/-! ## §1. The interval of reals that round to a float -/

/-- A decimal number `digits * 10 ^ exponent`. -/
structure Decimal where
  digits : Nat
  exponent : Int
deriving DecidableEq, Inhabited

/-- `10 ^ e` and `2 ^ e` as quotients, for an exponent of either sign. -/
def power (base : Nat) (exponent : Int) : Nat × Nat :=
  if exponent < 0 then (1, Nat.pow base exponent.natAbs) else (Nat.pow base exponent.natAbs, 1)

/-- The decimal measured in quarters of the unit of `x`, as a quotient. -/
def quarters (x : Binary64) (c : Decimal) : Nat × Nat :=
  let ten := power 10 c.exponent
  let unit := power 2 (x.exponent - 2)
  (c.digits * ten.1 * unit.2, ten.2 * unit.1)

/-- How far below `x`, in quarters of its unit, the rounding interval reaches.
    Below a power of two the floats are twice as dense. -/
def quartersBelow (x : Binary64) : Nat :=
  if x.mantissa = 4503599627370496 ∧ x.exponent ≠ -1074 then 1 else 2

/-- Does the decimal round to the magnitude of `x`?  The ends of the interval
    belong to it exactly if the mantissa is even. -/
def roundsTo (x : Binary64) (c : Decimal) : Bool :=
  let (num, den) := quarters x c
  let low := (4 * x.mantissa - quartersBelow x) * den
  let high := (4 * x.mantissa + 2) * den
  if x.mantissa % 2 = 0 then low ≤ num && num ≤ high else low < num && num < high

/-! ## §2. The neighbours of a float among decimals of one length -/

/-- The least `e` with the magnitude of `x` below `10 ^ e`. -/
def decimalMagnitude (x : Binary64) : Int :=
  let estimate := ((Nat.log2 x.mantissa : Int) + x.exponent) * 30103 / 100000
  let below (e : Int) : Bool :=
    let ten := power 10 e
    x.ratio.1 * ten.2 < ten.1 * x.ratio.2
  ([0, 1, 2, 3].map fun (i : Nat) => estimate + i).find? below |>.getD estimate

/-- The greatest decimal with this exponent that is not above the magnitude of `x`. -/
def floorAt (x : Binary64) (exponent : Int) : Decimal :=
  let ten := power 10 exponent
  { digits := x.ratio.1 * ten.2 / (x.ratio.2 * ten.1), exponent }

/-- Of the two decimals next to `x` with this exponent, the one that rounds to
    `x`; of two, the nearer; at equal distance, the one with the even last digit. -/
def neighbour? (x : Binary64) (exponent : Int) : Option Decimal :=
  let lower := floorAt x exponent
  let upper := { lower with digits := lower.digits + 1 }
  let (below, den) := quarters x lower
  let (above, _) := quarters x upper
  let down := 4 * x.mantissa * den - below
  let up := above - 4 * x.mantissa * den
  match roundsTo x lower, roundsTo x upper with
  | false, false => none
  | true, false => some lower
  | false, true => some upper
  | true, true =>
    if down < up || (down = up && lower.digits % 2 = 0) then some lower else some upper

/-- A decimal that was rounded up to `count` zeros after a one is written with the one. -/
def Decimal.carried (count : Nat) (c : Decimal) : Decimal :=
  if c.digits = Nat.pow 10 count then ⟨1, c.exponent + count⟩ else c

/-- The decimal of `count` digits next to `x` that rounds to it. -/
def ofLength? (x : Binary64) (count : Nat) : Option Decimal :=
  (neighbour? x (decimalMagnitude x - count)).map (Decimal.carried count)

/-- The shortest decimal that reads back to the magnitude of `x`. -/
def shortest (x : Binary64) : Decimal :=
  ((List.range 17).findSome? fun i => ofLength? x (i + 1)).getD
    (floorAt x (decimalMagnitude x - 17))

/-! ## §3. The text of a float -/

/-- Digits with a point after the first `point` of them.  There is always a
    digit on either side of the point. -/
def positional (digits : List Char) (point : Int) : List Char :=
  if point ≤ 0 then
    '0' :: '.' :: (List.replicate point.natAbs '0' ++ digits)
  else if digits.length ≤ point.natAbs then
    digits ++ List.replicate (point.natAbs - digits.length) '0' ++ ['.', '0']
  else
    digits.take point.natAbs ++ '.' :: digits.drop point.natAbs

/-- Digits with an exponent: one digit before the point, no point after a
    single digit, and the sign of the exponent always written. -/
def scientific (digits : List Char) (exponent : Int) : List Char :=
  let fraction := if digits.length ≤ 1 then [] else '.' :: digits.drop 1
  let sign := if exponent < 0 then '-' else '+'
  digits.take 1 ++ fraction ++ 'e' :: sign :: Text.decimal exponent.natAbs

/-- The magnitude is written with a point and no exponent from `0.00001` up to
    below `1e+16`, and with an exponent outside. -/
def magnitudeText (x : Binary64) : List Char :=
  if x.isZero then ['0', '.', '0']
  else
    let c := shortest x
    let digits := Text.decimal c.digits
    let point := c.exponent + digits.length
    if -5 < point ∧ point ≤ 16 then positional digits point
    else scientific digits (point - 1)

/-- The text of a float in a JSON document. -/
def text (x : Binary64) : List Char :=
  if x.negative then '-' :: magnitudeText x else magnitudeText x

end LoggingOperator.Binary64
