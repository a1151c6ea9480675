/-
  LoggingOperator.Quantity — RESOURCE QUANTITIES COMPARED BY VALUE.

  The API server respells quantities: `0.5` comes back as `500m`, `1024Mi` as
  `1Gi`.  Before two objects are compared, every entry of a
  `resources.limits` or `resources.requests` map is therefore replaced by its
  canonical spelling, the exact value in base units.

  A quantity is an optional sign, a decimal number and a suffix: a binary
  multiple `Ki` to `Ei`, a decimal one `n` to `E`, or an exponent `e3`.  Its
  value is kept in nano-units, rounded away from zero, and has to fit a
  signed 128-bit integer at every step of the computation; a text whose value
  does not fit is no quantity and stays as written.
-/
import LoggingOperator.Json.Basic
import LoggingOperator.Text.Blank
import LoggingOperator.Text.Numeral

namespace LoggingOperator

namespace Quantity

/-! ## §1. The parts of a quantity -/

/-- Nano-units in one base unit. -/
def nano : Nat := 1000000000

/-- Magnitudes fit a signed 128-bit integer below this bound, two to the
    127th. -/
def bound : Nat := 170141183460469231731687303715884105728

/-- The number, if its magnitude fits. -/
def fit? (n : Nat) : Option Nat :=
  if n < bound then some n else none

/-- A multiple `2 ^ binary * 10 ^ decimal`. -/
structure Multiple where
  binary : Nat
  decimal : Int
deriving DecidableEq, Repr

/-- The multiple of an exponent written after `e` or `E`. -/
def exponentMultiple? (digits : List Char) : Option Multiple := do
  let n ← Text.integer? digits
  if -30 ≤ n ∧ n ≤ 30 then some ⟨0, n⟩ else none

/-- The multiple that a suffix stands for. -/
def multiple? : List Char → Option Multiple
  | [] => some ⟨0, 0⟩
  | ['K', 'i'] => some ⟨10, 0⟩
  | ['M', 'i'] => some ⟨20, 0⟩
  | ['G', 'i'] => some ⟨30, 0⟩
  | ['T', 'i'] => some ⟨40, 0⟩
  | ['P', 'i'] => some ⟨50, 0⟩
  | ['E', 'i'] => some ⟨60, 0⟩
  | ['n'] => some ⟨0, -9⟩
  | ['u'] => some ⟨0, -6⟩
  | ['m'] => some ⟨0, -3⟩
  | ['k'] => some ⟨0, 3⟩
  | ['M'] => some ⟨0, 6⟩
  | ['G'] => some ⟨0, 9⟩
  | ['T'] => some ⟨0, 12⟩
  | ['P'] => some ⟨0, 15⟩
  | ['E'] => some ⟨0, 18⟩
  | 'e' :: digits => exponentMultiple? digits
  | 'E' :: digits => exponentMultiple? digits
  | _ => none

/-- Is the sign negative, and what follows it? -/
def splitSign : List Char → Bool × List Char
  | '-' :: cs => (true, cs)
  | '+' :: cs => (false, cs)
  | cs => (false, cs)

/-- Digits and points belong to the number, the rest is the suffix. -/
def isNumberChar (c : Char) : Bool :=
  Text.isDigit c || c == '.'

/-- What stands before the first point, and what after it. -/
def splitPoint (cs : List Char) : List Char × List Char :=
  (cs.takeWhile (· ≠ '.'), (cs.dropWhile (· ≠ '.')).drop 1)

/-! ## §2. The value in nano-units -/

/-- `mantissa * 10 ^ (-places) * 2 ^ binary * 10 ^ decimal` in nano-units,
    rounded up, if every step fits. -/
def nanos? (mantissa places : Nat) (m : Multiple) : Option Nat := do
  let mantissa ← fit? mantissa
  let power ← fit? (Nat.pow 2 m.binary)
  let numerator ← fit? (mantissa * power)
  let scale : Int := m.decimal + 9 - places
  let ten ← fit? (Nat.pow 10 scale.natAbs)
  if 0 ≤ scale then fit? (numerator * ten)
  else
    let sum ← fit? (numerator + (ten - 1))
    some (sum / ten)

/-- The value of a quantity in nano-units; `none` if the text is no quantity
    or its value does not fit. -/
def parseNanos? (s : String) : Option Int := do
  let (negative, body) := splitSign (Text.trim s.toList)
  let (whole, fraction) := splitPoint (body.takeWhile isNumberChar)
  if whole = [] ∧ fraction = [] then none
  else do
    let digits ← (whole ++ fraction).mapM Text.digit?
    let m ← multiple? (body.dropWhile isNumberChar)
    let nanos ← nanos? (Text.numeral digits) fraction.length m
    some (if negative then -(nanos : Int) else nanos)

/-! ## §3. The exact decimal of a value -/

/-- The nine digits of a fraction without the zeros at their end. -/
def fractionDigits (n : Nat) : List Char :=
  ((Text.padded 9 n).reverse.dropWhile (· == '0')).reverse

/-- Base units and nano-units of a magnitude. -/
def magnitudeText (n : Nat) : List Char :=
  if n % nano = 0 then Text.decimal (n / nano)
  else Text.decimal (n / nano) ++ '.' :: fractionDigits (n % nano)

/-- The canonical spelling of a value in nano-units: its decimal in base units. -/
def formatNanos (n : Int) : String :=
  String.ofList (if n < 0 then '-' :: magnitudeText n.natAbs else magnitudeText n.natAbs)

/-! ## §4. Resource maps in canonical form -/

/-- One entry of a resource map: a string that is a quantity gets its canonical
    spelling. -/
def canonicalEntry : Json → Json
  | .string s =>
    match parseNanos? s with
    | some n => .string (formatNanos n)
    | none => .string s
  | v => v

/-- Every entry of a resource map. -/
def canonicalEntries : Json → Json
  | .object fields => .object (fields.map fun (k, v) => (k, canonicalEntry v))
  | v => v

/-- The two resource maps of a `resources` value. -/
def canonicalBuckets (v : Json) : Json :=
  (v.modify "limits" canonicalEntries).modify "requests" canonicalEntries

mutual

/-- Bring the resource maps under every `resources` key into canonical form, at
    any depth. -/
def canonicalize : Json → Json
  | .array items => .array (canonicalizeItems items)
  | .object fields => .object (canonicalizeFields fields)
  | v => v

/-- The same inside every item. -/
def canonicalizeItems : List Json → List Json
  | [] => []
  | x :: xs => canonicalize x :: canonicalizeItems xs

/-- The same inside every field, and for the field itself if it is called
    `resources`. -/
def canonicalizeFields : List (String × Json) → List (String × Json)
  | [] => []
  | (k, v) :: rest =>
    let v := canonicalize v
    (k, if k = "resources" then canonicalBuckets v else v) :: canonicalizeFields rest

end

end Quantity

end LoggingOperator
