/-
  LoggingOperator.Json.Document — WHAT A JSON TEXT SAYS, BEFORE IT IS A VALUE.

  A text of the grammar of JSON need not have a value: a number can be too
  large, half of a surrogate pair can stand alone, arrays can be nested too
  deep.  A `Document` is the structure of the text, with its fields in the order
  of the text and repeated ones kept.  Only what is asked for becomes a value.

  A number is an integer if it is written as one and fits 64 bits.  Otherwise
  it is a float: the leading digits that fit an unsigned 64-bit integer are
  rounded to a float, which is multiplied or divided by the float nearest to
  the power of ten, rounding again.  A float beyond the greatest one is no
  value; one below the least is zero.

  Main definitions:
    * `Numeral.number?` — the number that is written;
    * `Document.text?`  — the text that a string is;
    * `Layout.settle?`  — what a type sees of a document;
    * `Document.value?` — all of a document as a value.
-/
import LoggingOperator.Json.Basic
import LoggingOperator.Text.Numeral

namespace LoggingOperator.Json

/-! ## §1. Numbers -/

/-- A number as it is written. -/
structure Numeral where
  negative : Bool
  /-- The digits before the point. -/
  whole : List Nat
  /-- The digits after the point; there are none without a point. -/
  fraction : List Nat
  exponent : Option Int

namespace Numeral

/-- Append digits to a significand as long as it fits 64 bits.  The digits
    from the first one that does not fit are returned uncounted. -/
def gather (significand : Nat) : List Nat → Nat × List Nat
  | [] => (significand, [])
  | d :: ds =>
    if significand * 10 + d < 18446744073709551616 then gather (significand * 10 + d) ds
    else (significand, d :: ds)

/-- The float nearest to a power of ten. -/
def powerOfTen? (n : Nat) : Option Binary64 :=
  Binary64.ofRatio? false (Nat.pow 10 n) 1

/-- `x / 10 ^ n`, by powers of ten that are floats.  After two divisions by
    `10 ^ 308` nothing is left of any significand. -/
def scaleDown? (x : Binary64) (n : Nat) : Option Binary64 :=
  if n ≤ 308 then do x.div? (← powerOfTen? n)
  else do
    let y ← x.div? (← powerOfTen? 308)
    if n ≤ 616 then y.div? (← powerOfTen? (n - 308)) else pure (Binary64.zero x.negative)

/-- `x * 10 ^ n`; `none` if that is infinite. -/
def scaleUp? (x : Binary64) (n : Nat) : Option Binary64 :=
  if x.isZero then some x
  else if n ≤ 308 then do x.mul? (← powerOfTen? n)
  else none

/-- The float of a significand and an exponent of ten. -/
def double? (negative : Bool) (significand : Nat) (exponent : Int) : Option Number := do
  let x ← Binary64.ofRatio? negative significand 1
  let y ← if 0 ≤ exponent then scaleUp? x exponent.natAbs else scaleDown? x exponent.natAbs
  return .double y

/-- The integer of a significand, or the float if it does not fit.  There is
    no negative integer zero. -/
def integer? (negative : Bool) (significand : Nat) : Option Number :=
  if negative then
    if significand = 0 then some (.double (Binary64.zero true))
    else match Integer.ofInt? (-(significand : Int)) with
      | some n => some (.integer n)
      | none => double? true significand 0
  else (Integer.ofInt? significand).map .integer

/-- The number that is written. -/
def number? (n : Numeral) : Option Number :=
  let (significand, uncounted) := gather 0 n.whole
  if n.fraction = [] ∧ n.exponent = none then
    if uncounted = [] then integer? n.negative significand
    else double? n.negative significand uncounted.length
  else
    let (significand, ignored) := gather significand n.fraction
    let counted := n.fraction.length - ignored.length
    double? n.negative significand ((uncounted.length : Int) - counted + n.exponent.getD 0)

end Numeral

/-! ## §2. Strings -/

/-- A part of a string as it is written. -/
inductive Piece where
  /-- A character, written as itself or with a short escape. -/
  | char (c : Char)
  /-- A code unit of sixteen bits, written with its number. -/
  | unit (n : Nat)
deriving DecidableEq, Repr

namespace Piece

/-- Is the unit the first half of a surrogate pair? -/
def isHigh (unit : Nat) : Bool :=
  0xD800 ≤ unit && unit < 0xDC00

/-- Is the unit the second half of a surrogate pair? -/
def isLow (unit : Nat) : Bool :=
  0xDC00 ≤ unit && unit < 0xE000

/-- The character of a surrogate pair. -/
def paired (high low : Nat) : Char :=
  Char.ofNat (0x10000 + (high - 0xD800) * 0x400 + (low - 0xDC00))

/-- The characters of the pieces, unless half of a pair stands alone. -/
def chars? : List Piece → Option (List Char)
  | [] => some []
  | .char c :: rest => (chars? rest).map (c :: ·)
  | .unit high :: .unit low :: rest =>
    if isHigh high && isLow low then (chars? rest).map (paired high low :: ·)
    else if isHigh high || isLow high then none
    else (chars? (.unit low :: rest)).map (Char.ofNat high :: ·)
  | .unit n :: rest =>
    if isHigh n || isLow n then none else (chars? rest).map (Char.ofNat n :: ·)

/-- The text of the pieces. -/
def text? (pieces : List Piece) : Option String :=
  (chars? pieces).map String.ofList

end Piece

/-! ## §3. Documents -/

/-- The structure of a JSON text. -/
inductive Document where
  | null
  | bool (b : Bool)
  | number (n : Numeral)
  | string (pieces : List Piece)
  | array (items : List Document)
  /-- The fields in the order of the text. -/
  | object (fields : List (List Piece × Document))

instance : Inhabited Document := ⟨.null⟩

/-! ## §4. What a type sees of a document -/

/-- What a type sees of a document. -/
inductive Layout where
  /-- All of it. -/
  | whole
  /-- A list whose items have a layout. -/
  | list (item : Layout)
  /-- Some fields; any other is skipped unseen.  A field may be repeated: the
      last one counts, but an object with any one of them must be accepted. -/
  | loose (accepts : Json → Bool) (known : String → Option Layout)
  /-- Some fields, none of them twice; any other is skipped unseen.  An array
      holds the same fields without their names, in this order. -/
  | strict (fields : List (String × Layout))

namespace Layout

/-- The layout of the items of a list. -/
def item : Layout → Layout
  | .list item => item
  | _ => .whole

/-- The layout of a field, if it is seen. -/
def known? : Layout → String → Option Layout
  | .loose _ known, key => known key
  | .strict fields, key => Keyed.get? key fields
  | _, _ => some .whole

/-- May a field come before these ones? -/
def accepts : Layout → String → Json → List (String × Json) → Bool
  | .loose accepts _, key, value, _ => accepts (.ofFields [(key, value)])
  | .strict _, key, _, others => !Keyed.has key others
  | _, _, _, _ => true

mutual

/-- What is seen of a document, where arrays and objects may be nested up to
    `depth`. -/
def settle? (layout : Layout) (depth : Nat) : Document → Option Json
  | .null => some .null
  | .bool b => some (.bool b)
  | .number n => n.number?.map .number
  | .string pieces => (Piece.text? pieces).map .string
  | .array items =>
    match depth, layout with
    | 0, _ => none
    | depth + 1, .strict fields => (settlePlaces? fields depth items).map .ofFields
    | depth + 1, layout => (settleItems? layout.item depth items).map .array
  | .object fields =>
    match depth with
    | 0 => none
    | depth + 1 => (settleFields? layout depth fields).map fun seen => .ofFields seen.reverse

/-- What is seen of the items of a list. -/
def settleItems? (layout : Layout) (depth : Nat) : List Document → Option (List Json)
  | [] => some []
  | d :: rest => do return (← settle? layout depth d) :: (← settleItems? layout depth rest)

/-- What is seen of fields without names. -/
def settlePlaces? (fields : List (String × Layout)) (depth : Nat) :
    List Document → Option (List (String × Json))
  | [] => some []
  | d :: rest =>
    match fields with
    | [] => none
    | (key, layout) :: fields => do
      return (key, ← settle? layout depth d) :: (← settlePlaces? fields depth rest)

/-- The fields that are seen. -/
def settleFields? (layout : Layout) (depth : Nat) :
    List (List Piece × Document) → Option (List (String × Json))
  | [] => some []
  | (pieces, d) :: rest => do
    let key ← Piece.text? pieces
    let others ← settleFields? layout depth rest
    match layout.known? key with
    | none => return others
    | some inner =>
      let value ← settle? inner depth d
      if layout.accepts key value others then return (key, value) :: others else none

end

end Layout

namespace Document

/-- How deep arrays and objects may be nested. -/
def maxDepth : Nat := 127

/-- The value that a document is. -/
def value? (d : Document) : Option Json :=
  Layout.whole.settle? maxDepth d

/-- What a type reads from a document. -/
def readAs? {α : Type} (layout : Layout) (read : Json → Option α) (d : Document) : Option α :=
  (layout.settle? maxDepth d).bind read

end Document

end LoggingOperator.Json
