/-
  LoggingOperator.Text.Numeral — DECIMAL NUMERALS.

  Ports, exponents of quantities, flags of the command line and the parts of a
  timestamp are decimal numerals of ASCII digits.  A numeral has one digit or
  more; leading zeros are allowed.
-/

namespace LoggingOperator.Text

/-- The value of an ASCII decimal digit. -/
def digit? (c : Char) : Option Nat :=
  if '0' ≤ c ∧ c ≤ '9' then some (c.toNat - '0'.toNat) else none

/-- Is the character an ASCII decimal digit? -/
def isDigit (c : Char) : Bool :=
  (digit? c).isSome

/-- The natural number with these digits, most significant first. -/
def numeral (digits : List Nat) : Nat :=
  digits.foldl (fun n d => n * 10 + d) 0

/-- A decimal numeral: one digit or more and nothing else. -/
def natural? (cs : List Char) : Option Nat :=
  if cs.isEmpty then none else (cs.mapM digit?).map numeral

/-- A decimal numeral with an optional sign. -/
def integer? : List Char → Option Int
  | '-' :: cs => (natural? cs).map fun n => -(n : Int)
  | '+' :: cs => (natural? cs).map fun n => (n : Int)
  | cs => (natural? cs).map fun n => (n : Int)

/-- The digits at the front of a text, and what follows them. -/
def spanDigits : List Char → List Nat × List Char
  | [] => ([], [])
  | c :: cs =>
    match digit? c with
    | some d => let (ds, rest) := spanDigits cs; (d :: ds, rest)
    | none => ([], c :: cs)

/-- The decimal numeral of a natural number. -/
def decimal (n : Nat) : List Char :=
  Nat.toDigits 10 n

/-- The decimal numeral of a natural number with at least `width` digits. -/
def padded (width n : Nat) : List Char :=
  let digits := decimal n
  List.replicate (width - digits.length) '0' ++ digits

/-- The decimal numeral of an integer, with a minus sign below zero. -/
def signed (n : Int) : List Char :=
  if n < 0 then '-' :: decimal n.natAbs else decimal n.natAbs

end LoggingOperator.Text
