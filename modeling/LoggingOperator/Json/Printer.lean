/-
  LoggingOperator.Json.Printer — THE COMPACT TEXT OF A VALUE.

  Values are written without blanks, objects in key order.  Inside a string
  only the quote, the backslash and the characters below the blank are
  escaped, with the short form where there is one.  This text is what the
  last-applied annotation holds, so two values with one text are the same
  value to every later pass.
-/
import LoggingOperator.Decimal.Shortest
import LoggingOperator.Json.Basic
import LoggingOperator.Text.Numeral

namespace LoggingOperator

/-- The text of a number. -/
def Number.text : Number → List Char
  | .integer n => LoggingOperator.Text.signed n.val
  | .double x => x.text

namespace Json

/-! ## §1. Strings -/

/-- A lower-case hexadecimal digit. -/
def hexDigit (n : Nat) : Char :=
  Nat.digitChar n

/-- One character inside a quoted string. -/
def escaped (c : Char) : List Char :=
  match c with
  | '"' => ['\\', '"']
  | '\\' => ['\\', '\\']
  | '\n' => ['\\', 'n']
  | '\r' => ['\\', 'r']
  | '\t' => ['\\', 't']
  | '\x08' => ['\\', 'b']
  | '\x0c' => ['\\', 'f']
  | c =>
    if c.toNat < 32 then ['\\', 'u', '0', '0', hexDigit (c.toNat / 16), hexDigit (c.toNat % 16)]
    else [c]

/-- A quoted string. -/
def quoted (s : String) : List Char :=
  '"' :: (s.toList.flatMap escaped ++ ['"'])

/-! ## §2. Values -/

mutual

/-- The compact text of a value. -/
def render : Json → List Char
  | .null => ['n', 'u', 'l', 'l']
  | .bool true => ['t', 'r', 'u', 'e']
  | .bool false => ['f', 'a', 'l', 's', 'e']
  | .number n => n.text
  | .string s => quoted s
  | .array [] => ['[', ']']
  | .array (x :: xs) => '[' :: (render x ++ renderItems xs)
  | .object [] => ['\x7b', '\x7d']
  | .object ((k, v) :: rest) => '\x7b' :: (quoted k ++ ':' :: (render v ++ renderFields rest))

/-- The items after the first one, and the closing bracket. -/
def renderItems : List Json → List Char
  | [] => [']']
  | x :: xs => ',' :: (render x ++ renderItems xs)

/-- The fields after the first one, and the closing brace. -/
def renderFields : List (String × Json) → List Char
  | [] => ['\x7d']
  | (k, v) :: rest => ',' :: (quoted k ++ ':' :: (render v ++ renderFields rest))

end

/-- The compact text of a value, as a string. -/
def text (v : Json) : String :=
  String.ofList v.render

end Json

end LoggingOperator
