/-
  LoggingOperator.Text.Quoted — TEXT SHOWN IN A MESSAGE.

  A message that repeats a text it was given shows it in quotes, so that its
  ends and its control characters can be seen: quotes and backslashes are
  escaped, the common controls have short names, and any other character that
  would not be seen by itself is shown by its number.
-/
import LoggingOperator.Text.Hidden

namespace LoggingOperator.Text

/-- One character of a shown text. -/
def shownChar (c : Char) : List Char :=
  match c with
  | '"' => ['\\', '"']
  | '\\' => ['\\', '\\']
  | '\t' => ['\\', 't']
  | '\n' => ['\\', 'n']
  | '\r' => ['\\', 'r']
  | '\x00' => ['\\', '0']
  | c =>
    if isHidden c then ['\\', 'u', '\x7b'] ++ Nat.toDigits 16 c.toNat ++ ['\x7d'] else [c]

/-- The text in quotes, as it is shown in messages. -/
def shown (s : String) : String :=
  String.ofList ('"' :: (s.toList.flatMap shownChar ++ ['"']))

end LoggingOperator.Text
