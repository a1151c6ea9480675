/-
  LoggingOperator.Http.Target — WHAT CAN BE SENT AS A TARGET.

  The target of a request is a path, perhaps with a query after a question
  mark.  What follows a number sign is never sent.  Blanks, controls and a few
  other characters of ASCII cannot be sent as they are; a text with one of
  them is no target.
-/
import LoggingOperator.Http.Message

namespace LoggingOperator.Http

/-- Can the character stand in a path? -/
def isPathChar (c : Char) : Bool :=
  c == '!' || c == '"' || ('$' ≤ c && c ≤ ';') || c == '=' || ('@' ≤ c && c ≤ '_')
    || ('a' ≤ c && c ≤ '~') || '\x7f' < c

/-- Can the character stand in a query? -/
def isQueryChar (c : Char) : Bool :=
  c == '!' || ('$' ≤ c && c ≤ ';') || c == '=' || ('?' ≤ c && c ≤ '~') || '\x7f' < c

/-- The target that a text is. -/
def target? (text : String) : Option String :=
  let sent := text.toList.takeWhile (· ≠ '#')
  let path := sent.takeWhile (· ≠ '?')
  let query := (sent.dropWhile (· ≠ '?')).drop 1
  if path.all isPathChar && query.all isQueryChar then some (String.ofList sent) else none

/-- The request with this target, if it can be sent. -/
def Request.aimed? (method : Method) (path : String) (body : Option Json := none) :
    Option Request :=
  (target? path).map fun target => { method, target, body }

end LoggingOperator.Http
