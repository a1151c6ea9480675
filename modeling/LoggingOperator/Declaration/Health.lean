/-
  LoggingOperator.Declaration.Health — HEALTH OF A SEARCH CLUSTER.

  A cluster reports its health as a colour.  Green and yellow clusters answer
  requests; anything else is not ready.
-/
import LoggingOperator.Json.Record
import LoggingOperator.Text.Blank

namespace LoggingOperator

/-- Health as it is written to the status of a declaration. -/
inductive Health where
  /-- Not asked yet. -/
  | unknown
  | notReady
  | ready
deriving DecidableEq, Repr, Inhabited

namespace Health

/-- The health that a reported colour stands for. -/
def classify (colour : String) : Health :=
  let word := (Text.trim colour.toList).map Text.lowerAscii
  if word = "green".toList ∨ word = "yellow".toList then .ready else .notReady

/-- The word for a state of health. -/
def word : Health → String
  | .unknown => "Unknown"
  | .notReady => "NotReady"
  | .ready => "Ready"

/-- Every state of health. -/
def all : List Health := [.unknown, .notReady, .ready]

def toJson (h : Health) : Json :=
  .string h.word

def ofJson? (v : Json) : Option Health := do
  let word ← Json.Record.word? v
  all.find? fun h => h.word == word

theorem ofJson?_toJson (h : Health) : ofJson? h.toJson = some h := by
  cases h <;> rfl

end Health

end LoggingOperator
