/-
  LoggingOperator.Kube.Answer — WHAT THE PLATFORM ANSWERS.

  A reply of the platform is a document or a refusal.  A refusal says why in a
  document of its own; where it does not, the status of the reply and its text
  take the place of that document.
-/
import LoggingOperator.Http.Message
import LoggingOperator.Json.Reader
import LoggingOperator.Json.Record
import LoggingOperator.Text.Quoted

namespace LoggingOperator.Kube

open Json Json.Record

/-! ## §1. Refusals -/

/-- Why the platform refused a request. -/
structure Refusal where
  code : UInt16
  reason : String := ""
  message : String := ""
deriving DecidableEq, Repr

namespace Refusal

/-- An unsigned 16-bit integer. -/
def code? (v : Json) : Option UInt16 :=
  match v.integer? with
  | some n => if 0 ≤ n ∧ n < 65536 then some n.toNat.toUInt16 else none
  | none => none

/-- A refusal as a document: it has to have a status and a code. -/
def ofJson? (v : Json) : Option Refusal := do
  let v ← object? v
  let _ ← required v "status" string?
  return {
    code := ← required v "code" code?
    reason := ← defaulted v "reason" "" string?
    message := ← defaulted v "message" "" string? }

def layout : Layout :=
  .strict [("status", .whole), ("message", .whole), ("reason", .whole), ("code", .whole)]

/-- The refusal that a reply is. -/
def ofReply (reply : Http.Reply) : Refusal :=
  ((Document.ofText? reply.body).bind (Document.readAs? layout ofJson?)).getD
    ⟨reply.status, "Failed to parse error data", Text.shown reply.body⟩

end Refusal

/-! ## §2. Answers -/

/-- How a request can fail. -/
inductive Failure where
  /-- No reply came, or no request could be sent. -/
  | lost
  | refused (refusal : Refusal)
  /-- The document is not of the expected form. -/
  | unreadable
deriving DecidableEq, Repr

namespace Failure

/-- The text of a failure. -/
def message : Failure → String
  | .lost => "no reply"
  | .refused r => s!"{r.message}: {r.reason}"
  | .unreadable => "the reply cannot be read"

end Failure

variable {α : Type}

/-- What is read from the document in a reply. -/
def answer (read : Document → Option α) : Option Http.Reply → Except Failure α
  | none => .error .lost
  | some reply =>
    if reply.isFailure then .error (.refused (.ofReply reply))
    else
      match (Document.ofText? reply.body).bind read with
      | some a => .ok a
      | none => .error .unreadable

end LoggingOperator.Kube
