/-
  LoggingOperator.Http.Exchange — SEQUENCES OF REQUESTS.

  What is sent may depend on the replies so far, and a reply may never come.
  An `Exchange` is such a sequence as a value, so that it can be stopped between
  any two requests and interleaved with another one.
-/
import LoggingOperator.Http.Message

namespace LoggingOperator.Http

/-- Requests, each with what follows its reply; no reply means that the
    connection was lost. -/
inductive Exchange (α : Type) : Type
  | done (value : α)
  | send (request : Request) (next : Option Reply → Exchange α)

namespace Exchange

variable {α β : Type}

/-- Go on with the value of an exchange. -/
def bind (e : Exchange α) (f : α → Exchange β) : Exchange β :=
  match e with
  | .done a => f a
  | .send request next => .send request fun reply => (next reply).bind f

/-- Change the value of an exchange. -/
def map (f : α → β) (e : Exchange α) : Exchange β :=
  e.bind fun a => .done (f a)

/-! ## §1. Running against a script -/

/-- Run an exchange against a list of replies, given out in order.  Once they
    are used up, the connection is lost.  The requests are returned as well. -/
def run : Exchange α → List Reply → α × List Request
  | .done a, _ => (a, [])
  | .send request next, [] =>
    let (a, requests) := (next none).run []
    (a, request :: requests)
  | .send request next, reply :: replies =>
    let (a, requests) := (next (some reply)).run replies
    (a, request :: requests)

/-! ## §2. Running against a server -/

/-- A server with a state of its own. -/
abbrev Server (σ : Type) := Request → σ → Option Reply × σ

/-- Run an exchange against a server. -/
def runOn {σ : Type} (server : Server σ) : Exchange α → σ → α × σ
  | .done a, s => (a, s)
  | .send request next, s =>
    let (reply, after) := server request s
    (next reply).runOn server after

end Exchange

end LoggingOperator.Http
