/-
  LoggingOperator.Convergence.Converge — BRINGING ONE OBJECT TO WHAT IS DESIRED.

  An object is brought to its desired state by one read and at most one write
  (`converge`).  Credentials and other objects that must not change once they
  exist are created when they are missing and never touched again
  (`ensureOnce`).
-/
import LoggingOperator.Convergence.Decision
import LoggingOperator.Program

namespace LoggingOperator.Convergence

/-- What was done about an object. -/
structure Outcome where
  kind : Kind
  name : String
  decision : Decision
deriving DecidableEq

/-- What the store holds, given the answer to a read: no object if there is
    none, and an error for any other failure. -/
def stored? : Except StoreError Json → Except StoreError (Option Json)
  | .ok object => .ok (some object)
  | .error e => if e.isNotFound then .ok none else .error e

/-- The write that a decision asks for. -/
def writeFor (kind : Kind) (desired : Json) (stored : Option Json) :
    Except StoreError (Option StoreCall) :=
  match decide kind desired stored, stored with
  | .create, _ => (prepareCreate desired).map fun object => some (.create kind object)
  | .update, some stored =>
    (prepareUpdate kind desired stored).map fun object => some (.update kind object)
  | _, _ => .ok none

/-- Write what a decision asks for. -/
def settle (kind : Kind) (name : String) (desired : Json) (stored : Option Json) :
    Program StoreError Outcome :=
  let outcome : Outcome := ⟨kind, name, decide kind desired stored⟩
  match writeFor kind desired stored with
  | .error e => .fail e
  | .ok none => .done outcome
  | .ok (some call) => .store call fun
    | .ok _ => .done outcome
    | .error e => .fail e

/-- Create the desired object if it is missing, update it if it differs, and
    else do nothing. -/
def converge (kind : Kind) (desired : Json) : Program StoreError Outcome :=
  match desired.name with
  | .error e => .fail e
  | .ok name => .store (.get kind name desired.namespace?) fun answer =>
    match stored? answer with
    | .error e => .fail e
    | .ok stored => settle kind name desired stored

/-- Create an object that is missing; if somebody else creates it at the same
    time, that is as good. -/
def createOnce {ε : Type} (embed : StoreError → ε) (kind : Kind) (name : String) (desired : Json) :
    Program ε Outcome :=
  match prepareCreate desired with
  | .error e => .fail (embed e)
  | .ok object => .store (.create kind object) fun
    | .ok _ => .done ⟨kind, name, .create⟩
    | .error (.alreadyExists ..) => .done ⟨kind, name, .skip⟩
    | .error e => .fail (embed e)

/-- Create the object that `build` gives, unless there is one under the name
    already.  It is built only when it is needed. -/
def ensureOnce {ε : Type} (embed : StoreError → ε) (kind : Kind) (name : String)
    (ns : Option String) (build : Program ε Json) : Program ε Outcome :=
  .store (.get kind name ns) fun answer =>
    match stored? answer with
    | .error e => .fail (embed e)
    | .ok (some _) => .done ⟨kind, name, .skip⟩
    | .ok none => build.bind (createOnce embed kind name)

end LoggingOperator.Convergence
