/-
  LoggingOperator.Program — SEQUENCES OF CALLS.

  What the operator does is a sequence of calls, where each call depends on
  the answers to those before it.  A `Program` is such a sequence as a value:
  it says which call comes next and how to go on with every answer.  The same
  program can be run against the stores in memory (`Program.run`), stopped
  after any call, or interleaved with another one.
-/
import LoggingOperator.Management.Cluster
import LoggingOperator.Store.Basic

namespace LoggingOperator

open Management (Call Cluster Endpoint ManagementError)

/-- A sequence of calls that ends with a value or an error. -/
inductive Program (ε α : Type) : Type
  | done (value : α)
  | fail (error : ε)
  | store (call : StoreCall) (next : Except StoreError Json → Program ε α)
  | manage (endpoint : Endpoint) (call : Call)
      (next : Except ManagementError call.Answer → Program ε α)

namespace Program

variable {ε ε' α β : Type}

/-! ## §1. Putting programs together -/

/-- Go on with the value of a program. -/
def bind (p : Program ε α) (f : α → Program ε β) : Program ε β :=
  match p with
  | .done a => f a
  | .fail e => .fail e
  | .store call next => .store call fun answer => (next answer).bind f
  | .manage endpoint call next => .manage endpoint call fun answer => (next answer).bind f

instance : Monad (Program ε) where
  pure := .done
  bind := bind

/-- Go on with the error of a program. -/
def handle (p : Program ε α) (f : ε → Program ε' α) : Program ε' α :=
  match p with
  | .done a => .done a
  | .fail e => f e
  | .store call next => .store call fun answer => (next answer).handle f
  | .manage endpoint call next => .manage endpoint call fun answer => (next answer).handle f

/-- The same program with its errors renamed. -/
def mapError (f : ε → ε') (p : Program ε α) : Program ε' α :=
  p.handle fun e => .fail (f e)

/-- A value or an error without a call. -/
def ofExcept (f : ε → ε') : Except ε α → Program ε' α
  | .ok a => .done a
  | .error e => .fail (f e)

/-- One call to the object store. -/
def callStore (call : StoreCall) : Program StoreError Json :=
  .store call (ofExcept id)

/-- One call to the management API. -/
def callManagement (endpoint : Endpoint) (call : Call) : Program ManagementError call.Answer :=
  .manage endpoint call (ofExcept id)

/-! ## §2. Running programs -/

/-- An object store and a search cluster. -/
structure World where
  store : Store
  cluster : Cluster := {}

/-- Run a program to its end. -/
def run : Program ε α → World → Except ε α × World
  | .done a, w => (.ok a, w)
  | .fail e, w => (.error e, w)
  | .store call next, w =>
    let (answer, after) := w.store.answer call
    (next answer).run { w with store := after }
  | .manage endpoint call next, w =>
    let (answer, after) := w.cluster.answer endpoint call
    (next answer).run { w with cluster := after }

/-! ## §3. Laws -/

@[simp] theorem done_bind (a : α) (f : α → Program ε β) : (done a).bind f = f a := rfl

@[simp] theorem fail_bind (e : ε) (f : α → Program ε β) : (fail e).bind f = fail e := rfl

@[simp] theorem bind_done (p : Program ε α) : p.bind .done = p := by
  induction p with
  | done a => rfl
  | fail e => rfl
  | store call next ih => simp only [bind, ih]
  | manage endpoint call next ih => simp only [bind, ih]

theorem bind_assoc {γ : Type} (p : Program ε α) (f : α → Program ε β) (g : β → Program ε γ) :
    (p.bind f).bind g = p.bind fun a => (f a).bind g := by
  induction p with
  | done a => rfl
  | fail e => rfl
  | store call next ih => simp only [bind, ih]
  | manage endpoint call next ih => simp only [bind, ih]

/-- Running two programs one after the other. -/
theorem run_bind (p : Program ε α) (f : α → Program ε β) (w : World) :
    (p.bind f).run w = match p.run w with
      | (.ok a, w) => (f a).run w
      | (.error e, w) => (.error e, w) := by
  induction p generalizing w with
  | done a => rfl
  | fail e => rfl
  | store call next ih => simp only [bind, run, ih]
  | manage endpoint call next ih => simp only [bind, run, ih]

/-- Running a program and then, if it fails, going on with its error. -/
theorem run_handle (p : Program ε α) (f : ε → Program ε' α) (w : World) :
    (p.handle f).run w = match p.run w with
      | (.ok a, w) => (.ok a, w)
      | (.error e, w) => (f e).run w := by
  induction p generalizing w with
  | done a => rfl
  | fail e => rfl
  | store call next ih => simp only [handle, run, ih]
  | manage endpoint call next ih => simp only [handle, run, ih]

instance : LawfulMonad (Program ε) :=
  LawfulMonad.mk' _ (fun p => bind_done p) (fun _ _ => rfl) bind_assoc

end Program

end LoggingOperator
