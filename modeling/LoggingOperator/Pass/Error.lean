/-
  LoggingOperator.Pass.Error — WHY A PASS FAILS, AND WHEN THE NEXT ONE IS.

  A pass over a declaration stops at the first error.  Whatever happened, the
  declaration is looked at again after a while.
-/
import LoggingOperator.Manifest.Owner
import LoggingOperator.Program

namespace LoggingOperator

open Management (ManagementError)

/-! ## §1. Errors -/

/-- Why a pass stops. -/
inductive PassError where
  | store (error : StoreError)
  | build (error : BuildError)
  | management (error : ManagementError)
  | encode (message : String)
  /-- The declaration is in no namespace. -/
  | missingNamespace (declaration : String)
deriving DecidableEq, Repr

namespace PassError

/-- The text of an error. -/
def message : PassError → String
  | .store e => e.message
  | .build e => e.message
  | .management e => e.message
  | .encode m => s!"encode: {m}"
  | .missingNamespace d => s!"missing_namespace: {d}"

/-- The label under which errors of this sort are counted. -/
def label : PassError → String
  | .store (.conflict _) => "store_conflict"
  | .store (.transport _) => "store_transport"
  | .store _ => "store"
  | .build _ => "build"
  | .management _ => "elastic"
  | .encode _ => "encode"
  | .missingNamespace _ => "missing_namespace"

end PassError

/-- A pass: calls that end with a report or an error. -/
abbrev Pass (α : Type) := Program PassError α

namespace Pass

variable {α : Type}

/-- A part of a pass that talks to the object store alone. -/
def ofStore (p : Program StoreError α) : Pass α :=
  p.mapError .store

/-- What a builder gives. -/
def ofBuild (r : Except BuildError α) : Pass α :=
  .ofExcept .build r

/-- The namespace of a declaration, without which there is no pass. -/
def namespaceOf (kind : DeclaredKind) (m : Metadata) : Pass String :=
  match m.ns with
  | some ns => .done ns
  | none => .fail (.missingNamespace s!"{kind.name}/{m.anyName}")

end Pass

/-! ## §2. Pacing -/

/-- How many seconds pass before a declaration is looked at again. -/
structure Pacing where
  /-- After a pass, failed or not. -/
  regular : Nat := 10
  /-- After a pass whose status write lost a race. -/
  afterConflict : Nat := 1
deriving DecidableEq, Repr

namespace Pacing

/-- The delay after a pass that came to its end. -/
def next (pacing : Pacing) (statusConflict : Bool) : Nat :=
  if statusConflict then pacing.afterConflict else pacing.regular

/-- The delay after a pass that failed: the regular one, never a tight loop. -/
def afterError (pacing : Pacing) (_ : PassError) : Nat :=
  pacing.regular

end Pacing

end LoggingOperator
