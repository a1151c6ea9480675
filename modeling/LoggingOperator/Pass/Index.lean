/-
  LoggingOperator.Pass.Index — PASSES OVER INDEX TEMPLATES AND LIFECYCLES.

  Index templates and lifecycle policies live inside a search cluster.  A pass
  reads the entry, and puts the declared body if the entry is missing or lacks
  something declared.  A declaration that is not enabled deletes its entry.
-/
import LoggingOperator.Convergence.Containment
import LoggingOperator.Management.Settings
import LoggingOperator.Manifest.Index
import LoggingOperator.Pass.Error

namespace LoggingOperator.Pass.Index

open Management (Call Endpoint EntryKind ManagementError flattenSettings)

/-- What was done about an entry. -/
inductive Decision where
  | create
  | update
  | skip
  | delete
deriving DecidableEq, Repr

namespace Decision

/-- The word for a decision. -/
def word : Decision → String
  | .create => "create"
  | .update => "update"
  | .skip => "skip"
  | .delete => "delete"

end Decision

/-- The cluster that a declaration is about. -/
def endpoint (address : ManagementAddress) : Endpoint where
  base := address.host
  username := address.username
  password := address.password

/-- What to do about an entry with this body, if there is one. -/
def decide (desired : Json) : Option Json → Decision
  | none => .create
  | some stored => if stored.contains desired then .skip else .update

/-- One call to the management API. -/
def call (endpoint : Endpoint) (c : Call) : Pass c.Answer :=
  (Program.callManagement endpoint c).mapError .management

/-- Bring an entry to the declared body.  Stored and declared body are compared
    after `normal`. -/
def keep (endpoint : Endpoint) (kind : EntryKind) (name : String) (normal : Json → Json)
    (desired : Json) : Pass Decision := do
  let stored ← call endpoint (.get kind name)
  match decide (normal desired) (stored.map normal) with
  | .skip => return .skip
  | decision =>
    let _ ← call endpoint (.put kind name desired)
    return decision

/-- Delete an entry. -/
def drop (endpoint : Endpoint) (kind : EntryKind) (name : String) : Pass Decision := do
  let _ ← call endpoint (.delete kind name)
  return .delete

/-- A pass over a declared index template. -/
def runTemplate (it : IndexTemplate) : Pass Decision :=
  let endpoint := endpoint it.spec.address
  if it.spec.enabled then
    keep endpoint .template it.id flattenSettings (Manifest.templateBody it.spec)
  else drop endpoint .template it.id

/-- A pass over a declared lifecycle policy. -/
def runLifecycle (il : IndexLifecycle) : Pass Decision :=
  let endpoint := endpoint il.spec.address
  if il.spec.enabled then keep endpoint .policy il.id id (Manifest.policyBody il.spec)
  else drop endpoint .policy il.id

end LoggingOperator.Pass.Index
