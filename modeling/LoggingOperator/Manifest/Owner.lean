/-
  LoggingOperator.Manifest.Owner — WHO A GENERATED OBJECT BELONGS TO.

  Every generated object is owned by the declaration it was generated from, so
  that it is deleted together with it.  The owner has to be known: a
  declaration without a namespace, a name or a uid generates nothing.
-/
import LoggingOperator.Declaration.Basic
import LoggingOperator.Declaration.Role

namespace LoggingOperator

/-! ## §1. Errors -/

/-- Why an object cannot be generated. -/
inductive BuildError where
  /-- The declaration lacks a field of its identity. -/
  | missingIdentity (kind field : String)
  | roleNotDeclared (role : Role)
  | decode (message : String)
deriving DecidableEq, Repr

namespace BuildError

/-- The text of an error. -/
def message : BuildError → String
  | .missingIdentity kind field => s!"missing_identity: {kind} has no {field}"
  | .roleNotDeclared role => s!"role_not_declared: {role.word}"
  | .decode m => s!"decode: {m}"

end BuildError

/-! ## §2. Owners -/

/-- The identity of the declaration that objects are generated from. -/
structure Owner where
  name : String
  ns : String
  reference : OwnerReference
deriving DecidableEq

namespace Owner

/-- The owner with this metadata.  A namespace that is missing is reported
    first; a missing name counts as a missing uid. -/
def ofMetadata (kind : DeclaredKind) (m : Metadata) : Except BuildError Owner :=
  match m.ns, m.name, m.uid with
  | some ns, some name, some uid =>
    .ok {
      name
      ns
      reference := {
        apiVersion := DeclaredKind.apiVersion
        controller := some true
        kind := kind.name
        name
        uid } }
  | none, _, _ => .error (.missingIdentity kind.name "namespace")
  | some _, _, _ => .error (.missingIdentity kind.name "uid")

/-- The annotation that marks generated objects. -/
def managedKey : String := "logging.lograft.io/managed"

/-- Metadata of a generated object that is in no namespace. -/
def clusterMetadata (owner : Owner) (name : String) (labels : StringMap) : Metadata :=
  { name := some name
    labels := some labels
    annotations := some (.ofList [(managedKey, "true")])
    ownerReferences := some [owner.reference] }

/-- Metadata of a generated object in the namespace of its owner. -/
def metadata (owner : Owner) (name : String) (labels : StringMap) : Metadata :=
  { owner.clusterMetadata name labels with ns := some owner.ns }

end Owner

end LoggingOperator
