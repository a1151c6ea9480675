/-
  LoggingOperator.Kube.Object — THE IDENTITY OF AN OBJECT.

  Whatever its kind, an object is found by the name and the namespace in its
  metadata, and its version by the resource version there.
-/
import LoggingOperator.Json.Basic
import LoggingOperator.Kube.Kind

namespace LoggingOperator

/-- What can go wrong with a call to the object store. -/
inductive StoreError where
  | notFound (kind : Kind) (name : String)
  | alreadyExists (kind : Kind) (name : String)
  /-- The object was written since it was read. -/
  | conflict (message : String)
  | transport (message : String)
  | api (code : UInt16) (message : String)
  /-- The object cannot be sent as it is. -/
  | invalid (message : String)
  | encode (message : String)
deriving DecidableEq, Repr

namespace StoreError

/-- The text of an error. -/
def message : StoreError → String
  | .notFound kind name => s!"not_found: {kind.name} {name}"
  | .alreadyExists kind name => s!"already_exists: {kind.name} {name}"
  | .conflict m => s!"conflict: {m}"
  | .transport m => s!"transport: {m}"
  | .api code m => s!"api {code.toNat}: {m}"
  | .invalid m => s!"validation: {m}"
  | .encode m => s!"encode: {m}"

/-- There is no such object. -/
def isNotFound : StoreError → Bool
  | .notFound .. => true
  | _ => false

/-- The write lost a race. -/
def isConflict : StoreError → Bool
  | .conflict _ => true
  | _ => false

end StoreError

namespace Json

/-- A string field of the object's metadata. -/
def metaString? (field : String) (object : Json) : Option String :=
  ((object.get? "metadata").bind (get? field)).bind string?

/-- The object's namespace. -/
def namespace? (object : Json) : Option String :=
  object.metaString? "namespace"

/-- The object's name; an object without one cannot be stored. -/
def name (object : Json) : Except StoreError String :=
  match object.metaString? "name" with
  | some name => .ok name
  | none => .error (.invalid "object missing metadata.name")

end Json

end LoggingOperator
