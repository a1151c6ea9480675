/-
  LoggingOperator.Declaration.Basic — DECLARATIONS.

  A declaration is an object that a user writes to say what should exist: its
  metadata, a spec that only users change, and for some kinds a status that
  only the operator changes.
-/
import LoggingOperator.Kube.Kind
import LoggingOperator.Kube.Metadata

namespace LoggingOperator

open Json Json.Record

/-! ## §1. Declared kinds -/

/-- A kind that users declare. -/
inductive DeclaredKind where
  | elasticsearch
  | kibana
  | fluentd
  | indexTemplate
  | indexLifecycle
deriving DecidableEq, Repr, Inhabited

namespace DeclaredKind

/-- Every declared kind, in the order of their definitions. -/
def all : List DeclaredKind :=
  [.elasticsearch, .kibana, .fluentd, .indexTemplate, .indexLifecycle]

/-- The name of the kind. -/
def name : DeclaredKind → String
  | .elasticsearch => "Elasticsearch"
  | .kibana => "Kibana"
  | .fluentd => "Fluentd"
  | .indexTemplate => "IndexTemplate"
  | .indexLifecycle => "IndexLifecycle"

/-- The collection that holds the declarations of the kind. -/
def plural : DeclaredKind → String
  | .elasticsearch => "elasticsearches"
  | .kibana => "kibanas"
  | .fluentd => "fluentds"
  | .indexTemplate => "indextemplates"
  | .indexLifecycle => "indexlifecycles"

/-- The kind with this name. -/
def ofName? (name : String) : Option DeclaredKind :=
  all.find? fun kind => kind.name == name

/-- The version of the group of declared kinds. -/
def version : String := "v1beta1"

/-- Group and version as written in a declaration. -/
def apiVersion : String :=
  s!"{Kind.declaredGroup}/{version}"

theorem ofName?_name (kind : DeclaredKind) : ofName? kind.name = some kind := by
  cases kind <;> rfl

end DeclaredKind

/-! ## §2. Declarations -/

/-- An object that says what should exist, and what the operator made of it. -/
structure Declaration (Spec Status : Type) where
  metadata : Metadata
  spec : Spec
  status : Option Status := none
deriving DecidableEq

namespace Declaration

variable {Spec Status : Type}

/-- A declaration as an object of its kind. -/
def toJson (kind : DeclaredKind) (writeSpec : Spec → Json) (writeStatus : Status → Json)
    (d : Declaration Spec Status) : Json :=
  .ofFields
    (always "apiVersion" (.string DeclaredKind.apiVersion)
      ++ always "kind" (.string kind.name)
      ++ always "metadata" d.metadata.toJson
      ++ always "spec" (writeSpec d.spec)
      ++ ifSome "status" writeStatus d.status)

/-- The declaration that an object is; what it says of its kind is not looked
    at.  The status is read from the whole object, by `withStatus` or by
    `withoutStatus`. -/
def ofJson? (readSpec : Json → Option Spec) (readStatus : Json → Option (Option Status))
    (v : Json) : Option (Declaration Spec Status) := do
  let v ← object? v
  return {
    metadata := ← required v "metadata" Metadata.ofJson?
    spec := ← required v "spec" readSpec
    status := ← readStatus v }

/-- The status of a kind that has one. -/
def withStatus (read : Json → Option Status) (v : Json) : Option (Option Status) :=
  optional v "status" read

/-- The status of a kind that has none: whatever is there is ignored. -/
def withoutStatus (_ : Json) : Option (Option Status) :=
  some none

/-- The name of a declaration. -/
def id (d : Declaration Spec Status) : String :=
  d.metadata.anyName

end Declaration

end LoggingOperator
