/-
  LoggingOperator.Kube.Path — WHERE OBJECTS ARE SERVED.

  The platform serves the objects of a kind as a collection under the group,
  the version and the plural of the kind.  The objects of one namespace are a
  collection of their own.
-/
import LoggingOperator.Declaration.Basic

namespace LoggingOperator

/-- What the platform serves under one plural. -/
structure Resource where
  group : String
  version : String
  plural : String
deriving DecidableEq, Repr

namespace Resource

/-- Where the resources of a group are; the core group has a place of its
    own. -/
def root (r : Resource) : String :=
  if r.group = "" then s!"/api/{r.version}" else s!"/apis/{r.group}/{r.version}"

/-- The collection of all objects, or of those in one namespace. -/
def collection (r : Resource) (ns : Option String) : String :=
  match ns with
  | some ns => s!"{r.root}/namespaces/{ns}/{r.plural}"
  | none => s!"{r.root}/{r.plural}"

/-- One object. -/
def object (r : Resource) (ns : Option String) (name : String) : String :=
  s!"{r.collection ns}/{name}"

end Resource

namespace Kind

/-- What the objects of a kind are served as. -/
def resource (kind : Kind) : Resource where
  group := kind.group
  version := kind.version
  plural := kind.plural

/-- Does the platform know the namespace of objects of the kind where `ns` is
    given?  Objects that live in none need none. -/
def scope (kind : Kind) (ns : Option String) : Option (Option String) :=
  if kind.namespaced then ns.map some else some none

end Kind

namespace DeclaredKind

/-- What the declarations of a kind are served as. -/
def resource (kind : DeclaredKind) : Resource where
  group := Kind.declaredGroup
  version := version
  plural := kind.plural

end DeclaredKind

end LoggingOperator
