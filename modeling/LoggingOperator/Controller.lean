/-
  LoggingOperator.Controller — LOOKING AFTER ALL DECLARATIONS.

  The operator watches the declarations, in one namespace or in all, and the
  workloads and services that it made for them.  Whenever one of them changes,
  and in any case after a while, there is another pass over the declaration.
-/
import LoggingOperator.Kube.Path
import LoggingOperator.Pass.Elasticsearch
import LoggingOperator.Pass.Fluentd
import LoggingOperator.Pass.Index

namespace LoggingOperator

open Program (World)

/-! ## §1. What is watched -/

namespace DeclaredKind

/-- The kinds of generated objects whose changes call for a pass over their
    declaration. -/
def owned : DeclaredKind → List Kind
  | .elasticsearch => [.statefulSet, .service]
  | .kibana => [.deployment]
  | .fluentd => [.daemonSet]
  | .indexTemplate | .indexLifecycle => []

/-- What is watched for the declarations of a kind. -/
def watchedResources (kind : DeclaredKind) : List Resource :=
  kind.resource :: kind.owned.map Kind.resource

end DeclaredKind

/-- The collections that are watched, in order of their paths. -/
def watched (ns : Option String) : List String :=
  ((DeclaredKind.all.flatMap DeclaredKind.watchedResources).map fun r =>
    r.collection ns).mergeSort

/-! ## §2. Declarations of any kind -/

/-- A declaration of any kind. -/
inductive Declared where
  | elasticsearch (es : Elasticsearch)
  | kibana (kb : Kibana)
  | fluentd (fd : Fluentd)
  | indexTemplate (it : IndexTemplate)
  | indexLifecycle (il : IndexLifecycle)

namespace Declared

/-- The declaration of a kind that an object is. -/
def ofJson? (kind : DeclaredKind) (v : Json) : Option Declared :=
  match kind with
  | .elasticsearch => (Elasticsearch.ofJson? v).map .elasticsearch
  | .kibana => (Kibana.ofJson? v).map .kibana
  | .fluentd => (Fluentd.ofJson? v).map .fluentd
  | .indexTemplate => (IndexTemplate.ofJson? v).map .indexTemplate
  | .indexLifecycle => (IndexLifecycle.ofJson? v).map .indexLifecycle

/-- The kind of a declaration. -/
def kind : Declared → DeclaredKind
  | .elasticsearch _ => .elasticsearch
  | .kibana _ => .kibana
  | .fluentd _ => .fluentd
  | .indexTemplate _ => .indexTemplate
  | .indexLifecycle _ => .indexLifecycle

/-- The metadata of a declaration. -/
def metadata : Declared → Metadata
  | .elasticsearch d => d.metadata
  | .kibana d => d.metadata
  | .fluentd d => d.metadata
  | .indexTemplate d => d.metadata
  | .indexLifecycle d => d.metadata

/-- Is the declaration in the namespace that is looked after?  Without one, all
    are. -/
def visible (ns : Option String) (d : Declared) : Bool :=
  match ns with
  | some ns => d.metadata.ns == some ns
  | none => true

/-- Do two declarations stand for the same thing? -/
def isSame (a b : Declared) : Bool :=
  a.kind == b.kind && a.metadata.ns == b.metadata.ns && a.metadata.name == b.metadata.name

/-- The declarations that count: of several for the same thing, the last. -/
def latest : List Declared → List Declared
  | [] => []
  | d :: rest => if rest.any d.isSame then latest rest else d :: latest rest

/-- A pass over a declaration.  The answer says whether its status write lost a
    race; entries of a search cluster have no status to lose. -/
def pass (generated : String) : Declared → Pass Bool
  | .elasticsearch es =>
    (Pass.Elasticsearch.run es generated).bind fun report => .done report.statusConflict
  | .kibana kb => (Pass.Kibana.run kb).bind fun report => .done report.statusConflict
  | .fluentd fd => (Pass.Fluentd.run fd).bind fun report => .done report.statusConflict
  | .indexTemplate it => (Pass.Index.runTemplate it).bind fun _ => .done false
  | .indexLifecycle il => (Pass.Index.runLifecycle il).bind fun _ => .done false

end Declared

/-! ## §3. Passes over all of them -/

/-- The delay after a pass. -/
def Pacing.after (pacing : Pacing) : Except PassError Bool → Nat
  | .ok statusConflict => pacing.next statusConflict
  | .error e => pacing.afterError e

/-- One pass over each of these declarations, each with the password to use if
    one has to be generated.  The answer lists the delays after them. -/
def passes (pacing : Pacing) : List (Declared × String) → World → List Nat × World
  | [], w => ([], w)
  | (d, generated) :: rest, w =>
    let (result, after) := (d.pass generated).run w
    let (delays, last) := passes pacing rest after
    (pacing.after result :: delays, last)

end LoggingOperator
