/-
  LoggingOperator.Pass.Elasticsearch — A PASS OVER A SEARCH CLUSTER.

  A pass takes the steps of the plan in order.  It stops at the first error of
  the object store.  Errors of the management API never stop it: a cluster that
  cannot be asked is not ready, and a token that cannot be issued is left to
  the next pass, so that the status is written all the same.  Every step does
  nothing where its work is done already, so a pass that failed is simply run
  again from the start.

  Main definitions:
    * `endpoint` — where the cluster is and how to log in;
    * `issueToken` — a token whose value is known, at the cost of a token that
      is there already;
    * `run` — the pass.
-/
import LoggingOperator.Convergence.Converge
import LoggingOperator.Manifest.Elasticsearch
import LoggingOperator.Pass.Plan
import LoggingOperator.Pass.Status

namespace LoggingOperator.Pass.Elasticsearch

open Convergence (Outcome converge ensureOnce)
open Management (Call Endpoint HealthReport ManagementError ServiceToken TokenId)

/-! ## §1. The report -/

/-- What a pass did. -/
structure Report where
  steps : List Step := []
  outcomes : List Outcome := []
  health : Health := .unknown
  activeShards : Option Int32 := none
  /-- The status write lost a race. -/
  statusConflict : Bool := false
deriving DecidableEq

/-- What is known in the middle of a pass. -/
structure Progress where
  report : Report := {}
  /-- The cluster, once the probe has found how to reach it. -/
  endpoint : Option Endpoint := none
deriving DecidableEq

namespace Progress

/-- Note that a step was started. -/
def started (p : Progress) (step : Step) : Progress :=
  { p with report := { p.report with steps := p.report.steps ++ [step] } }

/-- Note what was done about objects. -/
def did (p : Progress) (outcomes : List Outcome) : Progress :=
  { p with report := { p.report with outcomes := p.report.outcomes ++ outcomes } }

end Progress

/-! ## §2. Secrets and workloads -/

/-- Create a secret once. -/
def ensureSecret (name ns : String) (build : Pass Json) : Pass Outcome :=
  ensureOnce .store .secret name (some ns) build

/-- Create the declared secrets once, the password first. -/
def setUpSecurity (es : Elasticsearch) (ns generated : String) (tls password : Bool) :
    Pass (List Outcome) := do
  let id := es.id
  let passwords ← if password then do
      let secret := (Manifest.Elasticsearch.passwordSecret es generated).map Secret.toJson
      let outcome ← ensureSecret (Naming.passwordSecret id) ns (ofBuild secret)
      pure [outcome]
    else pure []
  let certificates ← if tls then do
      let secret := (Manifest.Elasticsearch.certificateSecret es).map Secret.toJson
      let outcome ← ensureSecret (Naming.certificateSecret id) ns (ofBuild secret)
      pure [outcome]
    else pure []
  return passwords ++ certificates

/-- Bring a role to what is declared: the workload, then its services. -/
def setUpRole (es : Elasticsearch) (role : Role) : Pass (List Outcome) := do
  let workload ← ofBuild (Manifest.Elasticsearch.statefulSet es role)
  let first ← ofStore (converge .statefulSet workload.toJson)
  let (routable, headless) ← ofBuild (Manifest.Elasticsearch.services es role)
  let second ← ofStore (converge .service routable.toJson)
  let third ← ofStore (converge .service headless.toJson)
  return [first, second, third]

/-! ## §3. Health -/

/-- The address of the cluster. -/
def baseUrl (es : Elasticsearch) (ns : String) : String :=
  s!"{es.spec.scheme}://{Naming.workload es.id .master}.{ns}:{Manifest.Elasticsearch.httpPort}"

/-- Where the cluster is and how to log in; nothing if the password cannot be
    read. -/
def endpoint (es : Elasticsearch) (ns : String) : Pass (Option Endpoint) :=
  let bare : Endpoint := { base := baseUrl es ns }
  match es.spec.security.filter Security.hasPassword with
  | none => .done (some bare)
  | some security => .store (.get .secret (security.passwordSource es.id) (some ns)) fun
    | .error _ => .done none
    | .ok stored => .done ((Secret.text? "password" stored).map fun password =>
        { bare with username := some "elastic", password := some password })

/-- A count that fits 32 bits. -/
def count? (n : Int64) : Option Int32 :=
  if -2147483648 ≤ n.toInt ∧ n.toInt < 2147483648 then some (Int32.ofInt n.toInt) else none

/-- Health and shards as they are reported. -/
def ofReport (r : HealthReport) : Health × Option Int32 :=
  (.classify r.colour, count? r.activeShards)

/-- Ask the cluster for its health.  A cluster that cannot be asked is not
    ready. -/
def probe : Option Endpoint → Pass (Health × Option Int32)
  | none => .done (.notReady, none)
  | some endpoint => .manage endpoint .health fun
    | .ok report => .done (ofReport report)
    | .error _ => .done (.notReady, none)

/-! ## §4. The token of the dashboard -/

/-- The token that a declaration asks for. -/
def tokenId (integration : ServiceIntegration) : TokenId where
  account := TokenId.operatorAccount
  service := integration.service
  name := integration.tokenName

/-- Issue a token.  The value of a token is told only once, so a token that is
    there already without its secret is deleted and issued again. -/
def issueToken (endpoint : Endpoint) (token : TokenId) : Pass ServiceToken :=
  let create := Program.callManagement endpoint (.createToken token)
  .manage endpoint (.createToken token) fun
    | .ok issued => .done issued
    | .error e =>
      if e.isConflict then
        ((Program.callManagement endpoint (.deleteToken token)).bind fun _ => create).mapError
          .management
      else .fail (.management e)

/-- Issue the token and keep it in a secret, unless there is one. -/
def ensureToken (es : Elasticsearch) (ns : String) (endpoint : Endpoint)
    (integration : ServiceIntegration) : Pass Outcome :=
  ensureSecret (Naming.tokenSecret es.id) ns do
    let issued ← issueToken endpoint (tokenId integration)
    ofBuild ((Manifest.Elasticsearch.tokenSecret es issued.value).map Secret.toJson)

/-- Errors of the management API are left to the next pass. -/
def forgiveManagement (p : Pass Outcome) : Pass (List Outcome) :=
  (p.bind fun outcome => .done [outcome]).handle fun
    | .management _ => .done []
    | e => .fail e

/-- The token step: it waits for the cluster to be ready. -/
def setUpToken (es : Elasticsearch) (ns : String) (p : Progress) : Pass (List Outcome) :=
  match p.report.health, p.endpoint, es.spec.integration? with
  | .ready, some endpoint, some integration =>
    forgiveManagement (ensureToken es ns endpoint integration)
  | _, _, _ => .done []

/-! ## §5. The status -/

/-- What the status should say: the declared version and sizes, and the health
    that this pass found. -/
def status (es : Elasticsearch) (report : Report) : ElasticsearchStatus :=
  let found : ElasticsearchStatus := {
    version := some es.spec.version
    health := report.health
    activeShards := report.activeShards }
  Role.all.foldl (fun status role =>
    match es.spec.nodes? role with
    | some group => status.withCount role group.replicas
    | none => status) found

/-! ## §6. The pass -/

/-- One step of a pass. -/
def takeStep (es : Elasticsearch) (ns generated : String) (step : Step) (p : Progress) :
    Pass Progress :=
  match step with
  | .securitySetup tls password => do
    let outcomes ← setUpSecurity es ns generated tls password
    return p.did outcomes
  | .roleReady role => do
    let outcomes ← setUpRole es role
    return p.did outcomes
  | .healthProbe => do
    let found ← endpoint es ns
    let (health, activeShards) ← probe found
    return { report := { p.report with health, activeShards }, endpoint := found }
  | .tokenIssue => do
    let outcomes ← setUpToken es ns p
    return p.did outcomes
  | .statusWritten => do
    let statusConflict ← writeStatus .elasticsearch es.toJson (status es p.report).toJson
    return { p with report := { p.report with statusConflict } }

/-- The steps of a pass, one after the other. -/
def takeSteps (es : Elasticsearch) (ns generated : String) : List Step → Progress → Pass Progress
  | [], p => .done p
  | step :: rest, p => do
    let p ← takeStep es ns generated step (p.started step)
    takeSteps es ns generated rest p

/-- A pass over a declared search cluster.  `generated` is the password to use
    if one has to be generated. -/
def run (es : Elasticsearch) (generated : String) : Pass Report := do
  let ns ← namespaceOf .elasticsearch es.metadata
  let p ← takeSteps es ns generated es.spec.plan {}
  return p.report

end LoggingOperator.Pass.Elasticsearch
