/-
  LoggingOperator.Pass.Plan — THE STEPS OF SETTING UP A SEARCH CLUSTER.

  Which steps a pass over a search cluster takes, and in which order, depends
  on the declaration alone.
-/
import LoggingOperator.Declaration.Elasticsearch

namespace LoggingOperator

/-- A step of a pass over a search cluster. -/
inductive Step where
  /-- Create the secrets that are declared. -/
  | securitySetup (tls password : Bool)
  /-- Bring the workload and the services of a role to what is declared. -/
  | roleReady (role : Role)
  | healthProbe
  /-- Issue the token of the dashboard. -/
  | tokenIssue
  | statusWritten
deriving DecidableEq, Repr

namespace Step

/-- The word for a step. -/
def word : Step → String
  | .securitySetup .. => "security_setup"
  | .roleReady r => s!"{r.word}_ready"
  | .healthProbe => "health_probe"
  | .tokenIssue => "service_integration_credential"
  | .statusWritten => "status_written"

end Step

namespace ElasticsearchSpec

/-- The step that creates secrets, if there are any to create. -/
def securitySteps (spec : ElasticsearchSpec) : List Step :=
  match spec.security with
  | some security =>
    if security.tls || security.needsPassword then
      [.securitySetup security.tls security.needsPassword]
    else []
  | none => []

/-- The token that is to be issued. -/
def integration? (spec : ElasticsearchSpec) : Option ServiceIntegration :=
  spec.security.bind fun security => security.integration

/-- The steps of a pass, in order. -/
def plan (spec : ElasticsearchSpec) : List Step :=
  spec.securitySteps
    ++ spec.roles.map Step.roleReady
    ++ .healthProbe :: (if spec.integration?.isSome then [.tokenIssue] else [])
    ++ [.statusWritten]

end ElasticsearchSpec

end LoggingOperator
