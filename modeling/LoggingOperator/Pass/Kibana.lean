/-
  LoggingOperator.Pass.Kibana — A PASS OVER A DASHBOARD.

  A pass brings the Deployment and the Service of a dashboard to what is
  declared and writes the status.
-/
import LoggingOperator.Convergence.Converge
import LoggingOperator.Manifest.Kibana
import LoggingOperator.Pass.Status

namespace LoggingOperator.Pass

open Convergence (Outcome converge)

/-- What a pass over a dashboard or a shipper did. -/
structure StackReport where
  outcomes : List Outcome := []
  /-- The status write lost a race. -/
  statusConflict : Bool := false
deriving DecidableEq

namespace Kibana

/-- What the status should say. -/
def status (kb : Kibana) : KibanaStatus where
  replicas := some kb.spec.replicas
  version := some kb.spec.cluster.version

/-- A pass over a declared dashboard. -/
def run (kb : Kibana) : Pass StackReport := do
  let _ ← namespaceOf .kibana kb.metadata
  let deployment ← ofBuild (Manifest.Kibana.deployment kb)
  let first ← ofStore (converge .deployment deployment.toJson)
  let service ← ofBuild (Manifest.Kibana.service kb)
  let second ← ofStore (converge .service service.toJson)
  let statusConflict ← writeStatus .kibana kb.toJson (status kb).toJson
  return { outcomes := [first, second], statusConflict }

end Kibana

end LoggingOperator.Pass
