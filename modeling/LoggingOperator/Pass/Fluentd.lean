/-
  LoggingOperator.Pass.Fluentd — A PASS OVER A LOG SHIPPER.

  A pass brings the objects of a shipper to what is declared.  The objects that
  grant its rights are created once.  The status says on how many nodes the
  platform wants to run it.
-/
import LoggingOperator.Manifest.Fluentd
import LoggingOperator.Pass.Kibana

namespace LoggingOperator.Pass.Fluentd

open Convergence (Outcome converge ensureOnce)

/-- On how many nodes the stored DaemonSet should run. -/
def scheduled? (stored : Json) : Option Int32 :=
  (stored.at? ["status", "desiredNumberScheduled"]).bind Json.Record.int32?

/-- A pass over a declared shipper. -/
def run (fd : Fluentd) : Pass StackReport := do
  let ns ← namespaceOf .fluentd fd.metadata
  let config ← ofBuild (Manifest.Fluentd.configMap fd)
  let first ← ofStore (converge .configMap config.toJson)
  let account ← ofBuild (Manifest.Fluentd.serviceAccount fd)
  let second ← ofStore (converge .serviceAccount account.toJson)
  let rights ← ofBuild (Manifest.Fluentd.rightsName fd)
  let third ← ensureOnce .store .clusterRole rights none
    (ofBuild ((Manifest.Fluentd.clusterRole fd).map ClusterRole.toJson))
  let fourth ← ensureOnce .store .clusterRoleBinding rights none
    (ofBuild ((Manifest.Fluentd.clusterRoleBinding fd).map ClusterRoleBinding.toJson))
  let workload ← ofBuild (Manifest.Fluentd.daemonSet fd)
  let fifth ← ofStore (converge .daemonSet workload.toJson)
  let stored ← ofStore (.callStore (.get .daemonSet fd.id (some ns)))
  let status : FluentdStatus := { totalAgents := scheduled? stored }
  let statusConflict ← writeStatus .fluentd fd.toJson status.toJson
  return { outcomes := [first, second, third, fourth, fifth], statusConflict }

end LoggingOperator.Pass.Fluentd
