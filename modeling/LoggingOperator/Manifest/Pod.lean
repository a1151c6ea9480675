/-
  LoggingOperator.Manifest.Pod — WHAT ALL GENERATED PODS SHARE.

  Generated objects depend on their declaration alone: the same declaration
  always gives the same object.  Variables of the environment are therefore
  sorted by name.
-/
import LoggingOperator.Declaration.Placement
import LoggingOperator.Kube.Workload

namespace LoggingOperator.Manifest

/-- Variables sorted by name. -/
def sortedEnv (vars : List EnvVar) : List EnvVar :=
  vars.mergeSort fun a b => decide (a.name ≤ b.name)

/-- A readiness check by a script. -/
def scriptProbe (script : String) : Probe where
  command := ["bash", "-c", script]
  initialDelaySeconds := 15
  periodSeconds := 15
  failureThreshold := 5
  timeoutSeconds := 5

/-- The pod with one more container, sized and placed as declared. -/
def placed (pod : PodSpec) (container : Container) : Option Placement → PodSpec
  | none => { pod with containers := [container] }
  | some placement =>
    { pod with
      containers := [{ container with resources := placement.resources }]
      affinity := placement.affinity
      tolerations := placement.tolerations
      priorityClass := placement.priorityClass
      nodeSelector := placement.nodeSelector }

theorem perm_sortedEnv (vars : List EnvVar) : (sortedEnv vars).Perm vars :=
  List.mergeSort_perm _ _

end LoggingOperator.Manifest
