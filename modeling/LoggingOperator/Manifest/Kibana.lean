/-
  LoggingOperator.Manifest.Kibana — OBJECTS OF A DASHBOARD.

  A dashboard becomes a Deployment and a Service.  With encryption on it reads
  its credentials from the secrets of the search cluster it shows.
-/
import LoggingOperator.Declaration.Kibana
import LoggingOperator.Manifest.Assets
import LoggingOperator.Manifest.Owner
import LoggingOperator.Manifest.Pod

namespace LoggingOperator.Manifest.Kibana

/-- The port of the dashboard. -/
def port : Int32 := 5601

/-- The volume with the certificates. -/
def certificateVolume : String := "tls"

/-- Where the dashboard finds the certificates. -/
def certificatePath : String := "/usr/share/kibana/config/certs"

/-- Labels of what belongs to a dashboard; they also select its pods. -/
def labels (name : String) : StringMap :=
  .ofList [("app", name), ("service", "kibana")]

/-- Variables with the credentials, if traffic is encrypted. -/
def credentialVars (spec : KibanaSpec) : List EnvVar :=
  match spec.security with
  | some security =>
    let cluster := spec.cluster.clusterName
    if security.tls then
      [ .literal "ELASTIC_USERNAME" "elastic",
        .fromSecret "ELASTIC_PASSWORD" (security.passwordSource cluster) "password",
        .fromSecret "ELASTICSEARCH_SERVICEACCOUNTTOKEN" (Naming.tokenSecret cluster) "token",
        .literal "ELASTICSEARCH_SSL_VERIFICATIONMODE" "none"]
    else []
  | none => []

/-- The environment of a dashboard. -/
def env (kb : Kibana) : List EnvVar :=
  sortedEnv (
    [ .literal "ELASTICSEARCH_HOSTS" kb.spec.cluster.host,
      .literal "SERVER_HOST" "0.0.0.0",
      .literal "SERVER_NAME" "kibana"]
      ++ credentialVars kb.spec)

/-- The Deployment of a dashboard. -/
def deployment (kb : Kibana) : Except BuildError Deployment := do
  let owner ← Owner.ofMetadata .kibana kb.metadata
  let spec := kb.spec
  let labels := labels owner.name
  let container : Container := {
    name := "kibana"
    image := s!"docker.elastic.co/kibana/kibana:{spec.cluster.version}"
    env := some (env kb)
    ports := some [⟨"http", port⟩]
    readiness := some (scriptProbe Assets.dashboardReadiness)
    mounts := if spec.tls then some [{ name := certificateVolume, path := certificatePath }]
      else none }
  let pod : PodSpec := {
    containers := []
    volumes := if spec.tls then
        some [⟨certificateVolume, .secret (Naming.certificateSecret spec.cluster.clusterName)⟩]
      else none }
  return {
    metadata := owner.metadata owner.name labels
    replicas := spec.replicas
    selector := .ofLabels labels
    template := ⟨labels, placed pod container spec.placement⟩ }

/-- The Service of a dashboard. -/
def service (kb : Kibana) : Except BuildError Service := do
  let owner ← Owner.ofMetadata .kibana kb.metadata
  return {
    metadata := owner.metadata owner.name (labels owner.name)
    selector := labels owner.name
    ports := [⟨"http", port⟩]
    headless := false }

end LoggingOperator.Manifest.Kibana
