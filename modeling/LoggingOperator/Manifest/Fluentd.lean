/-
  LoggingOperator.Manifest.Fluentd — OBJECTS OF A LOG SHIPPER.

  A shipper becomes a DaemonSet with its configuration, and a service account
  with the right to look at pods and namespaces in the whole cluster.  The
  objects that grant this right are in no namespace, so their name is made of
  the namespace and the name of the declaration.
-/
import LoggingOperator.Declaration.Fluentd
import LoggingOperator.Manifest.Assets
import LoggingOperator.Manifest.Owner
import LoggingOperator.Manifest.Pod

namespace LoggingOperator.Manifest.Fluentd

/-! ## §1. Configuration and identity -/

/-- The image of the shipper. -/
def image : String := "fluent/fluentd-kubernetes-daemonset:v1-debian-elasticsearch"

/-- How the lines of container logs are taken apart. -/
def logPattern : String :=
  "/^(?<time>.+) (?<stream>stdout|stderr)( (?<logtag>.))? (?<log>.*)$/"

/-- Labels of what belongs to a shipper; they also select its pods. -/
def labels (name : String) : StringMap :=
  .ofList [("app", name)]

/-- The generated configuration. -/
def configMap (fd : Fluentd) : Except BuildError ConfigMap := do
  let owner ← Owner.ofMetadata .fluentd fd.metadata
  return {
    metadata := owner.metadata owner.name (labels owner.name)
    data := .ofList [("fluent.conf", Assets.shipperConfig)] }

/-- The identity of the shipper's pods. -/
def serviceAccount (fd : Fluentd) : Except BuildError ServiceAccount := do
  let owner ← Owner.ofMetadata .fluentd fd.metadata
  return { metadata := owner.metadata owner.name (labels owner.name) }

/-! ## §2. Rights in the whole cluster -/

/-- The name of the objects that grant the shipper its rights. -/
def rightsName (fd : Fluentd) : Except BuildError String := do
  let owner ← Owner.ofMetadata .fluentd fd.metadata
  return Naming.clusterScoped owner.ns owner.name

/-- The right to look at pods and namespaces. -/
def clusterRole (fd : Fluentd) : Except BuildError ClusterRole := do
  let owner ← Owner.ofMetadata .fluentd fd.metadata
  return {
    metadata := owner.clusterMetadata (Naming.clusterScoped owner.ns owner.name)
      (labels owner.name)
    rules := [{
      groups := [""]
      resources := ["pods", "namespaces"]
      verbs := ["get", "list", "watch"] }] }

/-- Grants the right to the shipper's service account. -/
def clusterRoleBinding (fd : Fluentd) : Except BuildError ClusterRoleBinding := do
  let owner ← Owner.ofMetadata .fluentd fd.metadata
  let name := Naming.clusterScoped owner.ns owner.name
  return {
    metadata := owner.clusterMetadata name (labels owner.name)
    role := name
    accountName := owner.name
    accountNamespace := owner.ns }

/-! ## §3. The DaemonSet -/

/-- Variables with the credentials, if traffic is encrypted. -/
def credentialVars (spec : FluentdSpec) : List EnvVar :=
  match spec.security with
  | some security =>
    if security.tls then
      [ .literal "FLUENT_ELASTICSEARCH_USER" "elastic",
        .literal "FLUENT_ELASTICSEARCH_SSL_VERIFY" "false",
        .literal "FLUENT_ELASTICSEARCH_SSL_VERSION" "TLSv1_2",
        .literal "FLUENT_ELASTICSEARCH_SCHEME" "https",
        .fromSecret "FLUENT_ELASTICSEARCH_PASSWORD"
          (security.passwordSource spec.cluster.clusterName) "password"]
    else []
  | none => []

/-- The variable that splits logs over indices. -/
def splitVars (spec : FluentdSpec) : List EnvVar :=
  match spec.split with
  | some split =>
    [.literal "FLUENT_ELASTICSEARCH_LOGSTASH_PREFIX"
      ("kubernetes-$\x7brecord['kubernetes']['" ++ split.field ++ "']\x7d")]
  | none => []

/-- The environment of a shipper. -/
def env (fd : Fluentd) : List EnvVar :=
  sortedEnv (
    [ .literal "FLUENT_ELASTICSEARCH_HOST" fd.spec.cluster.host,
      .literal "FLUENT_ELASTICSEARCH_PORT" "9200",
      .literal "FLUENT_CONTAINER_TAIL_PARSER_TYPE" logPattern,
      .literal "FLUENTD_SYSTEMD_CONF" "disable"]
      ++ credentialVars fd.spec
      ++ splitVars fd.spec)

/-- The volume with further pieces of configuration. -/
def additionalVolume : String := "fluentd-additional"

/-- The volumes of a shipper: the logs of its node and its configuration. -/
def volumes (spec : FluentdSpec) (name : String) : List Volume :=
  [ ⟨"varlogs", .hostPath "/var/log"⟩,
    ⟨"varlibdockercontainers", .hostPath "/var/lib/docker/containers"⟩,
    ⟨"fluentd", .configMap (spec.customConfig.getD name)⟩]
    ++ (match spec.additionalConfig with
      | some extra => [⟨additionalVolume, .configMap extra⟩]
      | none => [])

/-- Where the volumes are mounted. -/
def mounts (spec : FluentdSpec) : List VolumeMount :=
  [ { name := "varlogs", path := "/var/log" },
    { name := "varlibdockercontainers", path := "/var/lib/docker/containers",
      readOnly := some true },
    { name := "fluentd", path := "/fluentd/etc/fluent.conf", subPath := some "fluent.conf" }]
    ++ (if spec.additionalConfig.isSome then
        [{ name := additionalVolume, path := "/fluentd/etc/conf.d/additional-config/" }]
      else [])

/-- The DaemonSet of a shipper. -/
def daemonSet (fd : Fluentd) : Except BuildError DaemonSet := do
  let owner ← Owner.ofMetadata .fluentd fd.metadata
  let spec := fd.spec
  let labels := labels owner.name
  let container : Container := {
    name := "fluentd"
    image := image
    env := some (env fd)
    mounts := some (mounts spec) }
  let pod : PodSpec := {
    containers := []
    serviceAccount := some owner.name
    volumes := some (volumes spec owner.name) }
  return {
    metadata := owner.metadata owner.name labels
    selector := .ofLabels labels
    template := ⟨labels, placed pod container spec.placement⟩ }

end LoggingOperator.Manifest.Fluentd
