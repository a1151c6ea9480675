/-
  LoggingOperator.Manifest.Elasticsearch — OBJECTS OF A SEARCH CLUSTER.

  A search cluster becomes a secret for each credential, and for each of its
  roles a StatefulSet with a routable and a headless service.
-/
import LoggingOperator.Declaration.Elasticsearch
import LoggingOperator.Manifest.Assets
import LoggingOperator.Manifest.Owner
import LoggingOperator.Manifest.Pod

namespace LoggingOperator.Manifest.Elasticsearch

/-! ## §1. Fixed parts -/

/-- The port of the management API. -/
def httpPort : Int32 := 9200

/-- The port on which the nodes talk to each other. -/
def transportPort : Int32 := 9300

/-- Where a node keeps its data. -/
def dataPath : String := "/usr/share/elasticsearch/data"

/-- Where a node finds the certificates. -/
def certificatePath : String := "/usr/share/elasticsearch/config/certs"

/-- Where a node finds its plugins. -/
def pluginPath : String := "/usr/share/elasticsearch/plugins"

/-- The volume with the certificates. -/
def certificateVolume : String := "tls-cert"

/-- The volume with the plugins. -/
def pluginVolume : String := "plugin-volume"

/-- The image of a version. -/
def image (version : String) : String :=
  s!"docker.elastic.co/elasticsearch/elasticsearch:{version}"

/-- Labels of what belongs to the whole cluster. -/
def clusterLabels (id : String) : StringMap :=
  .ofList [("app", id)]

/-- Labels of what belongs to one role; they also select its pods. -/
def roleLabels (id : String) (role : Role) : StringMap :=
  .ofList [("app", Naming.workload id role), ("role", role.word)]

/-! ## §2. Secrets -/

/-- The secret with a generated password. -/
def passwordSecret (es : Elasticsearch) (password : String) : Except BuildError Secret := do
  let owner ← Owner.ofMetadata .elasticsearch es.metadata
  return {
    metadata := owner.metadata (Naming.passwordSecret owner.name) (clusterLabels owner.name)
    key := "password"
    value := Text.Base64.bytes password }

/-- The secret with the certificates. -/
def certificateSecret (es : Elasticsearch) : Except BuildError Secret := do
  let owner ← Owner.ofMetadata .elasticsearch es.metadata
  return {
    metadata := owner.metadata (Naming.certificateSecret owner.name) (clusterLabels owner.name)
    key := Assets.certificateFile
    value := Assets.certificate }

/-- The secret with the token that was issued for the dashboard. -/
def tokenSecret (es : Elasticsearch) (token : String) : Except BuildError Secret := do
  let owner ← Owner.ofMetadata .elasticsearch es.metadata
  return {
    metadata := owner.metadata (Naming.tokenSecret owner.name) (clusterLabels owner.name)
    key := "token"
    value := Text.Base64.bytes token }

/-! ## §3. Environment -/

/-- The bounds of the heap, if both are declared; else one gigabyte. -/
def heapOptions (group : NodeGroup) : String :=
  match group.heapMax, group.heapMin with
  | some max, some min => s!"-Xmx{max} -Xms{min}"
  | _, _ => "-Xmx1g -Xms1g"

/-- Variables that make a node take its role. -/
def roleVars (id : String) (role : Role) (group : NodeGroup) : List EnvVar :=
  match role with
  | .master => [
    .literal "cluster.initial_master_nodes" (Naming.nodes id .master group.replicas),
    .literal "node.master" "true",
    .literal "node.data" "false",
    .literal "node.ingest" "false"]
  | .data => [.literal "node.roles" "data"]
  | .ingestion => [.literal "node.roles" "ingest"]
  | .client => [.literal "node.roles" ""]

/-- Variables that encrypt traffic. -/
def encryptionVars : List EnvVar :=
  let bundle := s!"{certificatePath}/{Assets.certificateFile}"
  [ .literal "xpack.security.enabled" "true",
    .literal "xpack.security.transport.ssl.enabled" "true",
    .literal "xpack.security.transport.ssl.verification_mode" "certificate",
    .literal "xpack.security.transport.ssl.keystore.path" bundle,
    .literal "xpack.security.transport.ssl.truststore.path" bundle,
    .literal "xpack.security.http.ssl.enabled" "true",
    .literal "xpack.security.http.ssl.keystore.path" bundle,
    .literal "xpack.security.http.ssl.truststore.path" bundle]

/-- The variable with the password, if there is one. -/
def passwordVars (id : String) (security : Option Security) : List EnvVar :=
  match security with
  | some security =>
    if security.hasPassword then
      [.fromSecret "ELASTIC_PASSWORD" (security.passwordSource id) "password"]
    else []
  | none => []

/-- The environment of a role's nodes. -/
def env (es : Elasticsearch) (role : Role) : Except BuildError (List EnvVar) :=
  let id := es.metadata.name.getD ""
  let spec := es.spec
  match spec.nodes? role with
  | none => .error (.roleNotDeclared role)
  | some group => .ok <| sortedEnv <|
    [ .literal "ELASTIC_USERNAME" "elastic",
      .literal "SCHEME" spec.scheme,
      .literal "ES_JAVA_OPTS" (heapOptions group),
      .literal "discovery.seed_hosts" (Naming.headless id .master),
      .literal "network.host" "0.0.0.0",
      .literal "cluster.name" spec.clusterName]
      ++ passwordVars id spec.security
      ++ roleVars id role group
      ++ (if spec.tls then encryptionVars else [])

/-! ## §4. The StatefulSet -/

/-- Raises the number of memory maps that the node's host allows. -/
def sysctlContainer (image : String) : Container where
  name := "sysctl-init"
  image := image
  command := some ["sysctl", "-w", "vm.max_map_count=262144"]
  security := some { privileged := some true, runAsUser := some 0 }

/-- Installs the plugins before a node starts. -/
def pluginContainer (image : String) (plugins : List String) : Container where
  name := "plugins"
  image := image
  command := some ["sh", "-c",
    "bin/elasticsearch-plugin install --batch " ++ " ".intercalate plugins]
  mounts := some [{ name := pluginVolume, path := pluginPath }]

/-- What the main container of a role mounts. -/
def mounts (spec : ElasticsearchSpec) (name : String) : List VolumeMount :=
  { name := name, path := dataPath }
    :: (if spec.tls then [{ name := certificateVolume, path := certificatePath }] else [])
    ++ (if spec.plugins.isEmpty then [] else [{ name := pluginVolume, path := pluginPath }])

/-- The volumes of a role's pods.  The data is on a claimed disk or else in an
    empty directory. -/
def volumes (spec : ElasticsearchSpec) (id name : String) (storage : Option Storage) :
    List Volume :=
  (if spec.tls then [⟨certificateVolume, .secret (Naming.certificateSecret id)⟩] else [])
    ++ (if spec.plugins.isEmpty then [] else [⟨pluginVolume, .emptyDir⟩])
    ++ (if storage.isSome then [] else [⟨name, .emptyDir⟩])

/-- The disk of each pod of a role. -/
def claim (name : String) (storage : Storage) : VolumeClaim where
  name := name
  accessModes := storage.accessModes
  storageClass := storage.storageClass
  size := storage.size

/-- The containers that run before a node starts. -/
def initContainers (spec : ElasticsearchSpec) : List Container :=
  sysctlContainer (image spec.version)
    :: (if spec.plugins.isEmpty then [] else [pluginContainer (image spec.version) spec.plugins])

/-- The list, if it has items. -/
def someUnlessEmpty {α : Type} (items : List α) : Option (List α) :=
  if items.isEmpty then none else some items

/-- The StatefulSet of a role. -/
def statefulSet (es : Elasticsearch) (role : Role) : Except BuildError StatefulSet := do
  let owner ← Owner.ofMetadata .elasticsearch es.metadata
  let spec := es.spec
  match spec.nodes? role with
  | none => .error (.roleNotDeclared role)
  | some group =>
    let vars ← env es role
    let name := Naming.workload owner.name role
    let labels := roleLabels owner.name role
    let container : Container := {
      name := "elastic"
      image := image spec.version
      env := some vars
      envFrom := group.customConfig.map fun configMap => [configMap]
      ports := some [⟨"http", httpPort⟩, ⟨"transport", transportPort⟩]
      mounts := some (mounts spec name)
      readiness := some (scriptProbe Assets.searchReadiness) }
    let pod : PodSpec := {
      containers := []
      initContainers := some (initContainers spec)
      security := some { fsGroup := some 1000, runAsUser := some 1000 }
      enableServiceLinks := some true
      volumes := someUnlessEmpty (volumes spec owner.name name group.storage) }
    return {
      metadata := owner.metadata name labels
      replicas := group.replicas
      serviceName := name
      selector := .ofLabels labels
      podManagement := "Parallel"
      updates := "RollingUpdate"
      template := ⟨labels, placed pod container group.placement⟩
      claims := group.storage.map fun storage => [claim name storage] }

/-! ## §5. Services -/

/-- The ports of a search node. -/
def servicePorts : List ServicePort :=
  [⟨"http", httpPort⟩, ⟨"transport", transportPort⟩]

/-- The routable and the headless service of a role. -/
def services (es : Elasticsearch) (role : Role) : Except BuildError (Service × Service) := do
  let owner ← Owner.ofMetadata .elasticsearch es.metadata
  let labels := roleLabels owner.name role
  let service (name : String) (headless : Bool) : Service :=
    { metadata := owner.metadata name labels, selector := labels, ports := servicePorts, headless }
  return (service (Naming.workload owner.name role) false,
    service (Naming.headless owner.name role) true)

end LoggingOperator.Manifest.Elasticsearch
