/-
  LoggingOperator.Declaration.Schema — SCHEMAS AND DEFINITIONS OF DECLARED KINDS.

  The platform checks declarations against a schema, which it learns from the
  definition of the kind.  A schema is a `Shape`; the schema of a record lists
  its properties, each with what becomes of it when it is absent (`Presence`).

  Main statements:
    * `Shape.render`               — a shape as an OpenAPI schema;
    * `DeclaredKind.definition`    — the definition of a declared kind;
    * `definitions`                — all definitions as one stream of documents.
-/
import LoggingOperator.Declaration.Elasticsearch
import LoggingOperator.Declaration.Fluentd
import LoggingOperator.Declaration.Index
import LoggingOperator.Declaration.Kibana
import LoggingOperator.Json.Printer

namespace LoggingOperator

/-! ## §1. Shapes -/

namespace Schema

/-- What an absent property means. -/
inductive Presence where
  /-- It has to be there. -/
  | required
  /-- It means no value, as `null` does. -/
  | optional
  /-- It means this value. -/
  | default (value : Json)
  /-- It means an empty list. -/
  | omitted

/-- The form of a value. -/
inductive Shape where
  | text
  | flag
  | int32
  | int64
  | words (allowed : List String)
  | list (item : Shape)
  | map (value : Shape)
  /-- A record with its properties and, for each, a remark. -/
  | record (properties : List (String × Presence × Option String × Shape))
  /-- A shape with a remark. -/
  | remarked (remark : String) (shape : Shape)

/-- A property. -/
abbrev Property := String × Presence × Option String × Shape

namespace Property

/-- A property that has to be there. -/
def required (name : String) (shape : Shape) : Property :=
  (name, .required, none, shape)

/-- A property that may be absent. -/
def optional (name : String) (shape : Shape) : Property :=
  (name, .optional, none, shape)

/-- A property with a default. -/
def default (name : String) (value : Json) (shape : Shape) : Property :=
  (name, .default value, none, shape)

/-- The property with a remark of its own. -/
def remark (text : String) : Property → Property
  | (name, presence, _, shape) => (name, presence, some text, shape)

/-- Does the property have to be there? -/
def isRequired : Property → Bool
  | (_, .required, _, _) => true
  | _ => false

end Property

/-- The fields that say what an absent property means. -/
def presenceFields : Presence → List (String × Json)
  | .required | .omitted => []
  | .optional => [("nullable", .bool true)]
  | .default value => [("default", value)]

/-- The field that holds a remark. -/
def remarkFields : Option String → List (String × Json)
  | none => []
  | some text => [("description", .string text)]

/-- The names of the properties that have to be there, in order. -/
def requiredFields (properties : List Property) : List (String × Json) :=
  match Keyed.keys (Keyed.ofList (properties.filter Property.isRequired)) with
  | [] => []
  | names => [("required", .strings names)]

mutual

/-- The fields of the schema of a shape. -/
def Shape.fields : Shape → List (String × Json)
  | .text => [("type", .string "string")]
  | .flag => [("type", .string "boolean")]
  | .int32 => [("type", .string "integer"), ("format", .string "int32")]
  | .int64 => [("type", .string "integer"), ("format", .string "int64")]
  | .words allowed => [("type", .string "string"), ("enum", .strings allowed)]
  | .list item => [("type", .string "array"), ("items", .ofFields item.fields)]
  | .map value => [("type", .string "object"), ("additionalProperties", .ofFields value.fields)]
  | .record properties =>
    ("type", .string "object") :: ("properties", .ofFields (renderProperties properties))
      :: requiredFields properties
  | .remarked remark shape => shape.fields ++ [("description", .string remark)]

/-- The schemas of properties.  A property's own remark wins over that of its
    shape. -/
def renderProperties : List (String × Presence × Option String × Shape) → List (String × Json)
  | [] => []
  | (name, presence, remark, shape) :: rest =>
    (name, .ofFields (remarkFields remark ++ presenceFields presence ++ shape.fields))
      :: renderProperties rest

end

/-- A shape as an OpenAPI schema. -/
def Shape.render (shape : Shape) : Json :=
  .ofFields shape.fields

/-! ## §2. Shapes of what is copied into pods -/

open Property

/-- A resource claim. -/
def resourceClaim : Shape :=
  .record [required "name" .text]

/-- Amounts of resources. -/
def resources : Shape :=
  .record [optional "claims" (.list resourceClaim), optional "limits" (.map .text),
    optional "requests" (.map .text)]

/-- A condition on a label or a field. -/
def selectorRequirement : Shape :=
  .record [required "key" .text, required "operator" .text, optional "values" (.list .text)]

/-- A condition on labels. -/
def labelSelector : Shape :=
  .record [optional "matchExpressions" (.list selectorRequirement),
    optional "matchLabels" (.map .text)]

/-- A condition on a node. -/
def nodeSelectorTerm : Shape :=
  .record [optional "matchExpressions" (.list selectorRequirement),
    optional "matchFields" (.list selectorRequirement)]

/-- Affinity to nodes. -/
def nodeAffinity : Shape :=
  .record [
    optional "preferredDuringSchedulingIgnoredDuringExecution"
      (.list (.record [required "preference" nodeSelectorTerm, required "weight" .int32])),
    optional "requiredDuringSchedulingIgnoredDuringExecution"
      (.record [required "nodeSelectorTerms" (.list nodeSelectorTerm)])]

/-- A condition on other pods. -/
def podAffinityTerm : Shape :=
  .record [optional "labelSelector" labelSelector, optional "matchLabelKeys" (.list .text),
    optional "mismatchLabelKeys" (.list .text), optional "namespaceSelector" labelSelector,
    optional "namespaces" (.list .text), required "topologyKey" .text]

/-- Affinity to other pods. -/
def podAffinity : Shape :=
  .record [
    optional "preferredDuringSchedulingIgnoredDuringExecution"
      (.list (.record [required "podAffinityTerm" podAffinityTerm, required "weight" .int32])),
    optional "requiredDuringSchedulingIgnoredDuringExecution" (.list podAffinityTerm)]

/-- Where a pod may run. -/
def affinity : Shape :=
  .record [optional "nodeAffinity" nodeAffinity, optional "podAffinity" podAffinity,
    optional "podAntiAffinity" podAffinity]

/-- A tolerated taint. -/
def toleration : Shape :=
  .record [optional "effect" .text, optional "key" .text, optional "operator" .text,
    optional "tolerationSeconds" .int64, optional "value" .text]

/-! ## §3. Shapes of the parts of declarations -/

/-- The shape of `Placement`. -/
def placement : Shape :=
  .remarked "Pod placement and sizing knobs shared by every workload." (.record [
    optional "resources" resources,
    optional "affinity" affinity,
    optional "tolerations" (.list toleration),
    optional "priorityClassName" .text,
    optional "nodeSelector" (.map .text)])

/-- The shape of `Storage`. -/
def storage : Shape :=
  let value : Storage := {}
  .record [
    default "accessModes" (.strings value.accessModes) (.list .text),
    optional "storageClass" .text,
    default "storageSize" (.string value.size) .text]

/-- The shape of `ServiceIntegration`. -/
def integration : Shape :=
  let value : ServiceIntegration := {}
  .record [
    default "service" (.string value.service) .text,
    default "tokenName" (.string value.tokenName) .text]

/-- The shape of `Security`. -/
def security : Shape :=
  .remarked "Credential and transport security for a search cluster and its clients." (.record [
    remark "Secret holding the `elastic` user's password under key `password`."
      (optional "existingSecret" .text),
    default "tlsEnabled" (.bool false) .flag,
    default "autoGeneratePassword" (.bool false) .flag,
    remark ("Dashboard integration; when set a service token is minted once the cluster is "
        ++ "healthy.")
      (optional "kibanaIntegration" integration)])

/-- The shape of `ClusterReference`. -/
def clusterReference : Shape :=
  .remarked "Where a dashboard or shipper finds its search cluster." (.record [
    required "host" .text,
    default "clusterName" (.string "") .text,
    default "esVersion" (.string "") .text])

/-- The shape of `ManagementAddress`. -/
def managementAddress : Shape :=
  .remarked "Management endpoint used by index template and lifecycle declarations." (.record [
    required "host" .text,
    optional "username" .text,
    optional "password" .text])

/-- The shape of `NodeGroup`. -/
def nodeGroup : Shape :=
  .remarked "Sizing and configuration for one role's workload." (.record [
    default "replicas" (Json.int32 1) .int32,
    optional "kubernetesConfig" placement,
    remark "ConfigMap whose entries are injected as environment." (optional "customConfig" .text),
    optional "storage" storage,
    optional "jvmMaxMemory" .text,
    optional "jvmMinMemory" .text])

/-- The shape of `TemplateSettings`. -/
def templateSettings : Shape :=
  .record [
    default "shards" (Json.int32 1) .int32,
    default "replicas" (Json.int32 1) .int32,
    optional "lifecycleName" .text,
    optional "rolloverAlias" .text]

end Schema

/-! ## §4. Shapes of declared kinds -/

namespace DeclaredKind

open Schema Schema.Property

/-- The shape of the spec of a kind. -/
def specShape : DeclaredKind → Shape
  | .elasticsearch => .remarked "Desired state of one search cluster." (.record [
      required "esClusterName" .text,
      required "esVersion" .text,
      optional "esSecurity" security,
      default "esMaster" (NodeGroup.toJson {}) nodeGroup,
      optional "esData" nodeGroup,
      optional "esIngestion" nodeGroup,
      optional "esClient" nodeGroup,
      ("esPlugins", .omitted, none, .list .text)])
  | .kibana => .remarked "Dashboard pointing at an existing search cluster." (.record [
      default "replicas" (Json.int32 1) .int32,
      required "esCluster" clusterReference,
      optional "esSecurity" security,
      optional "kubernetesConfig" placement])
  | .fluentd => .remarked "Node-level log shipper." (.record [
      required "esCluster" clusterReference,
      optional "esSecurity" security,
      optional "kubernetesConfig" placement,
      optional "indexNameStrategy"
        (.remarked "Kubernetes metadata field used to split log indices."
          (.words (IndexSplit.all.map IndexSplit.field))),
      remark "ConfigMap replacing the generated `fluent.conf`." (optional "customConfig" .text),
      remark "ConfigMap with extra `*.conf` snippets." (optional "additionalConfig" .text)])
  | .indexTemplate => .remarked "Index template kept in sync on a search cluster." (.record [
      default "enabled" (.bool true) .flag,
      required "elasticsearch" managementAddress,
      required "indexPatterns" (.list .text),
      default "settings" (TemplateSettings.toJson {}) templateSettings])
  | .indexLifecycle =>
    .remarked "Index lifecycle (ILM) policy kept in sync on a search cluster." (.record [
      default "enabled" (.bool true) .flag,
      required "elasticsearch" managementAddress,
      required "rollover" (.record [required "maxSize" .text, required "maxAge" .text]),
      required "delete" (.record [required "minAge" .text])])

/-- The shape of the status of a kind, if it has one. -/
def statusShape? : DeclaredKind → Option Shape
  | .elasticsearch => some (.record [
      optional "esVersion" .text,
      default "esClusterState" Health.unknown.toJson
        (.remarked "Aggregate cluster health as written to status."
          (.words (Health.all.map Health.word))),
      optional "activeShards" .int32,
      optional "esMaster" .int32,
      optional "esData" .int32,
      optional "esIngestion" .int32,
      optional "esClient" .int32])
  | .kibana => some (.record [optional "replicas" .int32, optional "esVersion" .text])
  | .fluentd => some (.record [optional "totalAgents" .int32])
  | .indexTemplate | .indexLifecycle => none

/-- The shape of a declaration. -/
def shape (kind : DeclaredKind) : Shape :=
  .remarked s!"Auto-generated derived type for {kind.name}Spec via `CustomResource`" (.record
    (required "spec" kind.specShape :: (kind.statusShape?.map (optional "status")).toList))

/-! ## §5. Definitions -/

/-- Short names of the kind on the command line. -/
def shortNames : DeclaredKind → List String
  | .elasticsearch => ["es"]
  | _ => []

/-- The columns of a listing: their titles and where their text is. -/
def columns : DeclaredKind → List (String × String)
  | .elasticsearch =>
    [("Version", ".status.esVersion"), ("State", ".status.esClusterState")]
  | _ => []

/-- The name of the definition of the kind. -/
def definitionName (kind : DeclaredKind) : String :=
  s!"{kind.plural}.{Kind.declaredGroup}"

/-- The schema of a declaration, which has the kind as its title. -/
def schema (kind : DeclaredKind) : Json :=
  .ofFields (("title", .string kind.name) :: kind.shape.fields)

/-- A column of a listing. -/
def column (title path : String) : Json :=
  .ofFields [("name", .string title), ("type", .string "string"), ("jsonPath", .string path)]

/-- The definition of the kind, for the platform. -/
def definition (kind : DeclaredKind) : Json :=
  let subresources : Json := match kind.statusShape? with
    | some _ => .ofFields [("status", .empty)]
    | none => .empty
  let version : Json := .ofFields [
    ("name", .string DeclaredKind.version),
    ("served", .bool true),
    ("storage", .bool true),
    ("additionalPrinterColumns",
      .array (kind.columns.map fun (title, path) => column title path)),
    ("schema", .ofFields [("openAPIV3Schema", kind.schema)]),
    ("subresources", subresources)]
  let names : Json := .ofFields [
    ("categories", .array []),
    ("kind", .string kind.name),
    ("plural", .string kind.plural),
    ("shortNames", .strings kind.shortNames),
    ("singular", .string kind.name.toLower)]
  .ofFields [
    ("apiVersion", .string "apiextensions.k8s.io/v1"),
    ("kind", .string "CustomResourceDefinition"),
    ("metadata", .ofFields [("name", .string kind.definitionName)]),
    ("spec", .ofFields [
      ("group", .string Kind.declaredGroup),
      ("names", names),
      ("scope", .string "Namespaced"),
      ("versions", .array [version])])]

end DeclaredKind

/-- One document of the stream. -/
def definitionDocument (kind : DeclaredKind) : String :=
  s!"---\n{kind.definition.text}\n"

/-- The definitions of all declared kinds, one document each. -/
def definitions : String :=
  String.join (DeclaredKind.all.map definitionDocument)

end LoggingOperator
