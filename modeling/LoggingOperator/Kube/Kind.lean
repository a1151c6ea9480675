/-
  LoggingOperator.Kube.Kind — THE KINDS OF STORED OBJECTS.

  Every object the operator reads or writes is of one of twelve kinds: nine
  that it generates and three that users declare and that carry a status.
  The kind fixes where the object is served (group, version, plural) and
  whether it lives in a namespace.
-/

namespace LoggingOperator

/-- A kind of object. -/
inductive Kind where
  | secret | configMap | service | serviceAccount
  | statefulSet | deployment | daemonSet
  | clusterRole | clusterRoleBinding
  | elasticsearch | kibana | fluentd
deriving DecidableEq, Repr, Inhabited

namespace Kind

/-- The API group of declared kinds. -/
def declaredGroup : String := "logging.lograft.io"

/-- Every kind, in the order in which stored objects are listed. -/
def all : List Kind :=
  [.secret, .configMap, .service, .serviceAccount, .statefulSet, .deployment, .daemonSet,
    .clusterRole, .clusterRoleBinding, .elasticsearch, .kibana, .fluentd]

/-- The place of a kind in `all`. -/
def rank (kind : Kind) : Nat :=
  kind.ctorIdx

/-- The name of the kind. -/
def name : Kind → String
  | .secret => "Secret"
  | .configMap => "ConfigMap"
  | .service => "Service"
  | .serviceAccount => "ServiceAccount"
  | .statefulSet => "StatefulSet"
  | .deployment => "Deployment"
  | .daemonSet => "DaemonSet"
  | .clusterRole => "ClusterRole"
  | .clusterRoleBinding => "ClusterRoleBinding"
  | .elasticsearch => "Elasticsearch"
  | .kibana => "Kibana"
  | .fluentd => "Fluentd"

/-- The kind with this name. -/
def ofName? (name : String) : Option Kind :=
  all.find? fun kind => kind.name == name

/-- The API group; the core group has no name. -/
def group : Kind → String
  | .secret | .configMap | .service | .serviceAccount => ""
  | .statefulSet | .deployment | .daemonSet => "apps"
  | .clusterRole | .clusterRoleBinding => "rbac.authorization.k8s.io"
  | .elasticsearch | .kibana | .fluentd => declaredGroup

/-- The version within the group. -/
def version : Kind → String
  | .elasticsearch | .kibana | .fluentd => "v1beta1"
  | _ => "v1"

/-- The collection that holds the objects of the kind. -/
def plural : Kind → String
  | .secret => "secrets"
  | .configMap => "configmaps"
  | .service => "services"
  | .serviceAccount => "serviceaccounts"
  | .statefulSet => "statefulsets"
  | .deployment => "deployments"
  | .daemonSet => "daemonsets"
  | .clusterRole => "clusterroles"
  | .clusterRoleBinding => "clusterrolebindings"
  | .elasticsearch => "elasticsearches"
  | .kibana => "kibanas"
  | .fluentd => "fluentds"

/-- Do objects of the kind live in a namespace? -/
def namespaced : Kind → Bool
  | .clusterRole | .clusterRoleBinding => false
  | _ => true

/-- Workloads: their metadata belongs to the platform once they exist. -/
def isWorkload : Kind → Bool
  | .statefulSet | .deployment | .daemonSet => true
  | _ => false

/-- Group and version as written in an object. -/
def apiVersion (kind : Kind) : String :=
  if kind.group = "" then kind.version else s!"{kind.group}/{kind.version}"

theorem mem_all (kind : Kind) : kind ∈ all := by
  cases kind <;> decide

/-- A kind is known by its name. -/
theorem ofName?_name (kind : Kind) : ofName? kind.name = some kind := by
  cases kind <;> rfl

end Kind

end LoggingOperator
