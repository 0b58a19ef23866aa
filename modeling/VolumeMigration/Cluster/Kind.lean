/-!
# Kinds of objects

The kinds that a migration reads or writes, in the order of their names.
-/

namespace VolumeMigration

inductive Kind where
  | configMap
  | cronJob
  | daemonSet
  | deployment
  | deploymentConfig
  /-- The routing rules of a namespace, and the cluster's own ingress configuration. -/
  | ingress
  | job
  | persistentVolumeClaim
  | pod
  | replicaSet
  | route
  | secret
  | service
  | statefulSet
deriving DecidableEq, Repr, Inhabited

namespace Kind

def name : Kind → String
  | configMap => "ConfigMap"
  | cronJob => "CronJob"
  | daemonSet => "DaemonSet"
  | deployment => "Deployment"
  | deploymentConfig => "DeploymentConfig"
  | ingress => "Ingress"
  | job => "Job"
  | persistentVolumeClaim => "PersistentVolumeClaim"
  | pod => "Pod"
  | replicaSet => "ReplicaSet"
  | route => "Route"
  | secret => "Secret"
  | service => "Service"
  | statefulSet => "StatefulSet"

/-- Every kind, in the order of the names. -/
def all : List Kind :=
  [configMap, cronJob, daemonSet, deployment, deploymentConfig, ingress, job, persistentVolumeClaim, pod,
    replicaSet, route, secret, service, statefulSet]

def ofName? (s : String) : Option Kind := all.find? fun k => k.name == s

/-- The position of a kind among all kinds. -/
def rank (k : Kind) : Nat := all.idxOf k

instance : Ord Kind := ⟨fun a b => compare a.rank b.rank⟩

/-- The version of the API that serves a kind. -/
def apiVersion : Kind → String
  | configMap | persistentVolumeClaim | pod | secret | service => "v1"
  | cronJob | job => "batch/v1"
  | daemonSet | deployment | replicaSet | statefulSet => "apps/v1"
  | deploymentConfig => "apps.openshift.io/v1"
  | ingress => "networking.k8s.io/v1"
  | route => "route.openshift.io/v1"

end Kind

end VolumeMigration
