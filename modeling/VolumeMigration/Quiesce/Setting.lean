import VolumeMigration.Cluster.Object
import VolumeMigration.Quiesce.Record
/-!
# Workload controllers and how much they run

Each kind of workload controller has one setting that says how much it runs. A
controller is stopped by giving that setting its stopped value.
-/

namespace VolumeMigration

/-- The kinds of controllers that keep writers alive, in the order in which they are stopped. Cron
jobs come first, so that they start no new jobs. -/
inductive WorkloadKind where
  | cronJob
  | deployment
  | deploymentConfig
  | statefulSet
  | replicaSet
  | daemonSet
  | job
deriving DecidableEq, Repr

namespace WorkloadKind

def all : List WorkloadKind :=
  [cronJob, deployment, deploymentConfig, statefulSet, replicaSet, daemonSet, job]

theorem mem_all (k : WorkloadKind) : k ∈ all := by cases k <;> decide

def kind : WorkloadKind → Kind
  | cronJob => .cronJob
  | deployment => .deployment
  | deploymentConfig => .deploymentConfig
  | statefulSet => .statefulSet
  | replicaSet => .replicaSet
  | daemonSet => .daemonSet
  | job => .job

def name (k : WorkloadKind) : String := k.kind.name

def ofName? (s : String) : Option WorkloadKind := all.find? (·.name == s)

/-- The annotation with the record of a controller. -/
def recordKey : WorkloadKind → String
  | cronJob => Record.suspendKey
  | daemonSet => Record.nodeSelectorKey
  | deployment | deploymentConfig | statefulSet | replicaSet | job => Record.replicasKey

/-- Whether a cluster may not serve the kind at all. -/
def isOptional (k : WorkloadKind) : Bool := k == deploymentConfig

end WorkloadKind

/-- How much a controller runs. -/
inductive Setting where
  /-- As many pods at once. -/
  | replicas (n : Int)
  /-- Nothing while it is suspended. -/
  | suspend (b : Bool)
  /-- A pod on every node with the labels. -/
  | nodes (selector : StringMap)
deriving DecidableEq, Repr

namespace Setting

/-- A label that no node has. -/
def noNodeKey : String := "ferry.dev/quiesce-daemonset"

def noNodeValue : String := "true"

/-- The value of a setting that stops a controller. -/
def stopped : WorkloadKind → Setting
  | .cronJob => suspend true
  | .daemonSet => nodes (.ofList [(noNodeKey, noNodeValue)])
  | .deployment | .deploymentConfig | .statefulSet | .replicaSet | .job => replicas 0

/-- The meaning of a setting that a controller leaves out. -/
def unset : WorkloadKind → Setting
  | .cronJob => suspend false
  | .daemonSet => nodes .empty
  | .deployment | .deploymentConfig | .statefulSet | .replicaSet | .job => replicas 1

/-- Whether a controller with the setting counts as stopped. -/
def isStopped : Setting → Bool
  | replicas n => n == 0
  | suspend b => b
  | nodes selector => selector.get? noNodeKey == some noNodeValue

/-- The record of a setting. -/
def encode : Setting → String
  | replicas n => Record.encodeReplicas n
  | suspend b => Record.encodeSuspend b
  | nodes selector => Record.encodeNodeSelector selector

/-- The setting that the record of a controller holds. -/
def decode (k : WorkloadKind) (text : String) : Result Setting :=
  match k with
  | .cronJob => (Record.decodeSuspend text).map suspend
  | .daemonSet => (Record.decodeNodeSelector text).map nodes
  | .deployment | .deploymentConfig | .statefulSet | .replicaSet | .job =>
    (Record.decodeReplicas text).map replicas

end Setting

namespace DaemonSetSpec

/-- The nodes that a daemon set runs on. -/
def nodeSelector? (s : DaemonSetSpec) : Option StringMap := s.template.spec.bind (·.nodeSelector)

/-- The daemon set on the nodes with the labels; without labels, on every node. -/
def onNodes (s : DaemonSetSpec) (selector : StringMap) : DaemonSetSpec :=
  let pod := s.template.spec.getD {}
  { s with template := { s.template with
      spec := some { pod with nodeSelector := if selector.isEmpty then none else some selector } } }

end DaemonSetSpec

namespace Content

/-- The setting of a controller, unless it is left out. -/
def setting? : Content → Option Setting
  | cronJob spec => (spec.bind (·.suspend)).map .suspend
  | deployment spec => (spec.bind (·.replicas)).map .replicas
  | deploymentConfig spec => spec.replicas.map .replicas
  | statefulSet spec => (spec.bind (·.replicas)).map .replicas
  | replicaSet spec => (spec.bind (·.replicas)).map .replicas
  | daemonSet spec => (spec.bind (·.nodeSelector?)).map .nodes
  | job spec => (spec.bind (·.parallelism)).map .replicas
  | _ => none

/-- The controller with a setting, for which a missing specification is made. -/
def withSetting : Content → Setting → Content
  | cronJob spec, .suspend b => cronJob (some { spec.getD .new with suspend := some b })
  | deployment spec, .replicas n => deployment (some { spec.getD .new with replicas := some n })
  | deploymentConfig spec, .replicas n => deploymentConfig { spec with replicas := some n }
  | statefulSet spec, .replicas n => statefulSet (some { spec.getD .newStatefulSet with replicas := some n })
  | replicaSet spec, .replicas n => replicaSet (some { spec.getD .newReplicaSet with replicas := some n })
  | daemonSet spec, .nodes selector => daemonSet (some ((spec.getD .new).onNodes selector))
  | job spec, .replicas n => job (some { spec.getD .new with parallelism := some n })
  | c, _ => c

end Content

end VolumeMigration
