import VolumeMigration.Cluster.Pod
import VolumeMigration.Text.Number
/-!
# Workload controllers

The specifications of the controllers that keep pods alive, with the field that
says how much they run. Fields that a migration does not look at are kept in
`rest`, and the values of `new` are those of a specification made from nothing.
-/

namespace VolumeMigration

/-- Which pods belong to a controller. -/
structure LabelSelector where
  matchLabels : Option StringMap := none
  rest : Fields := []
deriving BEq, Repr, Inhabited

structure DeploymentSpec where
  replicas : Option Int := none
  selector : LabelSelector := {}
  template : PodTemplate := {}
  rest : Fields := []
deriving BEq, Repr, Inhabited

/-- A controller that keeps a number of pods running. -/
structure ReplicaSpec where
  replicas : Option Int := none
  rest : Fields := []
deriving BEq, Repr, Inhabited

structure DaemonSetSpec where
  template : PodTemplate := {}
  rest : Fields := []
deriving BEq, Repr, Inhabited

structure JobSpec where
  parallelism : Option Int := none
  rest : Fields := []
deriving BEq, Repr, Inhabited

structure CronJobSpec where
  suspend : Option Bool := none
  rest : Fields := []
deriving BEq, Repr, Inhabited

namespace DeploymentSpec

def new : DeploymentSpec := {}

instance : JsonForm LabelSelector where
  toJson s := .obj (Fields.present "matchLabels" s.matchLabels ++ s.rest)
  ofJson? j := do
    let fs ← j.obj?
    some { matchLabels := ← fs.optional? "matchLabels", rest := fs.without ["matchLabels"] }

instance : JsonForm DeploymentSpec where
  toJson s := .obj
    (Fields.present "replicas" s.replicas ++ Fields.member "selector" s.selector ++
      Fields.member "template" s.template ++ s.rest)
  ofJson? j := do
    let fs ← j.obj?
    some {
      replicas := ← fs.optional? "replicas"
      selector := ← fs.value? "selector"
      template := ← fs.value? "template"
      rest := fs.without ["replicas", "selector", "template"] }

end DeploymentSpec

namespace ReplicaSpec

/-- A stateful set that selects nothing and makes empty pods. -/
def newStatefulSet : ReplicaSpec := { rest := [("selector", .obj []), ("template", .obj [])] }

/-- A replica set that selects nothing. -/
def newReplicaSet : ReplicaSpec := { rest := [("selector", .obj [])] }

instance : JsonForm ReplicaSpec where
  toJson s := .obj (Fields.present "replicas" s.replicas ++ s.rest)
  ofJson? j := do
    let fs ← j.obj?
    some { replicas := ← fs.optional? "replicas", rest := fs.without ["replicas"] }

/-- A replica specification whose other fields are kept as they are, null or not. -/
def ofVerbatim? (j : Json) : Option ReplicaSpec := do
  let fs ← j.obj?
  let replicas ← match fs.get? "replicas" with
    | none | some .null => some none
    | some (.int n) => (Text.within? Text.minInt32 Text.maxInt32 n).map some
    | some _ => none
  some { replicas, rest := fs.without ["replicas"] }

end ReplicaSpec

namespace DaemonSetSpec

def new : DaemonSetSpec := { rest := [("selector", .obj [])] }

instance : JsonForm DaemonSetSpec where
  toJson s := .obj (Fields.member "template" s.template ++ s.rest)
  ofJson? j := do
    let fs ← j.obj?
    some { template := ← fs.value? "template", rest := fs.without ["template"] }

end DaemonSetSpec

namespace JobSpec

def new : JobSpec := { rest := [("template", .obj [])] }

instance : JsonForm JobSpec where
  toJson s := .obj (Fields.present "parallelism" s.parallelism ++ s.rest)
  ofJson? j := do
    let fs ← j.obj?
    some { parallelism := ← fs.optional? "parallelism", rest := fs.without ["parallelism"] }

end JobSpec

namespace CronJobSpec

def new : CronJobSpec := { rest := [("jobTemplate", .obj []), ("schedule", .str "")] }

instance : JsonForm CronJobSpec where
  toJson s := .obj (Fields.present "suspend" s.suspend ++ s.rest)
  ofJson? j := do
    let fs ← j.obj?
    some { suspend := ← fs.optional? "suspend", rest := fs.without ["suspend"] }

end CronJobSpec

end VolumeMigration
