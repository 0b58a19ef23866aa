import VolumeMigration.Quiesce.Controller
/-!
# Writers

A pod that a workload controller owns may write to the volumes of its namespace
until it has ended.
-/

namespace VolumeMigration

namespace Quiesce

/-- The kinds of owners whose pods count as writers. -/
def writerOwners : List String := ["ReplicationController", "StatefulSet", "ReplicaSet", "DaemonSet", "Job"]

/-- The phases of a pod that writes no more. -/
def finalPhases : List String := ["Succeeded", "Failed", "Unknown"]

/-- Whether a pod belongs to a controller and may still write. -/
def isActiveWriter (pod : Object) : Bool :=
  ((pod.metadata.owners.getD []).any fun o => writerOwners.contains o.kind) &&
    !(pod.podPhase?.any finalPhases.contains)

end Quiesce

/-- The names of the pods of a namespace that may still write. -/
def activeWriters (ns : String) : Attempt Cluster (List String) := do
  let pods ← Cluster.list .pod ns
  return (pods.filter Quiesce.isActiveWriter).map (·.lookupName)

/-- Whether no pod of a namespace may still write. -/
def hasTerminated (ns : String) : Attempt Cluster Bool := do
  return (← activeWriters ns).isEmpty

/-- How controllers are stopped. -/
structure QuiesceOptions where
  /-- The seconds between two looks at the writers. -/
  pollIntervalSeconds : Nat := 5
  /-- Whether to wait until the writers have ended. -/
  wait : Bool := true
deriving DecidableEq, Repr

namespace QuiesceOptions

/-- The seconds between two looks, at least one. -/
def pollInterval (o : QuiesceOptions) : Nat := max o.pollIntervalSeconds 1

end QuiesceOptions

end VolumeMigration
