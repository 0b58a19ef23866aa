import VolumeMigration.Failure
import VolumeMigration.Json.Reader
import VolumeMigration.Json.Writer
import VolumeMigration.SortedMap
import VolumeMigration.Text.Blank
import VolumeMigration.Text.Number
/-!
# Records

What a workload controller did before it was stopped is kept in an annotation
of the controller, as text.
-/

namespace VolumeMigration.Record

/-- The annotation with the number of replicas, or of pods that a job runs at once. -/
def replicasKey : String := "ferry.dev/pre-quiesce-replicas"

/-- The annotation with the nodes that a daemon set ran on, as a JSON record. -/
def nodeSelectorKey : String := "ferry.dev/pre-quiesce-node-selector"

/-- The annotation that says whether a cron job was suspended. -/
def suspendKey : String := "ferry.dev/pre-quiesce-suspend"

def encodeReplicas (n : Int) : String := Int.repr n

/-- A number of replicas, which is not negative. -/
def decodeReplicas (text : String) : Result Int :=
  match (Text.readInt32? (Text.trim text)).filter (0 ≤ ·) with
  | some n => .ok n
  | none => .error (.serialization none s!"{replicasKey} '{text}' is not a replica count")

def encodeSuspend (b : Bool) : String := if b then "true" else "false"

def decodeSuspend (text : String) : Result Bool :=
  let s := Text.trim text
  if s == "true" then .ok true
  else if s == "false" then .ok false
  else .error (.serialization none s!"{suspendKey} '{text}' is not true or false")

def encodeNodeSelector (selector : StringMap) : String :=
  Json.render (.obj (selector.toList.map fun e => (e.1, .str e.2)))

/-- The map that a JSON record of texts holds. Of several entries with one key the last counts. -/
def stringMap? (j : Json) : Option StringMap :=
  (j.obj?.bind (·.mapM fun f => f.2.str?.map (f.1, ·))).map SortedMap.ofList

def decodeNodeSelector (text : String) : Result StringMap :=
  match (Json.parseVerbatim? text).bind stringMap? with
  | some m => .ok m
  | none =>
    .error (.serialization (some "DaemonSet") s!"{nodeSelectorKey} is not a string map: a record of texts was expected")

end VolumeMigration.Record
