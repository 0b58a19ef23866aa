import VolumeMigration.Cluster.Store
import VolumeMigration.Quiesce.Setting
/-!
# Stopping and restoring controllers

`quiesce` stops every workload controller of a namespace and records what it
did before; `unquiesce` restores the ones that are still stopped, and leaves a
controller alone that someone has changed since. Both end at the first failure
and keep what was done until then.
-/

namespace VolumeMigration

/-- A controller by its kind and name. -/
structure WorkloadRef where
  kind : WorkloadKind
  name : String
deriving DecidableEq, Repr

def WorkloadRef.display (w : WorkloadRef) : String := w.kind.name ++ "/" ++ w.name

/-- What became of the controllers of a namespace. -/
structure QuiesceReport where
  ns : String
  /-- The controllers that were changed. -/
  acted : List WorkloadRef
  /-- The controllers that were left as they were. -/
  skipped : List WorkloadRef
deriving DecidableEq, Repr

instance : JsonForm WorkloadRef where
  toJson w := .obj [("kind", .str w.kind.name), ("name", .str w.name)]
  ofJson? j := do
    let fs ← j.obj?
    some { kind := ← WorkloadKind.ofName? (← fs.value? "kind"), name := ← fs.value? "name" }

instance : JsonForm QuiesceReport where
  toJson r := .obj (Fields.member "namespace" r.ns ++ Fields.member "acted" r.acted ++
    Fields.member "skipped" r.skipped)
  ofJson? j := do
    let fs ← j.obj?
    some { ns := ← fs.value? "namespace", acted := ← fs.value? "acted", skipped := ← fs.value? "skipped" }

/-- What became of one controller. -/
inductive QuiesceStep where
  | acted (workload : WorkloadRef)
  | skipped (workload : WorkloadRef)
deriving DecidableEq, Repr

namespace QuiesceStep

def acted? : QuiesceStep → Option WorkloadRef
  | acted w => some w
  | skipped _ => none

def skipped? : QuiesceStep → Option WorkloadRef
  | acted _ => none
  | skipped w => some w

end QuiesceStep

def QuiesceReport.ofSteps (ns : String) (steps : List QuiesceStep) : QuiesceReport :=
  { ns, acted := steps.filterMap (·.acted?), skipped := steps.filterMap (·.skipped?) }

namespace Quiesce

/-- Whether a controller is stopped on its own: a replica set with an owner follows its owner. -/
def isEligible (k : WorkloadKind) (o : Object) : Bool :=
  k != .replicaSet || (o.metadata.owners.getD []).isEmpty

/-- Whether a controller is stopped. -/
def isStopped (o : Object) : Bool := o.content.setting?.any (·.isStopped)

/-- The record of what a controller does. -/
def recordOf (k : WorkloadKind) (o : Object) : String := (o.content.setting?.getD (.unset k)).encode

/-- The controller stopped, with the record of what it did. -/
def stop (k : WorkloadKind) (o : Object) : Object :=
  { o with
    metadata := o.metadata.annotate k.recordKey (recordOf k o)
    content := o.content.withSetting (.stopped k) }

/-- The controller without its record. -/
def forget (k : WorkloadKind) (o : Object) : Object :=
  { o with metadata := o.metadata.unannotate k.recordKey }

/-- The controller as its record says, without the record. -/
def restore (k : WorkloadKind) (o : Object) (text : String) : Result Object := do
  let setting ← Setting.decode k text
  return forget k { o with content := o.content.withSetting setting }

/-- The controllers of a kind that can be stopped. A kind that the cluster need not serve has none
if it is not found. -/
def eligible (k : WorkloadKind) (ns : String) : Attempt Cluster (List Object) := do
  match ← Attempt.caught (Cluster.list k.kind ns) with
  | .ok objects => return objects.filter (isEligible k)
  | .error f => if k.isOptional && f.isNotFound then return [] else throw f

/-- Stops a controller, unless it is stopped. -/
def quiesceObject (k : WorkloadKind) (o : Object) : Attempt Cluster (Option QuiesceStep) := do
  if isStopped o then return some (.skipped ⟨k, o.lookupName⟩)
  else
    let _ ← Cluster.update (stop k o)
    return some (.acted ⟨k, o.lookupName⟩)

/-- Restores a controller that has a record, unless someone has changed it since. The record is
removed either way. -/
def unquiesceObject (k : WorkloadKind) (o : Object) : Attempt Cluster (Option QuiesceStep) := do
  match o.metadata.annotation? k.recordKey with
  | none => return none
  | some text =>
    if isStopped o then
      let _ ← Cluster.update (← Attempt.ofResult (restore k o text))
      return some (.acted ⟨k, o.lookupName⟩)
    else
      let _ ← Cluster.update (forget k o)
      return some (.skipped ⟨k, o.lookupName⟩)

/-- Visits objects in order, up to the first failure. -/
def visit (f : Object → Attempt Cluster (Option QuiesceStep)) : List Object → Attempt Cluster (List QuiesceStep)
  | [] => pure []
  | o :: os => do
    let step ← f o
    let steps ← visit f os
    return step.toList ++ steps

/-- Visits the controllers of kinds in order, up to the first failure. -/
def visitKinds (f : WorkloadKind → Object → Attempt Cluster (Option QuiesceStep)) (ns : String) :
    List WorkloadKind → Attempt Cluster (List QuiesceStep)
  | [] => pure []
  | k :: ks => do
    let steps ← visit (f k) (← eligible k ns)
    let rest ← visitKinds f ns ks
    return steps ++ rest

end Quiesce

/-- Stops every workload controller of a namespace. -/
def quiesce (ns : String) : Attempt Cluster QuiesceReport := do
  return .ofSteps ns (← Quiesce.visitKinds Quiesce.quiesceObject ns WorkloadKind.all)

/-- Restores every workload controller of a namespace that was stopped. -/
def unquiesce (ns : String) : Attempt Cluster QuiesceReport := do
  return .ofSteps ns (← Quiesce.visitKinds Quiesce.unquiesceObject ns WorkloadKind.all)

end VolumeMigration
