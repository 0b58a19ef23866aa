import VolumeMigration.Attempt
import VolumeMigration.Cluster.Object
import VolumeMigration.Json.MergePatch
import VolumeMigration.Label
/-!
# Clusters

A cluster is its objects by kind, namespace and name, listed in that order. Its
operations create, read, update and list objects. Every write that reaches the
cluster takes the next version, and every one that succeeds is logged. An
operation fails where a rule says so: a refusal comes before anything else, a
fault after the namespace is known.
-/

namespace VolumeMigration

open Std

/-- Where an object is kept. -/
structure Key where
  kind : Kind
  ns : String
  name : String
deriving DecidableEq, Repr, Inhabited

namespace Key

/-- By kind, then by namespace, then by name. -/
instance : Ord Key := ⟨fun a b =>
  (compare a.kind.rank b.kind.rank).then ((compare a.ns b.ns).then (compare a.name b.name))⟩

theorem rank_injective {a b : Kind} (h : a.rank = b.rank) : a = b := by
  revert h; cases a <;> cases b <;> decide

instance : TransOrd Key where
  eq_swap {a b} := by
    change Ordering.then _ _ = (Ordering.then _ _).swap
    rw [Ordering.swap_then, Ordering.swap_then, ← OrientedCmp.eq_swap, ← OrientedCmp.eq_swap,
      ← OrientedCmp.eq_swap]
  isLE_trans {a b c} h₁ h₂ := by
    change (Ordering.then _ _).isLE = true at h₁ h₂ ⊢
    have t := @TransCmp.isLE_trans (Nat × (String × String)) (compareLex (compareOn (·.1))
      (compareLex (compareOn (·.2.1)) (compareOn (·.2.2)))) _
      (a.kind.rank, a.ns, a.name) (b.kind.rank, b.ns, b.name) (c.kind.rank, c.ns, c.name) h₁ h₂
    exact t

instance : LawfulEqOrd Key where
  eq_of_compare {a b} h := by
    change Ordering.then _ _ = .eq at h
    rw [Ordering.then_eq_eq, Ordering.then_eq_eq] at h
    obtain ⟨h₁, h₂, h₃⟩ := h
    have e₁ := rank_injective (LawfulEqOrd.eq_of_compare h₁)
    have e₂ := LawfulEqOrd.eq_of_compare h₂
    have e₃ := LawfulEqOrd.eq_of_compare h₃
    cases a; cases b; simp_all

end Key

namespace Object

/-- Where the object is kept. -/
def key (o : Object) : Key := ⟨o.kind, o.objectName.ns, o.objectName.name⟩

/-- The object with another version. -/
def withVersion (o : Object) (version : Option String) : Object :=
  { o with metadata := { o.metadata with resourceVersion := version } }

/-- The namespace, which every operation on the object needs. -/
def namespace? (o : Object) : Result String :=
  match o.metadata.ns with
  | some ns => .ok ns
  | none => .error (.configuration (.noNamespace o.kind.name o.lookupName))

end Object

inductive Operation where
  | create
  | get
  | update
  | list
deriving DecidableEq, Repr, Inhabited

namespace Operation

def name : Operation → String
  | create => "Create"
  | get => "Get"
  | update => "Update"
  | list => "List"

/-- The operation with a name in small letters. -/
def ofName? (s : String) : Option Operation := [create, get, update, list].find? (·.name.toLower == s)

end Operation

/-- Which operations fail: those on a kind, and on one name only if it is given. -/
structure FaultRule where
  operation : Operation
  kind : Kind
  name : Option String := none
deriving DecidableEq, Repr

def FaultRule.covers (r : FaultRule) (operation : Operation) (kind : Kind) (name : String) : Bool :=
  r.operation == operation && r.kind == kind && r.name.all (· == name)

/-- A successful write. -/
structure LogEntry where
  operation : Operation
  kind : Kind
  object : ObjectName
deriving DecidableEq, Repr

def LogEntry.line (e : LogEntry) : String :=
  (if e.operation = .create then "create " else "update ") ++ e.kind.name ++ " " ++ e.object.display

structure Cluster where
  objects : SortedMap Key Object := .empty
  /-- The last version that was given to an object. -/
  version : Nat := 0
  /-- The successful writes, in order. -/
  log : List LogEntry := []
  /-- What is answered before anything else; the first rule that covers the operation counts. -/
  refusals : List (FaultRule × Failure) := []
  faults : List FaultRule := []

instance : Inhabited Cluster := ⟨{}⟩

namespace Cluster

/-- The answer of the first refusal that covers an operation. -/
def refusal? (c : Cluster) (operation : Operation) (kind : Kind) (name : String) : Option Failure :=
  (c.refusals.find? fun r => r.1.covers operation kind name).map (·.2)

/-- The failure of an operation that a fault covers. -/
def fault? (c : Cluster) (operation : Operation) (kind : Kind) (name : String) : Option Failure :=
  if c.faults.any (·.covers operation kind name) then
    some (.internal "in-memory store" s!"injected {operation.name} failure for {kind.name} {name}")
  else none

/-- Places an object without a check, a version or a log entry, as others change a cluster. -/
def place (c : Cluster) (o : Object) : Cluster := { c with objects := c.objects.insert o.key o }

/-- Fails if there is a failure. -/
def failWith (f? : Option Failure) : Attempt Cluster Unit :=
  match f? with
  | some f => throw f
  | none => pure ()

/-- An object as one of its kind's API; the cluster's ingress configuration is of another API. -/
def readAs (k : Kind) (o : Object) : Result Object :=
  if o.content.apiVersion = k.apiVersion then .ok o
  else .error (.serialization none s!"an object of {o.content.apiVersion} is none of {k.apiVersion}")

/-- Keeps an object that was written, and logs the write. -/
def record (c : Cluster) (operation : Operation) (ns : String) (o : Object) : Cluster :=
  { c with
    objects := c.objects.insert o.key o
    log := c.log ++ [⟨operation, o.kind, ⟨ns, o.lookupName⟩⟩] }

/-- Creates an object that does not exist yet. -/
def create (o : Object) : Attempt Cluster Object := do
  failWith ((← get).refusal? .create o.kind o.lookupName)
  let ns ← Attempt.ofResult o.namespace?
  failWith ((← get).fault? .create o.kind o.lookupName)
  modify fun c => { c with version := c.version + 1 }
  let c ← get
  let stored := o.withVersion (some (Nat.repr c.version))
  if c.objects.contains o.key then throw (.conflict o.kind.name ⟨ns, o.lookupName⟩)
  set (c.record .create ns stored)
  return stored

/-- Replaces an object that exists. -/
def update (o : Object) : Attempt Cluster Object := do
  failWith ((← get).refusal? .update o.kind o.lookupName)
  let ns ← Attempt.ofResult o.namespace?
  failWith ((← get).fault? .update o.kind o.lookupName)
  modify fun c => { c with version := c.version + 1 }
  let c ← get
  let stored := o.withVersion (some (Nat.repr c.version))
  if !c.objects.contains o.key then throw (.notFound o.kind.name ⟨ns, o.lookupName⟩)
  set (c.record .update ns stored)
  return stored

/-- The object of a kind and name, if it exists. -/
def find? (k : Kind) (n : ObjectName) : Attempt Cluster (Option Object) := do
  let c ← get
  failWith (c.refusal? .get k n.name)
  failWith (c.fault? .get k n.name)
  match c.objects.get? ⟨k, n.ns, n.name⟩ with
  | none => return none
  | some o => return some (← Attempt.ofResult (readAs k o))

/-- The object of a kind and name, which has to exist. -/
def require (k : Kind) (n : ObjectName) : Attempt Cluster Object := do
  match ← find? k n with
  | some o => return o
  | none => throw (.notFound k.name n)

/-- The cluster's own ingress configuration of a name, if it exists. -/
def clusterIngress? (name : String) : Attempt Cluster (Option Object) := do
  let c ← get
  failWith (c.refusal? .get .ingress name)
  failWith (c.fault? .get .ingress name)
  match c.objects.get? ⟨.ingress, "", name⟩ with
  | none => return none
  | some o =>
    match Object.clusterIngressOfJson? o.toJson with
    | some o => return some o
    | none => throw (.serialization none "an ingress is no ingress configuration")

/-- Updates the object if it exists and creates it if it does not. -/
def createOrUpdate (o : Object) : Attempt Cluster Object := do
  let ns ← Attempt.ofResult o.namespace?
  match ← find? o.kind ⟨ns, o.lookupName⟩ with
  | some existing => update (o.withVersion existing.metadata.resourceVersion)
  | none => create o

/-- The objects of a kind in a namespace that a selector matches, in the order of their names. -/
def matching (c : Cluster) (k : Kind) (ns : String) (selector : Option String) : List Object :=
  ((c.objects.toList.filter fun e => e.1.kind == k && e.1.ns == ns).map (·.2)).filter fun o =>
    selector.all fun s => decide (Selector.Matches s o.labelMap)

/-- Lists the objects of a kind in a namespace, all of them or those that a selector matches. -/
def list (k : Kind) (ns : String) (selector : Option String := none) : Attempt Cluster (List Object) := do
  let c ← get
  failWith (c.refusal? .list k "")
  failWith (c.fault? .list k "")
  return c.matching k ns selector

/-- Every object of a namespace. -/
def objectsIn (c : Cluster) (ns : String) : List Object :=
  (c.objects.toList.filter fun e => e.1.ns == ns).map (·.2)

/-- Why an object could not be patched. -/
inductive PatchFault where
  | missing
  | misshapen
deriving DecidableEq, Repr

/-- Changes an object by a merge patch of its JSON form, as others change a cluster. -/
def patch (c : Cluster) (k : Kind) (n : ObjectName) (change : Json) : Except PatchFault Cluster :=
  match c.objects.get? ⟨k, n.ns, n.name⟩ with
  | none => .error .missing
  | some o =>
    match Object.ofJson? k (o.toJson.mergePatch change) with
    | none => .error .misshapen
    | some o => .ok (c.place o)

end Cluster

end VolumeMigration
