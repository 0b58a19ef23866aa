import VolumeMigration.Proofs.Clusters
/-!
# Clusters without rules that fail operations

Where no rule turns an operation away, what it comes to depends on the objects
alone, and the cluster has no such rule afterwards.
-/

namespace VolumeMigration.Cluster

open Attempt

/-- A cluster without a rule that fails an operation. -/
structure FailureFree (c : Cluster) : Prop where
  refusals : c.refusals = []
  faults : c.faults = []

namespace FailureFree

variable {c c' : Cluster} {o : Object} {ns : String} (h : c.FailureFree)
include h

theorem of_rules_eq (hr : c'.refusals = c.refusals) (hf : c'.faults = c.faults) : c'.FailureFree :=
  ⟨hr.trans h.refusals, hf.trans h.faults⟩

theorem wrote (operation : Operation) (ns : String) (o : Object) : (c.wrote operation ns o).FailureFree :=
  h.of_rules_eq rfl rfl

theorem refusal?_eq_none (operation : Operation) (k : Kind) (name : String) : c.refusal? operation k name = none := by
  simp [refusal?, h.refusals]

theorem fault?_eq_none (operation : Operation) (k : Kind) (name : String) : c.fault? operation k name = none := by
  simp [fault?, h.faults]

theorem not_injects (f : Failure) : ¬c.Injects f := by
  simp [Injects, h.refusals, h.fault?_eq_none]

theorem admits_eq (operation : Operation) (hns : o.metadata.ns = some ns) : c.admits operation o = .ok ns := by
  simp [admits, Object.namespace?, hns, h.refusal?_eq_none, h.fault?_eq_none]

theorem list_ok (k : Kind) (ns : String) (selector : Option String) :
    outcome (list k ns selector) c = (.ok (c.matching k ns selector), c) := by
  rw [list_outcome, h.refusal?_eq_none, h.fault?_eq_none]

theorem update_ok (hns : o.metadata.ns = some ns) (ho : c.objects.contains o.key = true) :
    outcome (update o) c = (.ok (o.withVersion (some (Nat.repr (c.version + 1)))), c.wrote .update ns o) := by
  rw [update_outcome, h.admits_eq .update hns]
  simp only [ho, if_true]

theorem create_ok (hns : o.metadata.ns = some ns) (ho : c.objects.get? o.key = none) :
    outcome (create o) c = (.ok (o.withVersion (some (Nat.repr (c.version + 1)))), c.wrote .create ns o) := by
  have habsent : c.objects.contains o.key = false := by
    rw [SortedMap.contains, ho]
    rfl
  rw [create_outcome, h.admits_eq .create hns]
  simp [habsent]

theorem find?_none {k : Kind} {n : ObjectName} (ho : c.objects.get? ⟨k, n.ns, n.name⟩ = none) :
    outcome (find? k n) c = (.ok none, c) := by
  rw [find?_outcome, h.refusal?_eq_none, h.fault?_eq_none, ho]

theorem find?_ok {k : Kind} {n : ObjectName} (ho : c.objects.get? ⟨k, n.ns, n.name⟩ = some o)
    (hserved : o.content.apiVersion = k.apiVersion) : outcome (find? k n) c = (.ok (some o), c) := by
  rw [find?_outcome, h.refusal?_eq_none, h.fault?_eq_none, ho]
  simp only [readAs, hserved, if_true, Except.map]

/-- An object that is served by its kind's API is created or updated, whatever is there. -/
theorem createOrUpdate_ok (hkept : c.WellKept) (hns : o.metadata.ns = some ns) (hkind : o.kind ≠ .ingress) :
    ∃ x c', outcome (createOrUpdate o) c = (.ok x, c') ∧ c'.FailureFree ∧ c'.WellKept := by
  have hspace : outcome (ofResult o.namespace?) c = (.ok ns, c) := by
    rw [outcome_ofResult, Object.namespace?, hns]
  have hkey : o.key = ⟨o.kind, ns, o.lookupName⟩ := by
    rw [Object.key, Object.objectName, hns, Option.getD_some]
  unfold createOrUpdate
  rw [outcome_bind_ok hspace]
  cases ho : c.objects.get? ⟨o.kind, ns, o.lookupName⟩ with
  | none =>
    rw [outcome_bind_ok (h.find?_none ho)]
    exact ⟨_, _, h.create_ok hns (hkey ▸ ho), h.wrote .., hkept.wrote _ _ _⟩
  | some existing =>
    rw [outcome_bind_ok (h.find?_ok ho (hkept.served ho hkind))]
    have hthere : c.objects.contains o.key = true := by
      rw [SortedMap.contains, hkey, ho, Option.isSome_some]
    exact ⟨_, _, h.update_ok hns hthere, h.wrote .., hkept.wrote _ _ _⟩

end FailureFree

end VolumeMigration.Cluster
