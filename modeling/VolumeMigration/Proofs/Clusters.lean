import VolumeMigration.Cluster.Store
import VolumeMigration.Proofs.Attempts
import VolumeMigration.Proofs.Maps
/-!
# What a cluster does

One equation for each operation of a cluster (`create_outcome`,
`update_outcome`, `find?_outcome`, `list_outcome`). A write changes one key, and a cluster that
keeps every object under its own key (`WellKept`) goes on doing so. Versions
aside, objects are compared by `Object.Alike`.
-/

namespace VolumeMigration

open Attempt

theorem Content.apiVersion_eq (c : Content) (h : c.kind ≠ .ingress) : c.apiVersion = c.kind.apiVersion := by
  cases c with
  | clusterIngress spec => exact absurd rfl h
  | _ => rfl

/-! ## Objects up to their versions -/

namespace Object

/-- Objects that differ in their versions at most. -/
def Alike (a b : Object) : Prop := a.withVersion none = b.withVersion none

theorem Alike.refl (a : Object) : a.Alike a := rfl

theorem Alike.symm {a b : Object} (h : a.Alike b) : b.Alike a := Eq.symm h

theorem Alike.trans {a b c : Object} (h : a.Alike b) (h' : b.Alike c) : a.Alike c := Eq.trans h h'

theorem withVersion_alike (a : Object) (version : Option String) : (a.withVersion version).Alike a := rfl

theorem Alike.eq_withVersion {a b : Object} (h : a.Alike b) : a = b.withVersion a.metadata.resourceVersion :=
  congrArg (·.withVersion a.metadata.resourceVersion) h

theorem Alike.content_eq {a b : Object} (h : a.Alike b) : a.content = b.content := congrArg (·.content) h

theorem Alike.key_eq {a b : Object} (h : a.Alike b) : a.key = b.key := congrArg (·.key) h

theorem Alike.labelMap_eq {a b : Object} (h : a.Alike b) : a.labelMap = b.labelMap := congrArg (·.labelMap) h

theorem Alike.rest_eq {a b : Object} (h : a.Alike b) : a.rest = b.rest := congrArg (·.rest) h

theorem Alike.annotations_eq {a b : Object} (h : a.Alike b) : a.metadata.annotations = b.metadata.annotations :=
  congrArg (·.metadata.annotations) h

theorem Alike.owners_eq {a b : Object} (h : a.Alike b) : a.metadata.owners = b.metadata.owners :=
  congrArg (·.metadata.owners) h

theorem Alike.annotation?_eq {a b : Object} (h : a.Alike b) (key : String) :
    a.metadata.annotation? key = b.metadata.annotation? key := by
  unfold Metadata.annotation?
  rw [h.annotations_eq]

@[simp] theorem key_withVersion (a : Object) (version : Option String) : (a.withVersion version).key = a.key := rfl

end Object

namespace Cluster

/-! ## States -/

/-- Every object is kept under its own kind, namespace and name. -/
def WellKept (c : Cluster) : Prop := ∀ key o, c.objects.get? key = some o → o.key = key

theorem get?_place (c : Cluster) (o : Object) (key : Key) :
    (c.place o).objects.get? key = if key = o.key then some o else c.objects.get? key :=
  SortedMap.get?_insert c.objects key o.key o

theorem wellKept_empty : ({} : Cluster).WellKept := by
  intro key o h
  cases h

theorem WellKept.place {c : Cluster} (hc : c.WellKept) (o : Object) : (c.place o).WellKept := by
  intro key o' h
  rw [get?_place] at h
  split at h
  · rename_i hk
    cases h
    exact hk.symm
  · exact hc key o' h

/-- An object is served by the API of the kind that it is kept under. Two kinds of ingresses share a kind here. -/
theorem WellKept.served {c : Cluster} {o : Object} {key : Key} (hc : c.WellKept) (ho : c.objects.get? key = some o)
    (hkind : key.kind ≠ .ingress) : o.content.apiVersion = key.kind.apiVersion := by
  obtain rfl := hc key o ho
  exact o.content.apiVersion_eq hkind

/-- The one object of a cluster. -/
theorem eq_of_get?_place_empty {o o' : Object} {key : Key} (h : (({} : Cluster).place o).objects.get? key = some o') :
    o' = o := by
  rw [get?_place] at h
  split at h
  · exact (Option.some.inj h).symm
  · cases h

/-- A failure that a rule of the cluster answers with. -/
def Injects (c : Cluster) (f : Failure) : Prop :=
  (∃ r ∈ c.refusals, r.2 = f) ∨ ∃ operation kind name, c.fault? operation kind name = some f

theorem injects_of_refusal {c : Cluster} {operation : Operation} {k : Kind} {name : String} {f : Failure}
    (h : c.refusal? operation k name = some f) : c.Injects f := by
  unfold refusal? at h
  obtain ⟨r, hr, rfl⟩ := Option.map_eq_some_iff.1 h
  exact .inl ⟨r, List.mem_of_find?_eq_some hr, rfl⟩

/-- The cluster with an object that took the next version. -/
def wrote (c : Cluster) (operation : Operation) (ns : String) (o : Object) : Cluster :=
  record { c with version := c.version + 1 } operation ns (o.withVersion (some (Nat.repr (c.version + 1))))

section Wrote
variable (c : Cluster) (operation : Operation) (ns : String) (o : Object)

theorem get?_wrote_self : (c.wrote operation ns o).objects.get? o.key =
    some (o.withVersion (some (Nat.repr (c.version + 1)))) :=
  SortedMap.get?_insert_self c.objects o.key _

theorem get?_wrote_of_ne {key : Key} (h : key ≠ o.key) :
    (c.wrote operation ns o).objects.get? key = c.objects.get? key :=
  SortedMap.get?_insert_of_ne c.objects _ h

theorem WellKept.wrote {c : Cluster} (hc : c.WellKept) (operation : Operation) (ns : String) (o : Object) :
    (c.wrote operation ns o).WellKept := by
  intro key o' h
  by_cases hk : key = o.key
  · rw [hk, get?_wrote_self] at h
    cases h
    exact hk.symm
  · rw [get?_wrote_of_ne c operation ns o hk] at h
    exact hc key o' h

end Wrote

/-! ## Writing -/

/-- The namespace that an object is written to, unless the operation fails before it reaches the
objects. -/
def admits (c : Cluster) (operation : Operation) (o : Object) : Result String :=
  match c.refusal? operation o.kind o.lookupName, o.namespace?, c.fault? operation o.kind o.lookupName with
  | some f, _, _ => .error f
  | none, .error f, _ => .error f
  | none, .ok _, some f => .error f
  | none, .ok ns, none => .ok ns

theorem admits_eq_ok {c : Cluster} {operation : Operation} {o : Object} {ns : String}
    (h : c.admits operation o = .ok ns) : o.metadata.ns = some ns := by
  unfold admits Object.namespace? at h
  split at h <;> simp_all
  split at * <;> simp_all

/-- An object with a namespace is turned away by a rule only. -/
theorem admits_eq_error {c : Cluster} {operation : Operation} {o : Object} {f : Failure} {ns : String}
    (h : c.admits operation o = .error f) (hns : o.metadata.ns = some ns) : c.Injects f := by
  unfold admits Object.namespace? at h
  rw [hns] at h
  cases hr : c.refusal? operation o.kind o.lookupName with
  | some g =>
    rw [hr] at h
    cases h
    exact injects_of_refusal hr
  | none =>
    cases hf : c.fault? operation o.kind o.lookupName with
    | some g =>
      simp only [hr, hf] at h
      cases h
      exact .inr ⟨_, _, _, hf⟩
    | none => simp [hr, hf] at h

theorem outcome_failWith (f? : Option Failure) (c : Cluster) :
    outcome (failWith f?) c = (match f? with | some f => .error f | none => .ok (), c) := by
  cases f? <;> rfl

theorem update_outcome (c : Cluster) (o : Object) : outcome (update o) c = match c.admits .update o with
    | .error f => (.error f, c)
    | .ok ns =>
      if c.objects.contains o.key then
        (.ok (o.withVersion (some (Nat.repr (c.version + 1)))), c.wrote .update ns o)
      else (.error (.notFound o.kind.name ⟨ns, o.lookupName⟩), { c with version := c.version + 1 }) := by
  unfold update admits
  simp only [outcome_bind, outcome_get, outcome_failWith, outcome_ofResult, outcome_modify]
  cases hr : c.refusal? .update o.kind o.lookupName with
  | some f => rfl
  | none =>
    cases hn : o.namespace? with
    | error f => rfl
    | ok ns =>
      cases hf : c.fault? .update o.kind o.lookupName with
      | some f => simp only [hf]
      | none => cases hc : c.objects.contains o.key <;> simp [hc, hf, wrote, Except.map]

theorem create_outcome (c : Cluster) (o : Object) : outcome (create o) c = match c.admits .create o with
    | .error f => (.error f, c)
    | .ok ns =>
      if c.objects.contains o.key then
        (.error (.conflict o.kind.name ⟨ns, o.lookupName⟩), { c with version := c.version + 1 })
      else (.ok (o.withVersion (some (Nat.repr (c.version + 1)))), c.wrote .create ns o) := by
  unfold create admits
  simp only [outcome_bind, outcome_get, outcome_failWith, outcome_ofResult, outcome_modify]
  cases hr : c.refusal? .create o.kind o.lookupName with
  | some f => rfl
  | none =>
    cases hn : o.namespace? with
    | error f => rfl
    | ok ns =>
      cases hf : c.fault? .create o.kind o.lookupName with
      | some f => simp only [hf]
      | none => cases hc : c.objects.contains o.key <;> simp [hc, hf, wrote, Except.map]

/-! ## Reading -/

theorem find?_outcome (c : Cluster) (k : Kind) (n : ObjectName) :
    outcome (find? k n) c = match c.refusal? .get k n.name, c.fault? .get k n.name with
    | some f, _ => (.error f, c)
    | none, some f => (.error f, c)
    | none, none =>
      (match c.objects.get? ⟨k, n.ns, n.name⟩ with | none => .ok none | some o => (readAs k o).map some, c) := by
  unfold find?
  simp only [outcome_bind, outcome_get, outcome_failWith]
  cases c.refusal? .get k n.name with
  | some f => rfl
  | none =>
    cases c.fault? .get k n.name with
    | some f => rfl
    | none =>
      cases c.objects.get? ⟨k, n.ns, n.name⟩ with
      | none => rfl
      | some o =>
        simp only [outcome_bind, outcome_ofResult]
        cases readAs k o <;> rfl

/-- What is found is what is kept, as it is. -/
theorem find?_eq_ok {c c' : Cluster} {k : Kind} {n : ObjectName} {found : Option Object}
    (h : outcome (find? k n) c = (.ok found, c')) : c' = c ∧ found = c.objects.get? ⟨k, n.ns, n.name⟩ := by
  rw [find?_outcome] at h
  cases hrefusal : c.refusal? .get k n.name with
  | some f => simp [hrefusal] at h
  | none =>
    cases hfault : c.fault? .get k n.name with
    | some f => simp [hrefusal, hfault] at h
    | none =>
      simp only [hrefusal, hfault, Prod.mk.injEq] at h
      obtain ⟨hfound, rfl⟩ := h
      refine ⟨rfl, ?_⟩
      cases hkept : c.objects.get? ⟨k, n.ns, n.name⟩ with
      | none =>
        rw [hkept] at hfound
        cases hfound
        rfl
      | some o =>
        simp only [hkept, readAs] at hfound
        split at hfound <;> cases hfound
        rfl

/-! ## Listing -/

theorem list_outcome (c : Cluster) (k : Kind) (ns : String) (selector : Option String) :
    outcome (list k ns selector) c = match c.refusal? .list k "", c.fault? .list k "" with
    | some f, _ => (.error f, c)
    | none, some f => (.error f, c)
    | none, none => (.ok (c.matching k ns selector), c) := by
  unfold list
  simp only [outcome_bind, outcome_get, outcome_failWith]
  cases c.refusal? .list k "" <;> cases c.fault? .list k "" <;> rfl

/-- Without a selector every object of the kind in the namespace is listed, and no other. -/
theorem mem_matching {c : Cluster} (hc : c.WellKept) {k : Kind} {ns : String} {o : Object} :
    o ∈ c.matching k ns none ↔ c.objects.get? o.key = some o ∧ o.key.kind = k ∧ o.key.ns = ns := by
  simp only [matching, Option.all_none, List.mem_map, List.mem_filter, Bool.and_eq_true, beq_iff_eq,
    SortedMap.toList, Prod.exists, and_true]
  constructor
  · rintro ⟨key, o, ⟨hm, hk, hn⟩, rfl⟩
    have hget := (SortedMap.mem_entries_iff c.objects key o).1 hm
    rw [hc key o hget]
    exact ⟨hget, hk, hn⟩
  · rintro ⟨hget, hk, hn⟩
    exact ⟨o.key, o, ⟨(SortedMap.mem_entries_iff c.objects _ o).2 hget, hk, hn⟩, rfl⟩

/-- No key is listed twice. -/
theorem nodup_matching {c : Cluster} (hc : c.WellKept) (k : Kind) (ns : String) (selector : Option String) :
    ((c.matching k ns selector).map Object.key).Nodup := by
  have hkeys : ∀ e ∈ c.objects.toList.filter (fun e => e.1.kind == k && e.1.ns == ns), e.2.key = e.1 := by
    intro e he
    exact hc e.1 e.2 ((SortedMap.mem_entries_iff c.objects e.1 e.2).1 (List.mem_filter.1 he).1)
  unfold matching
  refine List.Sublist.nodup (List.filter_sublist.map _) ?_
  rw [List.map_map, List.map_congr_left (g := (·.1)) hkeys]
  exact List.Sublist.nodup (List.filter_sublist.map _) (SortedMap.nodup_keys c.objects)

end Cluster

end VolumeMigration
