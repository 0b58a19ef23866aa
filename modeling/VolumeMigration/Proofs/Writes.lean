import VolumeMigration.Proofs.Sides
/-!
# What is written on the way

A cluster's log tells what was written between two of its states
(`Cluster.Logs`). A creation writes to keys of its own and replaces at most what
it has leave to replace, wherever it ends (`Attempt.Writes`), and what turns it
down is a rule of the cluster (`Attempt.Creates`). One lemma for each operation
says so, and what is put together from them does the same.
-/

namespace VolumeMigration

open Attempt

/-- The input is turned down. -/
def Failure.isRejection : Failure → Bool
  | validation _ | configuration _ => true
  | _ => false

/-- Where the written object is kept. -/
def LogEntry.key (e : LogEntry) : Key := ⟨e.kind, e.object.ns, e.object.name⟩

namespace Cluster

variable {own replaced own' replaced' : Key → Prop} {c c' c'' : Cluster} {key : Key} {o : Object} {ns : String}

/-! ## From one state to another -/

/-- Something was written under the key on the way from the first state to the second one. -/
def Logs (c c' : Cluster) (key : Key) : Prop := ∃ entries, c'.log = c.log ++ entries ∧ ∃ e ∈ entries, e.key = key

/-- On the way from the first state to the second one only keys of `own` were written, and under each
something is kept. What was there is there as it was, except what was replaced under keys of `replaced`. -/
structure Advances (own replaced : Key → Prop) (c c' : Cluster) : Prop where
  refusals : c'.refusals = c.refusals
  faults : c'.faults = c.faults
  logged : ∃ entries, c'.log = c.log ++ entries ∧ ∀ e ∈ entries, own e.key ∧ c'.objects.contains e.key = true
  kept : ∀ key o, c.objects.get? key = some o →
    c'.objects.get? key = some o ∨ replaced key ∧ c'.objects.contains key = true

namespace Advances

theorem refl (c : Cluster) : c.Advances own replaced c := ⟨rfl, rfl, ⟨[], by simp⟩, fun _ _ h => .inl h⟩

theorem mono (h : c.Advances own replaced c') (hown : ∀ key, own key → own' key)
    (hreplaced : ∀ key, replaced key → replaced' key) : c.Advances own' replaced' c' := by
  obtain ⟨entries, hlog, hall⟩ := h.logged
  refine ⟨h.refusals, h.faults, ⟨entries, hlog, fun e he => ⟨hown _ (hall e he).1, (hall e he).2⟩⟩, fun key o ho => ?_⟩
  rcases h.kept key o ho with hsame | ⟨hkey, hthere⟩
  · exact .inl hsame
  · exact .inr ⟨hreplaced key hkey, hthere⟩

/-- What is kept under a key is not removed. -/
theorem contains (h : c.Advances own replaced c') (hkey : c.objects.contains key = true) :
    c'.objects.contains key = true := by
  obtain ⟨o, ho⟩ := Option.isSome_iff_exists.1 hkey
  rcases h.kept key o ho with hsame | ⟨-, hthere⟩
  · rw [SortedMap.contains, hsame]
    rfl
  · exact hthere

theorem trans (h : c.Advances own replaced c') (h' : c'.Advances own replaced c'') : c.Advances own replaced c'' := by
  obtain ⟨before, hbefore, hall⟩ := h.logged
  obtain ⟨after, hafter, hall'⟩ := h'.logged
  refine ⟨h'.refusals.trans h.refusals, h'.faults.trans h.faults, ⟨before ++ after, ?_, fun e he => ?_⟩,
    fun key o ho => ?_⟩
  · rw [hafter, hbefore, List.append_assoc]
  · rcases List.mem_append.1 he with he | he
    · exact ⟨(hall e he).1, h'.contains (hall e he).2⟩
    · exact hall' e he
  · rcases h.kept key o ho with hsame | ⟨hkey, hthere⟩
    · exact h'.kept key o hsame
    · exact .inr ⟨hkey, h'.contains hthere⟩

theorem injects_iff (h : c.Advances own replaced c') (f : Failure) : c'.Injects f ↔ c.Injects f := by
  unfold Injects fault?
  rw [h.refusals, h.faults]

/-- Every key that was written is one of `own`, and something is kept under it. -/
theorem of_logs (h : c.Advances own replaced c') (hkey : Logs c c' key) : own key ∧ c'.objects.contains key = true := by
  obtain ⟨entries, hlog, hall⟩ := h.logged
  obtain ⟨entries', hlog', e, he, rfl⟩ := hkey
  rw [List.append_cancel_left (hlog.symm.trans hlog')] at hall
  exact hall e he

/-- What is kept under a key that may not be replaced stays as it was. -/
theorem get?_eq (h : c.Advances own replaced c') (hthere : c.objects.contains key = true) (hkey : ¬replaced key) :
    c'.objects.get? key = c.objects.get? key := by
  obtain ⟨o, ho⟩ := Option.isSome_iff_exists.1 hthere
  rcases h.kept key o ho with hsame | ⟨hreplaced, -⟩
  · rw [hsame, ho]
  · exact absurd hreplaced hkey

end Advances

theorem Logs.trans (h : Logs c c' key) (h' : c'.Advances own replaced c'') : Logs c c'' key := by
  obtain ⟨entries, hlog, e, he, hkey⟩ := h
  obtain ⟨after, hafter, -⟩ := h'.logged
  exact ⟨entries ++ after, by rw [hafter, hlog, List.append_assoc], e, List.mem_append_left after he, hkey⟩

theorem Logs.of_later (h : c.Advances own replaced c') (h' : Logs c' c'' key) : Logs c c'' key := by
  obtain ⟨before, hbefore, -⟩ := h.logged
  obtain ⟨entries, hlog, e, he, hkey⟩ := h'
  exact ⟨before ++ entries, by rw [hlog, hbefore, List.append_assoc], e, List.mem_append_right before he, hkey⟩

theorem log_wrote (hns : o.metadata.ns = some ns) (operation : Operation) :
    ∃ e : LogEntry, (c.wrote operation ns o).log = c.log ++ [e] ∧ e.key = o.key := by
  refine ⟨_, rfl, ?_⟩
  simp only [LogEntry.key, Object.key, Object.objectName, hns, Option.getD_some]
  rfl

theorem logs_wrote (hns : o.metadata.ns = some ns) (operation : Operation) : Logs c (c.wrote operation ns o) o.key := by
  obtain ⟨e, hlog, hkey⟩ := log_wrote hns operation
  exact ⟨[e], hlog, e, List.mem_singleton_self e, hkey⟩

theorem advances_wrote (hns : o.metadata.ns = some ns) (operation : Operation) :
    c.Advances (· = o.key) (· = o.key) (c.wrote operation ns o) := by
  have hself : (c.wrote operation ns o).objects.contains o.key = true := by
    rw [SortedMap.contains, get?_wrote_self]
    rfl
  obtain ⟨e, hlog, hkey⟩ := log_wrote (c := c) hns operation
  refine ⟨rfl, rfl, ⟨[e], hlog, fun e' he => ?_⟩, fun key a ha => ?_⟩
  · rw [List.mem_singleton.1 he, hkey]
    exact ⟨rfl, hself⟩
  · by_cases hk : key = o.key
    · exact .inr ⟨hk, hk ▸ hself⟩
    · exact .inl ((c.get?_wrote_of_ne operation ns o hk).trans ha)

/-- An attempt to write takes a version, even if it fails. -/
theorem advances_version (c : Cluster) (n : Nat) : c.Advances own replaced { c with version := n } :=
  ⟨rfl, rfl, ⟨[], by simp⟩, fun _ _ h => .inl h⟩

end Cluster

/-! ## Attempts -/

namespace Attempt

variable {α β : Type} {own replaced own' replaced' : Key → Prop} {c c' : Cluster} {key : Key} {o : Object} {ns : String}

/-- Wherever the attempt ends, it wrote keys of `own` and replaced keys of `replaced` only. -/
def Writes (own replaced : Key → Prop) (a : Attempt Cluster α) : Prop :=
  ∀ c : Cluster, c.Advances own replaced (outcome a c).2

/-- An attempt that writes, and that turns nothing down unless a rule of the cluster does. -/
structure Creates (own replaced : Key → Prop) (a : Attempt Cluster α) : Prop where
  writes : a.Writes own replaced
  rejected : ∀ c f, (outcome a c).1 = .error f → f.isRejection = true → c.Injects f

theorem Reads.writes {a : Attempt Cluster α} (h : Reads a) : a.Writes own replaced := by
  intro c
  rw [h c]
  exact .refl c

theorem Writes.bind {a : Attempt Cluster α} {k : α → Attempt Cluster β} (ha : a.Writes own replaced)
    (hk : ∀ x, (k x).Writes own replaced) : (a >>= k).Writes own replaced := by
  intro c
  have hfirst := ha c
  rw [outcome_bind]
  rcases h : outcome a c with ⟨f | x, c₁⟩
  · rwa [h] at hfirst
  · rw [h] at hfirst
    exact hfirst.trans (hk x c₁)

namespace Creates

theorem mono {a : Attempt Cluster α} (h : a.Creates own replaced) (hown : ∀ key, own key → own' key)
    (hreplaced : ∀ key, replaced key → replaced' key) : a.Creates own' replaced' :=
  ⟨fun c => (h.writes c).mono hown hreplaced, h.rejected⟩

theorem pure (x : α) : (Pure.pure x : Attempt Cluster α).Creates own replaced :=
  ⟨(Reads.pure x).writes, fun _ _ h => nomatch h⟩

theorem bind {a : Attempt Cluster α} {k : α → Attempt Cluster β} (ha : a.Creates own replaced)
    (hk : ∀ x, (k x).Creates own replaced) : (a >>= k).Creates own replaced := by
  refine ⟨ha.writes.bind fun x => (hk x).writes, fun c f hf hrejects => ?_⟩
  rw [outcome_bind] at hf
  rcases h : outcome a c with ⟨g | x, c₁⟩
  · rw [h] at hf
    cases hf
    exact ha.rejected c f (by rw [h]) hrejects
  · rw [h] at hf
    have hfirst := ha.writes c
    rw [h] at hfirst
    exact (hfirst.injects_iff f).1 ((hk x).rejected c₁ f hf hrejects)

theorem inOrder {as : List (Attempt Cluster Unit)} (h : ∀ a ∈ as, a.Creates own replaced) :
    (Attempt.inOrder as).Creates own replaced := by
  induction as with
  | nil => exact .pure ()
  | cons a as ih => exact .bind (h a List.mem_cons_self) fun _ => ih fun b hb => h b (List.mem_cons_of_mem a hb)

/-- The parts of a group may fail in any way: what is reported is that they were not all created. -/
theorem all (resource : String) {parts : List (Attempt Cluster Unit)} (h : ∀ a ∈ parts, a.Writes own replaced) :
    (Attempt.all resource parts).Creates own replaced := by
  have hcaught : (parts.mapM caught).Creates own replaced := by
    induction parts with
    | nil => exact .pure []
    | cons a as ih =>
      rw [List.mapM_cons]
      refine .bind ⟨fun c => h a List.mem_cons_self c, fun _ _ hf => nomatch hf⟩ fun r => ?_
      exact .bind (ih fun b hb => h b (List.mem_cons_of_mem a hb)) fun rs => .pure _
  refine .bind hcaught fun outcomes => ⟨(Reads.ofResult _).writes, fun c f hf hrejects => ?_⟩
  rw [outcome_ofResult, Failure.checkPartial] at hf
  split at hf
  · cases hf
  · cases hf
    cases hrejects

end Creates

end Attempt

/-! ## Operations of a cluster -/

namespace Cluster

open Attempt

variable {own replaced : Key → Prop} {c c' : Cluster} {key : Key} {o x : Object} {ns : String}

/-- What can become of an attempt to write an object: it is turned away before it reaches the objects, or it
fails on what is there, or the object is written. -/
inductive WriteOutcome (operation : Operation) (o : Object) (c : Cluster) : Result Object × Cluster → Prop where
  | turnedAway {f : Failure} (h : c.admits operation o = .error f) : WriteOutcome operation o c (.error f, c)
  | failed {f : Failure} (h : f.isRejection = false) :
    WriteOutcome operation o c (.error f, { c with version := c.version + 1 })
  | written {ns : String} (x : Object) (h : c.admits operation o = .ok ns) :
    WriteOutcome operation o c (.ok x, c.wrote operation ns o)

theorem writeOutcome_create (c : Cluster) (o : Object) : WriteOutcome .create o c (outcome (create o) c) := by
  rw [create_outcome]
  cases ha : c.admits .create o with
  | error f => exact .turnedAway ha
  | ok ns =>
    by_cases hc : c.objects.contains o.key = true
    · simp only [hc, if_true]
      exact .failed rfl
    · simp only [hc]
      exact .written _ ha

theorem writeOutcome_update (c : Cluster) (o : Object) : WriteOutcome .update o c (outcome (update o) c) := by
  rw [update_outcome]
  cases ha : c.admits .update o with
  | error f => exact .turnedAway ha
  | ok ns =>
    by_cases hc : c.objects.contains o.key = true
    · simp only [hc, if_true]
      exact .written _ ha
    · simp only [hc]
      exact .failed rfl

namespace WriteOutcome

variable {operation : Operation} {f : Failure} {done : Result Object × Cluster}

theorem advances (h : WriteOutcome operation o c done) : c.Advances (· = o.key) (· = o.key) done.2 := by
  cases h with
  | turnedAway _ => exact .refl c
  | failed _ => exact c.advances_version _
  | written x ha => exact advances_wrote (admits_eq_ok ha) operation

/-- An object with a namespace is turned down by a rule only. -/
theorem injects (h : WriteOutcome operation o c done) (hns : o.metadata.ns = some ns) (hf : done.1 = .error f)
    (hrejects : f.isRejection = true) : c.Injects f := by
  cases h with
  | turnedAway ha =>
    cases hf
    exact admits_eq_error ha hns
  | failed hother =>
    cases hf
    rw [hother] at hrejects
    cases hrejects
  | written x ha => cases hf

/-- A write that succeeds is logged. -/
theorem logs (h : WriteOutcome operation o c done) (hok : done.1 = .ok x) : Logs c done.2 o.key := by
  cases h with
  | turnedAway _ => cases hok
  | failed _ => cases hok
  | written x ha => exact logs_wrote (admits_eq_ok ha) operation

end WriteOutcome

theorem creates_create (hns : o.metadata.ns = some ns) : (create o).Creates (· = o.key) fun _ => False := by
  refine ⟨fun c => ?_, fun c f hf => (writeOutcome_create c o).injects hns hf⟩
  have hadvances := (writeOutcome_create c o).advances
  exact ⟨hadvances.refusals, hadvances.faults, hadvances.logged, fun key a ha => .inl (c.create_grows o key a ha)⟩

theorem creates_update (hns : o.metadata.ns = some ns) : (update o).Creates (· = o.key) (· = o.key) :=
  ⟨fun c => (writeOutcome_update c o).advances, fun c _ hf => (writeOutcome_update c o).injects hns hf⟩

theorem creates_find? (k : Kind) (n : ObjectName) : (find? k n).Creates own replaced := by
  refine ⟨(find?_reads k n).writes, fun c f hf hrejects => ?_⟩
  rw [find?_outcome] at hf
  cases hr : c.refusal? .get k n.name with
  | some g =>
    rw [hr] at hf
    cases hf
    exact injects_of_refusal hr
  | none =>
    cases hfault : c.fault? .get k n.name with
    | some g =>
      simp only [hr, hfault] at hf
      cases hf
      exact .inr ⟨_, _, _, hfault⟩
    | none =>
      simp only [hr, hfault] at hf
      cases hget : c.objects.get? ⟨k, n.ns, n.name⟩ with
      | none =>
        rw [hget] at hf
        cases hf
      | some a =>
        simp only [hget, readAs] at hf
        split at hf <;> cases hf
        cases hrejects

theorem creates_createOrUpdate (hns : o.metadata.ns = some ns) :
    (createOrUpdate o).Creates (· = o.key) (· = o.key) := by
  unfold createOrUpdate Object.namespace?
  rw [hns]
  refine .bind (.pure ns) fun ns' => .bind (creates_find? _ _) fun found => ?_
  cases found with
  | none => exact (creates_create hns).mono (fun _ h => h) fun _ h => h.elim
  | some existing => exact creates_update (o := o.withVersion existing.metadata.resourceVersion) hns

theorem create_logs (h : outcome (create o) c = (.ok x, c')) : Logs c c' o.key := by
  have hlogs := (writeOutcome_create c o).logs (x := x)
  rw [h] at hlogs
  exact hlogs rfl

theorem update_logs (h : outcome (update o) c = (.ok x, c')) : Logs c c' o.key := by
  have hlogs := (writeOutcome_update c o).logs (x := x)
  rw [h] at hlogs
  exact hlogs rfl

theorem createOrUpdate_logs (h : outcome (createOrUpdate o) c = (.ok x, c')) : Logs c c' o.key := by
  unfold createOrUpdate at h
  obtain ⟨ns, s, hns, h⟩ := bind_eq_ok.1 h
  obtain ⟨-, rfl⟩ := Prod.mk.inj hns
  obtain ⟨found, c₁, hfind, h⟩ := bind_eq_ok.1 h
  obtain rfl := (find?_reads _ _).state_eq hfind
  cases found with
  | none => exact create_logs h
  | some existing => exact update_logs (o := o.withVersion existing.metadata.resourceVersion) h

end Cluster

/-! ## Several objects -/

section Several

variable {own replaced : Key → Prop} {c c' : Cluster} {os : List Object} {make : Object → Attempt Cluster Unit}

theorem creates_inOrder_map (h : ∀ o ∈ os, (make o).Creates own replaced) :
    (inOrder (os.map make)).Creates own replaced := by
  apply Creates.inOrder
  intro a ha
  obtain ⟨o, ho, rfl⟩ := List.mem_map.1 ha
  exact h o ho

/-- Objects that are made one after the other are all logged. -/
theorem logs_inOrder (hcreates : ∀ o ∈ os, (make o).Creates own replaced)
    (hlogs : ∀ o c c', outcome (make o) c = (.ok (), c') → Cluster.Logs c c' o.key)
    (h : outcome (inOrder (os.map make)) c = (.ok (), c')) : ∀ o ∈ os, Cluster.Logs c c' o.key := by
  induction os generalizing c with
  | nil => simp
  | cons o os ih =>
    have hlater : ∀ o' ∈ os, (make o').Creates own replaced := fun o' ho' => hcreates o' (List.mem_cons_of_mem o ho')
    rw [List.map_cons, inOrder_cons_ok] at h
    obtain ⟨c₁, hfirst, hrest⟩ := h
    intro o' ho'
    rcases List.mem_cons.1 ho' with rfl | ho'
    · have hadvances := (creates_inOrder_map hlater).writes c₁
      rw [hrest] at hadvances
      exact (hlogs _ c c₁ hfirst).trans hadvances
    · have hadvances := (hcreates o List.mem_cons_self).writes c
      rw [hfirst] at hadvances
      exact .of_later hadvances (ih hlater hrest o' ho')

theorem Endpoint.creates_createObject {o : Object} {ns : String} (hns : o.metadata.ns = some ns) :
    (Endpoint.createObject o).Creates (· = o.key) fun _ => False :=
  .bind (Cluster.creates_create hns) fun _ => .pure ()

theorem Endpoint.createObject_logs (o : Object) (c c' : Cluster)
    (h : outcome (Endpoint.createObject o) c = (.ok (), c')) : Cluster.Logs c c' o.key := by
  obtain ⟨x, c₁, hcreate, h⟩ := bind_eq_ok.1 h
  cases h
  exact Cluster.create_logs hcreate

/-- The keys of an endpoint's objects. -/
def Endpoint.HasKey (e : Endpoint) (key : Key) : Prop :=
  key.kind ∈ e.kinds ∧ key.ns = e.name.ns ∧ key.name = e.name.name

theorem Endpoint.writes_createObject {e : Endpoint} {o : Object} (hns : o.metadata.ns = some e.name.ns)
    (hname : o.lookupName = e.name.name) (hkind : o.kind ∈ e.kinds) :
    (Endpoint.createObject o).Writes e.HasKey fun _ => False := by
  refine ((Endpoint.creates_createObject hns).mono ?_ fun _ h => h).writes
  rintro key rfl
  exact ⟨hkind, by simp [Object.key, Object.objectName, hns], hname⟩

theorem Endpoint.creates_create (e : Endpoint) : e.create.Creates e.HasKey fun _ => False := by
  apply Creates.all
  intro a ha
  rcases List.mem_cons.1 ha with rfl | ha
  · refine Endpoint.writes_createObject rfl rfl ?_
    unfold Endpoint.kinds
    cases e.type <;> exact List.mem_cons_self
  · unfold Endpoint.createRouters at ha
    cases hentry : e.entry with
    | route termination subdomain hostname =>
      rw [hentry] at ha
      obtain rfl := List.mem_singleton.1 ha
      refine (Endpoint.routeHost_reads e subdomain).writes.bind fun host => Endpoint.writes_createObject rfl rfl ?_
      simp [Endpoint.kinds, Endpoint.type, hentry, Endpoint.route, Object.kind, Content.kind]
    | ingress className hostname =>
      rw [hentry] at ha
      obtain rfl := List.mem_singleton.1 ha
      refine Endpoint.writes_createObject rfl rfl ?_
      simp [Endpoint.kinds, Endpoint.type, hentry, Endpoint.ingress, Object.kind, Content.kind]
    | clusterIP | nodePort _ _ | loadBalancer _ =>
      rw [hentry] at ha
      cases ha

theorem Stunnel.creates_write {o : Object} (ho : o ∈ os) {ns : String} (hns : o.metadata.ns = some ns) :
    (do let _ ← Cluster.createOrUpdate o : Attempt Cluster Unit).Creates
      (· ∈ os.map Object.key) (· ∈ os.map Object.key) := by
  have hkey : ∀ key, key = o.key → key ∈ os.map Object.key := by
    rintro key rfl
    exact List.mem_map_of_mem ho
  exact .bind ((Cluster.creates_createOrUpdate hns).mono hkey hkey) fun _ => .pure ()

/-- The files of a tunnel are written, whatever is kept under their keys. -/
theorem Stunnel.creates_writeAll (h : ∀ o ∈ os, ∃ ns, o.metadata.ns = some ns) :
    (Stunnel.writeAll os).Creates (· ∈ os.map Object.key) (· ∈ os.map Object.key) := by
  apply creates_inOrder_map
  intro o ho
  obtain ⟨ns, hns⟩ := h o ho
  exact Stunnel.creates_write ho hns

theorem Stunnel.writeAll_logs (h : ∀ o ∈ os, ∃ ns, o.metadata.ns = some ns)
    (hok : outcome (Stunnel.writeAll os) c = (.ok (), c')) : ∀ o ∈ os, Cluster.Logs c c' o.key := by
  have hcreates : ∀ o ∈ os, (do let _ ← Cluster.createOrUpdate o : Attempt Cluster Unit).Creates
      (· ∈ os.map Object.key) (· ∈ os.map Object.key) := by
    intro o ho
    obtain ⟨ns, hns⟩ := h o ho
    exact Stunnel.creates_write ho hns
  refine logs_inOrder hcreates (fun o c c' hwrite => ?_) hok
  obtain ⟨x, c₁, hwritten, hpure⟩ := bind_eq_ok.1 hwrite
  cases hpure
  exact Cluster.createOrUpdate_logs hwritten

end Several

end VolumeMigration
