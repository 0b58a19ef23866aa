import VolumeMigration.Proofs.Writes
/-!
# Writing step by step

A creation is a list of steps, each of which writes one object or fails
(`WriteStep.ends_attempt`). What a step comes to depends on the rules of the
cluster and on the few objects that it looks at (`WriteStep.failure?_congr`), so
that steps under different keys come to in a row what each comes to in the
cluster as it was at first. Steps in order stop at the first that fails
(`ordered_inOrder`); the parts of a resource are all attempted (`outcome_all`).
-/

namespace VolumeMigration

open Attempt

/-- One write of a creation. -/
inductive WriteStep where
  /-- An object that may not exist. -/
  | create (o : Object)
  /-- An object that is updated if it exists. -/
  | upsert (o : Object)
  /-- The route of an endpoint, whose host may have to be chosen first. -/
  | route (e : Endpoint) (termination : Termination) (subdomain : Option String)

namespace WriteStep

def attempt : WriteStep → Attempt Cluster Unit
  | create o => Endpoint.createObject o
  | upsert o => do let _ ← Cluster.createOrUpdate o
  | route e termination subdomain => do Endpoint.createObject (e.route termination (← e.routeHost subdomain))

/-- The key of the object that is written. -/
def key : WriteStep → Key
  | create o | upsert o => o.key
  | route e .. => ⟨.route, e.name.ns, e.name.name⟩

/-- The key of the configuration that names the domain of the cluster's apps. -/
def appsKey : Key := ⟨.ingress, "", Endpoint.clusterIngressName⟩

/-- The keys of the objects that a step looks at. -/
def looksAt : WriteStep → List Key
  | create o | upsert o => [o.key]
  | route e .. => [⟨.route, e.name.ns, e.name.name⟩, appsKey]

/-- The object that a step writes to a cluster. -/
def object (c : Cluster) : WriteStep → Result Object
  | create o | upsert o => .ok o
  | route e termination subdomain => (outcome (e.routeHost subdomain) c).1.map (e.route termination)

/-- What a step does that succeeds: an object that may exist is updated if it does. -/
def operation (c : Cluster) : WriteStep → Operation
  | upsert o => if c.objects.contains o.key then .update else .create
  | create _ | route .. => .create

/-- What a step logs that succeeds. -/
def entry (c : Cluster) (s : WriteStep) : LogEntry := ⟨s.operation c, s.key.kind, ⟨s.key.ns, s.key.name⟩⟩

/-- The failure of a step that a cluster does not let pass. -/
def failure? (c : Cluster) (s : WriteStep) : Option Failure :=
  match (outcome s.attempt c).1 with
  | .error f => some f
  | .ok _ => none

theorem failure?_eq_some {c c' : Cluster} {s : WriteStep} {f : Failure} (h : outcome s.attempt c = (.error f, c')) :
    s.failure? c = some f := by
  rw [failure?, h]

theorem failure?_eq_none {c c' : Cluster} {s : WriteStep} (h : outcome s.attempt c = (.ok (), c')) :
    s.failure? c = none := by
  rw [failure?, h]

theorem key_mem_looksAt (s : WriteStep) : s.key ∈ s.looksAt := by
  cases s <;> exact List.mem_cons_self

theorem key_object {c : Cluster} {s : WriteStep} {o : Object} (h : s.object c = .ok o) : o.key = s.key := by
  cases s with
  | create a | upsert a =>
    cases h
    rfl
  | route e termination subdomain =>
    change (outcome (e.routeHost subdomain) c).1.map (e.route termination) = .ok o at h
    cases hhost : (outcome (e.routeHost subdomain) c).1 with
    | error f =>
      rw [hhost] at h
      cases h
    | ok host =>
      rw [hhost] at h
      cases h
      rfl

end WriteStep

theorem Object.ns_of_namespace? {o : Object} {ns : String} (h : o.namespace? = .ok ns) : o.metadata.ns = some ns := by
  unfold namespace? at h
  split at h
  · rename_i hns
    cases h
    exact hns
  · cases h

theorem Object.key_of_ns {o : Object} {ns : String} (h : o.metadata.ns = some ns) :
    o.key = ⟨o.kind, ns, o.lookupName⟩ := by
  simp [Object.key, Object.objectName, h]

/-! ## What steps look at -/

/-- After a first attempt that only reads and comes to the same in two states, the rest decides. -/
theorem Attempt.fst_outcome_bind {σ α β : Type} {a : Attempt σ α} {k : α → Attempt σ β} {s s' : σ} (hreads : Reads a)
    (hfirst : (outcome a s').1 = (outcome a s).1)
    (hrest : ∀ x, (outcome a s).1 = .ok x → (outcome (k x) s').1 = (outcome (k x) s).1) :
    (outcome (a >>= k) s').1 = (outcome (a >>= k) s).1 := by
  have hs : outcome a s = ((outcome a s).1, s) := Prod.ext rfl (hreads s)
  have hs' : outcome a s' = ((outcome a s).1, s') := Prod.ext hfirst (hreads s')
  rw [outcome_bind, outcome_bind, hs, hs']
  cases hvalue : (outcome a s).1 with
  | error f => rfl
  | ok x => exact hrest x hvalue

/-- The clusters have the same rules, and the same objects under the keys. -/
structure Cluster.AgreesOn (keys : List Key) (c c' : Cluster) : Prop where
  refusals : c'.refusals = c.refusals
  faults : c'.faults = c.faults
  objects : ∀ key ∈ keys, c'.objects.get? key = c.objects.get? key

namespace Cluster.AgreesOn

variable {keys : List Key} {c c' : Cluster} {o : Object} (h : c.AgreesOn keys c')
include h

theorem refusal? (operation : Operation) (k : Kind) (name : String) :
    c'.refusal? operation k name = c.refusal? operation k name := by
  unfold Cluster.refusal?
  rw [h.refusals]

theorem fault? (operation : Operation) (k : Kind) (name : String) :
    c'.fault? operation k name = c.fault? operation k name := by
  unfold Cluster.fault?
  rw [h.faults]

theorem admits (operation : Operation) (o : Object) : c'.admits operation o = c.admits operation o := by
  unfold Cluster.admits
  rw [h.refusal?, h.fault?]

theorem contains {key : Key} (hkey : key ∈ keys) : c'.objects.contains key = c.objects.contains key := by
  rw [SortedMap.contains, SortedMap.contains, h.objects key hkey]

theorem createObject (hkey : o.key ∈ keys) :
    (outcome (Endpoint.createObject o) c').1 = (outcome (Endpoint.createObject o) c).1 := by
  unfold Endpoint.createObject
  rw [outcome_bind, outcome_bind, create_outcome, create_outcome, h.admits, h.contains hkey]
  cases c.admits .create o with
  | error f => rfl
  | ok ns => cases c.objects.contains o.key <;> rfl

theorem updateObject (hkey : o.key ∈ keys) :
    (outcome (do let _ ← update o : Attempt Cluster Unit) c').1 =
      (outcome (do let _ ← update o : Attempt Cluster Unit) c).1 := by
  rw [outcome_bind, outcome_bind, update_outcome, update_outcome, h.admits, h.contains hkey]
  cases c.admits .update o with
  | error f => rfl
  | ok ns => cases c.objects.contains o.key <;> rfl

theorem find? {k : Kind} {n : ObjectName} (hkey : ⟨k, n.ns, n.name⟩ ∈ keys) :
    (outcome (Cluster.find? k n) c').1 = (outcome (Cluster.find? k n) c).1 := by
  rw [find?_outcome, find?_outcome, h.refusal?, h.fault?, h.objects _ hkey]
  cases c.refusal? .get k n.name with
  | some f => rfl
  | none => cases c.fault? .get k n.name <;> rfl

theorem clusterIngress? (name : String) (hkey : ⟨.ingress, "", name⟩ ∈ keys) :
    (outcome (Cluster.clusterIngress? name) c').1 = (outcome (Cluster.clusterIngress? name) c).1 := by
  unfold Cluster.clusterIngress?
  simp only [outcome_bind, outcome_get, outcome_failWith, h.refusal?, h.fault?, h.objects _ hkey]
  cases c.refusal? .get .ingress name with
  | some f => rfl
  | none =>
    cases c.fault? .get .ingress name with
    | some f => rfl
    | none =>
      cases c.objects.get? ⟨.ingress, "", name⟩ with
      | none => rfl
      | some o => cases hconfig : Object.clusterIngressOfJson? o.toJson <;> simp [hconfig]

theorem routeHost (e : Endpoint) (subdomain : Option String) (hkey : WriteStep.appsKey ∈ keys) :
    (outcome (e.routeHost subdomain) c').1 = (outcome (e.routeHost subdomain) c).1 := by
  unfold Endpoint.routeHost
  cases e.hostLabel? with
  | none => rfl
  | some label =>
    cases subdomain with
    | some domain => rfl
    | none =>
      refine fst_outcome_bind Endpoint.appsDomain_reads ?_ fun domain _ => rfl
      refine fst_outcome_bind (Endpoint.clusterIngress?_reads _) (h.clusterIngress? _ hkey) fun found _ => ?_
      cases found with
      | none => rfl
      | some o =>
        simp only
        split
        · split <;> rfl
        · rfl

/-- An object that is updated if it exists is looked for under its own key. -/
theorem writeObject (hkey : o.key ∈ keys) :
    (outcome (do let _ ← createOrUpdate o : Attempt Cluster Unit) c').1 =
      (outcome (do let _ ← createOrUpdate o : Attempt Cluster Unit) c).1 := by
  unfold createOrUpdate
  simp only [bind_assoc]
  refine fst_outcome_bind (.ofResult _) rfl fun ns hns => ?_
  have hown : o.key = ⟨o.kind, ns, o.lookupName⟩ := Object.key_of_ns (Object.ns_of_namespace? hns)
  refine fst_outcome_bind (find?_reads _ _) (h.find? (hown ▸ hkey)) fun found _ => ?_
  cases found with
  | none => exact h.createObject hkey
  | some existing => exact h.updateObject (o := o.withVersion existing.metadata.resourceVersion) hkey

end Cluster.AgreesOn

namespace WriteStep

variable {s : WriteStep} {c c' : Cluster}

theorem fst_attempt_congr (h : c.AgreesOn s.looksAt c') : (outcome s.attempt c').1 = (outcome s.attempt c).1 := by
  cases s with
  | create o => exact h.createObject List.mem_cons_self
  | upsert o => exact h.writeObject List.mem_cons_self
  | route e termination subdomain =>
    refine fst_outcome_bind (Endpoint.routeHost_reads e _) (h.routeHost e _ (by simp [looksAt])) fun host _ => ?_
    exact h.createObject List.mem_cons_self

theorem failure?_congr (h : c.AgreesOn s.looksAt c') : s.failure? c' = s.failure? c := by
  unfold failure?
  rw [fst_attempt_congr h]

theorem object_congr (h : c.AgreesOn s.looksAt c') : s.object c' = s.object c := by
  cases s with
  | create o | upsert o => rfl
  | route e termination subdomain =>
    show (outcome (e.routeHost subdomain) c').1.map _ = (outcome (e.routeHost subdomain) c).1.map _
    rw [h.routeHost e subdomain (by simp [looksAt])]

theorem entry_congr (h : c.AgreesOn s.looksAt c') : s.entry c' = s.entry c := by
  have hoperation : s.operation c' = s.operation c := by
    cases s with
    | upsert o =>
      show (if c'.objects.contains o.key then _ else _) = if c.objects.contains o.key then _ else _
      rw [h.contains List.mem_cons_self]
    | create o | route e termination subdomain => rfl
  unfold entry
  rw [hoperation]

end WriteStep

/-! ## One step -/

/-- The steps were made and nothing else: they are logged in order, their objects are there, and everything under other
keys is as it was. -/
structure Cluster.Made (c : Cluster) (steps : List WriteStep) (c' : Cluster) : Prop where
  log : c'.log = c.log ++ steps.map (·.entry c)
  holds : ∀ s ∈ steps, ∃ o, s.object c = .ok o ∧ c'.Holds o
  kept : ∀ key ∉ steps.map WriteStep.key, c'.objects.get? key = c.objects.get? key
  refusals : c'.refusals = c.refusals
  faults : c'.faults = c.faults

namespace Cluster

variable {c c' c'' : Cluster} {s : WriteStep} {steps later : List WriteStep} {o a : Object} {ns : String}

theorem made_version (c : Cluster) (n : Nat) : c.Made [] { c with version := n } :=
  ⟨by simp, by simp, fun _ _ => rfl, rfl, rfl⟩

theorem made_nothing (c : Cluster) : c.Made [] c := c.made_version c.version

/-- What is looked for is found if anything is kept under its key. -/
theorem isSome_of_find? {k : Kind} {n : ObjectName} {found : Option Object}
    (h : outcome (find? k n) c = (.ok found, c')) : found.isSome = c.objects.contains ⟨k, n.ns, n.name⟩ := by
  rw [(find?_eq_ok h).2, SortedMap.contains]

theorem made_wrote (hobject : s.object c = .ok o) (halike : a.Alike o) (hkey : a.key = s.key)
    (hns : a.metadata.ns = some ns) : c.Made [s] (c.wrote (s.operation c) ns a) where
  log := by
    show _ = c.log ++ [s.entry c]
    unfold WriteStep.entry
    rw [← hkey, Object.key_of_ns hns]
    rfl
  holds s' hs' := by
    rw [List.mem_singleton.1 hs']
    obtain ⟨b, hb, hbal⟩ := c.holds_wrote (s.operation c) ns a
    rw [hkey, ← WriteStep.key_object hobject] at hb
    exact ⟨o, hobject, b, hb, hbal.trans halike⟩
  kept key hk := by
    refine c.get?_wrote_of_ne _ ns a ?_
    rw [hkey]
    simpa using hk
  refusals := rfl
  faults := rfl

end Cluster

namespace WriteStep

/-- How a step ends: it fails and writes nothing, or it is made. -/
inductive Ends (s : WriteStep) (c : Cluster) : Result Unit × Cluster → Prop where
  | failed {f : Failure} {c' : Cluster} (h : c.Made [] c') : Ends s c (.error f, c')
  | made {c' : Cluster} (h : c.Made [s] c') : Ends s c (.ok (), c')

variable {s : WriteStep} {c : Cluster} {o : Object}

theorem ends_write {write : Attempt Cluster Object} {a : Object}
    (hwrite : Cluster.WriteOutcome (s.operation c) a c (outcome write c)) (hobject : s.object c = .ok o)
    (halike : a.Alike o) (hkey : a.key = s.key) : s.Ends c (outcome (do let _ ← write : Attempt Cluster Unit) c) := by
  rw [outcome_bind]
  generalize outcome write c = done at hwrite ⊢
  cases hwrite with
  | turnedAway hadmits => exact .failed c.made_nothing
  | failed hother => exact .failed (c.made_version _)
  | written x hadmits => exact .made (Cluster.made_wrote hobject halike hkey (Cluster.admits_eq_ok hadmits))

theorem ends_create (hoperation : s.operation c = .create) (hobject : s.object c = .ok o) :
    s.Ends c (outcome (Endpoint.createObject o) c) :=
  ends_write (hoperation ▸ Cluster.writeOutcome_create c o) hobject (.refl o) (key_object hobject)

theorem ends_update (hoperation : s.operation c = .update) (hobject : s.object c = .ok o) (version : Option String) :
    s.Ends c (outcome (do let _ ← Cluster.update (o.withVersion version) : Attempt Cluster Unit) c) := by
  have hkey : (o.withVersion version).key = s.key := (o.key_withVersion version).trans (key_object hobject)
  exact ends_write (hoperation ▸ Cluster.writeOutcome_update c _) hobject (o.withVersion_alike version) hkey

theorem ends_upsert (o : Object) (c : Cluster) : (upsert o).Ends c (outcome (upsert o).attempt c) := by
  show (upsert o).Ends c (outcome (Cluster.createOrUpdate o >>= fun _ => pure ()) c)
  unfold Cluster.createOrUpdate
  simp only [bind_assoc]
  cases hns : o.namespace? with
  | error f => exact .failed c.made_nothing
  | ok ns =>
    have hown : o.key = ⟨o.kind, ns, o.lookupName⟩ := Object.key_of_ns (Object.ns_of_namespace? hns)
    rw [outcome_bind_ok (outcome_ofResult (.ok ns) c), outcome_bind]
    have hreads := Cluster.find?_reads o.kind ⟨ns, o.lookupName⟩ c
    rcases hfind : outcome (Cluster.find? o.kind ⟨ns, o.lookupName⟩) c with ⟨f | found, c₁⟩
    · obtain rfl : c = c₁ := by rw [← hreads, hfind]
      exact .failed c.made_nothing
    · obtain rfl : c = c₁ := by rw [← hreads, hfind]
      have hthere := Cluster.isSome_of_find? hfind
      rw [← hown] at hthere
      cases found with
      | none =>
        have hoperation : (upsert o).operation c = .create := if_neg (by rw [← hthere]; decide)
        exact ends_create hoperation rfl
      | some existing =>
        have hoperation : (upsert o).operation c = .update := if_pos hthere.symm
        exact ends_update hoperation rfl _

theorem ends_attempt (s : WriteStep) (c : Cluster) : s.Ends c (outcome s.attempt c) := by
  cases s with
  | create o => exact ends_create rfl rfl
  | upsert o => exact ends_upsert o c
  | route e termination subdomain =>
    show Ends _ c (outcome (e.routeHost subdomain >>= fun host => Endpoint.createObject (e.route termination host)) c)
    have hreads := Endpoint.routeHost_reads e subdomain c
    rw [outcome_bind]
    rcases hhost : outcome (e.routeHost subdomain) c with ⟨f | host, c₁⟩
    · obtain rfl : c = c₁ := by rw [← hreads, hhost]
      exact .failed c.made_nothing
    · obtain rfl : c = c₁ := by rw [← hreads, hhost]
      refine ends_create rfl ?_
      show (outcome (e.routeHost subdomain) c).1.map _ = _
      rw [hhost]
      rfl

end WriteStep

/-! ## Steps in a row -/

namespace Cluster.Made

variable {c c' c'' : Cluster} {s : WriteStep} {steps later : List WriteStep}

/-- Steps under other keys change nothing that a step looks at. -/
theorem agreesOn (h : c.Made steps c') (hapart : ∀ d ∈ steps, d.key ∉ s.looksAt) : c.AgreesOn s.looksAt c' := by
  refine ⟨h.refusals, h.faults, fun key hkey => h.kept key fun hmem => ?_⟩
  obtain ⟨d, hd, rfl⟩ := List.mem_map.1 hmem
  exact hapart d hd hkey

theorem append (h : c.Made steps c') (h' : c'.Made later c'') (hapart : ∀ d ∈ steps, ∀ s ∈ later, d.key ∉ s.looksAt) :
    c.Made (steps ++ later) c'' where
  log := by
    have hentries : later.map (·.entry c') = later.map (·.entry c) :=
      List.map_congr_left fun s hs => WriteStep.entry_congr (h.agreesOn fun d hd => hapart d hd s hs)
    rw [h'.log, h.log, hentries, List.map_append, List.append_assoc]
  holds s hs := by
    rcases List.mem_append.1 hs with hs | hs
    · obtain ⟨o, hobject, ho⟩ := h.holds s hs
      refine ⟨o, hobject, ho.frame (h'.kept o.key fun hmem => ?_)⟩
      obtain ⟨l, hl, hkey⟩ := List.mem_map.1 hmem
      rw [WriteStep.key_object hobject] at hkey
      exact hapart s hs l hl (hkey ▸ l.key_mem_looksAt)
    · obtain ⟨o, hobject, ho⟩ := h'.holds s hs
      rw [WriteStep.object_congr (h.agreesOn fun d hd => hapart d hd s hs)] at hobject
      exact ⟨o, hobject, ho⟩
  kept key hk := by
    rw [List.map_append, List.mem_append, not_or] at hk
    rw [h'.kept key hk.2, h.kept key hk.1]
  refusals := h'.refusals.trans h.refusals
  faults := h'.faults.trans h.faults

end Cluster.Made

namespace WriteStep

/-- How steps in order end: at the first that fails, with its failure, or after the last one. What was made are the
steps before. -/
inductive Ordered (steps : List WriteStep) (c : Cluster) : Result Unit × Cluster → Prop where
  | stopped {made rest : List WriteStep} {s : WriteStep} {f : Failure} {c' : Cluster}
    (hsteps : steps = made ++ s :: rest)
    (hpassed : ∀ d ∈ made, d.failure? c = none) (hfails : s.failure? c = some f) (hmade : c.Made made c') :
    Ordered steps c (.error f, c')
  | passed {c' : Cluster} (hpassed : ∀ s ∈ steps, s.failure? c = none) (hmade : c.Made steps c') :
    Ordered steps c (.ok (), c')

/-- No step writes what a later one looks at. -/
def Apart (steps : List WriteStep) : Prop := steps.Pairwise fun d s => d.key ∉ s.looksAt

/-- What a step makes before others that look at nothing of it. -/
theorem Ordered.cons {s : WriteStep} {rest : List WriteStep} {c c₁ : Cluster} {done : Result Unit × Cluster}
    (hpass : s.failure? c = none) (hmade : c.Made [s] c₁) (hapart : ∀ l ∈ rest, s.key ∉ l.looksAt)
    (h : Ordered rest c₁ done) : Ordered (s :: rest) c done := by
  have hsame : ∀ l ∈ rest, l.failure? c₁ = l.failure? c := fun l hl =>
    failure?_congr (hmade.agreesOn fun d hd => List.mem_singleton.1 hd ▸ hapart l hl)
  have hpassed : ∀ {made : List WriteStep}, (∀ d ∈ made, d ∈ rest) → (∀ d ∈ made, d.failure? c₁ = none) →
      ∀ d ∈ s :: made, d.failure? c = none := by
    intro made hmem hnone d hd
    rcases List.mem_cons.1 hd with rfl | hd
    · exact hpass
    · rw [← hsame d (hmem d hd)]
      exact hnone d hd
  have happend : ∀ {made : List WriteStep} {c' : Cluster}, (∀ d ∈ made, d ∈ rest) → c₁.Made made c' →
      c.Made (s :: made) c' := by
    intro made c' hmem hlater
    refine hmade.append hlater fun d hd e he => ?_
    rw [List.mem_singleton.1 hd]
    exact hapart e (hmem e he)
  cases h with
  | @stopped made rest' l f c' hsteps hnone hfails hlater =>
    have hmem : ∀ d ∈ made, d ∈ rest := fun d hd => hsteps ▸ List.mem_append_left _ hd
    have hl : l ∈ rest := by simp [hsteps]
    have hsteps' : s :: rest = (s :: made) ++ l :: rest' := by rw [hsteps, List.cons_append]
    exact .stopped hsteps' (hpassed hmem hnone) (hsame l hl ▸ hfails) (happend hmem hlater)
  | passed hnone hlater => exact .passed (hpassed (fun _ hd => hd) hnone) (happend (fun _ hd => hd) hlater)

theorem ordered_inOrder {steps : List WriteStep} (hapart : Apart steps) (c : Cluster) :
    Ordered steps c (outcome (inOrder (steps.map attempt)) c) := by
  induction steps generalizing c with
  | nil => exact .passed (by simp) c.made_nothing
  | cons s rest ih =>
    obtain ⟨hfirst, hlater⟩ := List.pairwise_cons.1 hapart
    have hends := s.ends_attempt c
    rw [List.map_cons, inOrder, outcome_bind]
    rcases hrun : outcome s.attempt c with ⟨f | ⟨⟩, c₁⟩
    · rw [hrun] at hends
      cases hends with
      | failed hmade =>
        have hsteps : s :: rest = [] ++ s :: rest := rfl
        exact .stopped hsteps (by simp) (failure?_eq_some hrun) hmade
    · rw [hrun] at hends
      cases hends with
      | made hmade => exact (ih hlater c₁).cons (failure?_eq_none hrun) hmade hfirst

/-- A step is made unless it fails. -/
theorem made_attempt (s : WriteStep) (c : Cluster) :
    c.Made ([s].filter fun s => (s.failure? c).isNone) (outcome s.attempt c).2 := by
  have hends := s.ends_attempt c
  rcases hrun : outcome s.attempt c with ⟨f | ⟨⟩, c₁⟩
  · rw [hrun] at hends
    cases hends with
    | failed hmade => rwa [List.filter_cons_of_neg (by simp [failure?_eq_some hrun])]
  · rw [hrun] at hends
    cases hends with
    | made hmade => rwa [List.filter_cons_of_pos (by simp [failure?_eq_none hrun])]

/-- The parts of a group are all attempted, and those that do not fail are made. -/
theorem outcome_mapM_caught {parts : List WriteStep} (hapart : Apart parts) (c : Cluster) : ∃ c',
    outcome ((parts.map attempt).mapM caught) c = (.ok (parts.map fun s => (outcome s.attempt c).1), c') ∧
      c.Made (parts.filter fun s => (s.failure? c).isNone) c' := by
  induction parts generalizing c with
  | nil => exact ⟨c, rfl, c.made_nothing⟩
  | cons s rest ih =>
    obtain ⟨hfirst, hlater⟩ := List.pairwise_cons.1 hapart
    have hmade := s.made_attempt c
    have hkeys : ∀ d ∈ [s].filter fun s => (s.failure? c).isNone, ∀ l ∈ rest, d.key ∉ l.looksAt := by
      intro d hd l hl
      rw [List.mem_singleton.1 (List.mem_filter.1 hd).1]
      exact hfirst l hl
    -- Whatever became of the first part, the others come to the same as they would have without it.
    have hagrees : ∀ l ∈ rest, c.AgreesOn l.looksAt (outcome s.attempt c).2 := fun l hl =>
      hmade.agreesOn fun d hd => hkeys d hd l hl
    obtain ⟨c₂, hrest, hmade'⟩ := ih hlater (outcome s.attempt c).2
    have hresults : (rest.map fun l => (outcome l.attempt (outcome s.attempt c).2).1) =
        rest.map fun l => (outcome l.attempt c).1 :=
      List.map_congr_left fun l hl => fst_attempt_congr (hagrees l hl)
    have hpassed : (rest.filter fun l => (l.failure? (outcome s.attempt c).2).isNone) =
        rest.filter fun l => (l.failure? c).isNone :=
      List.filter_congr fun l hl => by rw [failure?_congr (hagrees l hl)]
    rw [hresults] at hrest
    rw [hpassed] at hmade'
    refine ⟨c₂, ?_, ?_⟩
    · rw [List.map_cons, List.mapM_cons, outcome_bind_ok (outcome_caught s.attempt c), outcome_bind_ok hrest]
      rfl
    · rw [← List.singleton_append, List.filter_append]
      exact hmade.append hmade' fun d hd l hl => hkeys d hd l (List.mem_filter.1 hl).1

/-- The report is about the parts that fail, in order. -/
theorem outcome_all (resource : String) {parts : List WriteStep} (hapart : Apart parts) (c : Cluster) : ∃ c',
    outcome (all resource (parts.map attempt)) c =
        (Failure.checkPartial resource (parts.filterMap (failure? c)), c') ∧
      c.Made (parts.filter fun s => (s.failure? c).isNone) c' := by
  obtain ⟨c', hrun, hmade⟩ := outcome_mapM_caught hapart c
  refine ⟨c', ?_, hmade⟩
  unfold all
  rw [outcome_bind_ok hrun, outcome_ofResult, List.filterMap_map]
  rfl

end WriteStep

end VolumeMigration
