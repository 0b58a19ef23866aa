import VolumeMigration.Proofs.InvalidInput
/-!
# Discovery undoes creation

The objects of an endpoint that was created as new tell all of it but the
domain that the host of a route may have been chosen from
(`Endpoint.ofObjects_eq`), and what is learned of its address later is not told
from that domain (`Endpoint.isHealthy_withoutSubdomain`). So whoever discovers
the endpoint sees what its creator sees who asks whether it can be reached
(`Endpoint.discover_isHealthy`).
-/

namespace VolumeMigration

open Attempt

/-! ## Finding what was created -/

theorem Content.apiVersion_asked (c : Content) : c.asked.apiVersion = c.apiVersion := by
  cases c <;> rfl

namespace Cluster

variable {c c' : Cluster} {o : Object} {k : Kind} {n : ObjectName}

/-- Without rules that fail it, looking for an object succeeds if it is there and is served by its kind's API. -/
theorem FailureFree.require_ok (hfree : c.FailureFree) (ho : c.objects.get? ⟨k, n.ns, n.name⟩ = some o)
    (hserved : o.content.apiVersion = k.apiVersion) : outcome (require k n) c = (.ok o, c) := by
  unfold require
  rw [outcome_bind_ok (hfree.find?_ok ho hserved), outcome_pure]

/-- What became of an object that was created is found under its key. -/
theorem Settles.require_eq (hsettles : c.Settles c') (hfree : c'.FailureFree) (k : Kind) (n : ObjectName)
    (ho : c.Holds o)
    (hk : k ∈ discovered) (hkey : o.key = ⟨k, n.ns, n.name⟩) (hserved : o.content.apiVersion = k.apiVersion) :
    ∃ o', outcome (Cluster.require k n) c' = (.ok o', c') ∧ o.Settles o' := by
  obtain ⟨a, hget, halike⟩ := ho
  obtain ⟨o', hget', hasked, hannotations⟩ := hsettles o.key a (hkey ▸ hk) hget
  rw [halike.content_eq] at hasked
  have hserved' : o'.content.apiVersion = k.apiVersion := by
    rw [← Content.apiVersion_asked, hasked, Content.apiVersion_asked, hserved]
  refine ⟨o', hfree.require_ok (hkey ▸ hget') hserved', hasked, fun key value hvalue => hannotations key value ?_⟩
  rw [halike.annotation?_eq, hvalue]

/-- A cluster goes on when an object in it is replaced by what became of it. -/
theorem settles_place (ho : c.Holds o) (o' : Object) (hkey : o'.key = o.key) (h : o.Settles o') :
    c.Settles (c.place o') := by
  intro key a _ ha
  rw [get?_place]
  split
  · rename_i hthere
    obtain ⟨b, hb, halike⟩ := ho
    rw [← hkey, ← hthere, ha] at hb
    cases hb
    refine ⟨o', rfl, h.asked.trans (congrArg Content.asked halike.content_eq.symm), fun k v hv => h.annotations k v ?_⟩
    rw [← halike.annotation?_eq, hv]
  · exact ⟨a, ha, rfl, fun _ _ hv => hv⟩

end Cluster

namespace Endpoint

variable {e : Endpoint} {c₀ c c' : Cluster}

/-! ## New endpoints -/

/-- The endpoint is as it is made, before anything is learned of its address. -/
inductive IsNew : Endpoint → Prop where
  | route (name : ObjectName) (labels : StringMap) (termination : Termination) (subdomain : Option String) :
    IsNew (ofRoute name labels termination subdomain)
  | ingress (name : ObjectName) (labels : StringMap) (subdomain : String) (className : Option String) :
    IsNew (ofIngress name labels subdomain className)
  | clusterIP (name : ObjectName) (labels : StringMap) : IsNew (ofClusterIP name labels)
  | nodePort (name : ObjectName) (labels : StringMap) (address : String) : IsNew (ofNodePort name labels address)
  | loadBalancer (name : ObjectName) (labels : StringMap) : IsNew (ofLoadBalancer name labels)

/-- The endpoint without the domain that the host of a route may have been chosen from, which no object keeps. -/
def withoutSubdomain (e : Endpoint) : Endpoint :=
  { e with entry := match e.entry with
      | .route termination _ hostname => .route termination none hostname
      | entry => entry }

theorem IsNew.recorded_eq (h : e.IsNew) : e.recorded = e.withoutSubdomain := by
  cases h <;> rfl

/-- The endpoints are one to a transfer: they take traffic for the same pods at the same address, and treat TLS alike.
The port that server pods listen on is one for all endpoints. -/
structure Agrees (e e' : Endpoint) : Prop where
  name : e'.name = e.name
  type : e'.type = e.type
  serviceType? : e'.serviceType? = e.serviceType?
  labels : e'.labels = e.labels
  hostname? : e'.hostname? = e.hostname?
  port? : e'.port? = e.port?
  terminatesTls : e'.terminatesTls = e.terminatesTls
  requiresTls : e'.requiresTls = e.requiresTls

theorem agrees_withoutSubdomain (e : Endpoint) : e.Agrees e.withoutSubdomain := by
  obtain ⟨name, labels, entry⟩ := e
  cases entry <;> exact ⟨rfl, rfl, rfl, rfl, rfl, rfl, rfl, rfl⟩

/-! ## Looking at the address -/

theorem watchedKind_withoutSubdomain (e : Endpoint) : e.withoutSubdomain.watchedKind = e.watchedKind := by
  unfold watchedKind
  rw [e.agrees_withoutSubdomain.type]

/-- What an object says of an address is not read off the domain of a route. -/
theorem observe_withoutSubdomain (e : Endpoint) (o : Object) :
    e.withoutSubdomain.observe o = (e.observe o).map fun seen => (seen.1.withoutSubdomain, seen.2) := by
  obtain ⟨name, labels, entry⟩ := e
  obtain ⟨metadata, content, rest⟩ := o
  cases entry with
  | route termination subdomain hostname =>
    cases content with
    | route spec status =>
      simp only [observe, withoutSubdomain]
      split <;> rfl
    | _ => rfl
  | nodePort address port =>
    cases content with
    | service spec status =>
      simp only [observe, withoutSubdomain]
      split
      · rfl
      · split <;> rfl
    | _ => rfl
  | loadBalancer address =>
    cases content with
    | service spec status =>
      simp only [observe, withoutSubdomain]
      split <;> rfl
    | _ => rfl
  | ingress | clusterIP => cases content <;> rfl

theorem isHealthy_withoutSubdomain (e : Endpoint) (c : Cluster) : outcome isHealthy (e.withoutSubdomain, c) =
    ((outcome isHealthy (e, c)).1,
      ((outcome isHealthy (e, c)).2.1.withoutSubdomain, (outcome isHealthy (e, c)).2.2)) := by
  rw [outcome_isHealthy, outcome_isHealthy, outcome_bind, outcome_bind, watchedKind_withoutSubdomain,
    e.agrees_withoutSubdomain.name]
  rcases outcome (Cluster.require e.watchedKind e.name) c with ⟨f | o, c₁⟩
  · rfl
  · simp only [outcome_ofResult, observe_withoutSubdomain]
    cases e.observe o <;> rfl

/-! ## Discovery -/

/-- The objects of an endpoint are all found, and tell what they record of it. -/
theorem ofObjects_eq (hheld : e.Held c) (hsettles : c.Settles c') (hfree : c'.FailureFree) :
    outcome (ofObjects e.type e.name) c' = (.ok e.recorded, c') := by
  obtain ⟨hservice, hrouters⟩ := hheld
  obtain ⟨service, hfound, hservice⟩ := hsettles.require_eq hfree .service e.name hservice (by decide) rfl rfl
  unfold ofObjects
  rw [outcome_bind_ok hfound]
  cases hentry : e.entry with
  | route termination subdomain hostname =>
    rw [hentry] at hrouters
    obtain ⟨host, hroute⟩ := hrouters
    obtain ⟨route, hfound, hroute⟩ := hsettles.require_eq hfree .route e.name hroute (by decide) rfl rfl
    have htype : e.type = .route := by simp [type, hentry]
    rw [htype]
    show outcome (Cluster.require .route e.name >>= _) c' = _
    rw [outcome_bind_ok hfound, outcome_ofResult, labelsOf_eq hservice, ofRouteObject_eq hentry hroute]
  | ingress className hostname =>
    rw [hentry] at hrouters
    obtain ⟨ingress, hfound, hingress⟩ := hsettles.require_eq hfree .ingress e.name hrouters (by decide) rfl rfl
    have htype : e.type = .ingress := by simp [type, hentry]
    rw [htype]
    show outcome (Cluster.require .ingress e.name >>= _) c' = _
    rw [outcome_bind_ok hfound, outcome_ofResult, labelsOf_eq hservice, ofIngressObject_eq hentry hingress]
  | clusterIP | nodePort _ _ | loadBalancer _ =>
    have htype : e.type = .service := by simp [type, hentry]
    rw [htype, outcome_ofResult, ofServiceObject_eq htype hservice]

/-- Discovery is a look at the address of the endpoint that is made of the objects. -/
theorem outcome_discover {type : EndpointType} {name : ObjectName} (h : outcome (ofObjects type name) c = (.ok e, c)) :
    outcome (discover type name) c = ((outcome isHealthy (e, c)).1.map fun _ => (outcome isHealthy (e, c)).2.1, c) := by
  have hreads := e.isHealthy_reads c
  unfold discover
  rw [outcome_bind_ok h]
  simp only [outcome_bind, outcome_get, outcome_set, outcome_ofResult]
  rcases hrun : outcome isHealthy (e, c) with ⟨f | healthy, e₁, c₁⟩
  all_goals
    rw [hrun] at hreads
    obtain rfl : c₁ = c := hreads
    rfl

/-- After an endpoint was created as new and its cluster filled in what it assigns, discovery finds it exactly if its
creator can ask whether it can be reached, changes nothing, and finds what the creator knows then. -/
theorem discover_isHealthy (hnew : e.IsNew) (hcreate : outcome e.create c₀ = (.ok (), c)) (hsettles : c.Settles c')
    (hfree : c'.FailureFree) : ∃ r known, outcome isHealthy (e, c') = (r, (known, c')) ∧
      ∃ found, outcome (discover e.type e.name) c' = (found, c') ∧
        ((∃ e', found = .ok e') ↔ ∃ healthy, r = .ok healthy) ∧ ∀ e', found = .ok e' → known.Agrees e' := by
  have hmade := ofObjects_eq (create_ok hcreate).2 hsettles hfree
  have hdiscover := outcome_discover hmade
  have hreads := e.isHealthy_reads c'
  rw [hnew.recorded_eq, isHealthy_withoutSubdomain] at hdiscover
  rcases hrun : outcome isHealthy (e, c') with ⟨r, known, c₁⟩
  rw [hrun] at hreads hdiscover
  obtain rfl : c₁ = c' := hreads
  refine ⟨r, known, rfl, _, hdiscover, ?_, ?_⟩
  · cases r <;> simp [Except.map]
  · intro e' he
    cases r with
    | error f => cases he
    | ok healthy =>
      cases he
      exact known.agrees_withoutSubdomain

/-- An endpoint on a port of the nodes. -/
def pier : Endpoint := .ofNodePort ⟨"depot", "pier"⟩ (.ofList [("app", "pier")]) "10.0.0.7"

/-- Its service, with the port that the cluster assigned. -/
def assignedPier : Object :=
  { pier.service with
    content := .service
      (some {
        type := some "NodePort"
        clusterIP := some "172.30.0.9"
        selector := some pier.labels
        ports := some [{
          port := exposedPort
          name := some servicePortName
          protocol := some "TCP"
          targetPort := some (.number exposedPort)
          nodePort := some 30007 }] })
      (some {}) }

theorem discover_isHealthy_pier : ∃ c c' r known, pier.IsNew ∧ outcome pier.create {} = (.ok (), c) ∧ c.Settles c' ∧
    c'.FailureFree ∧ outcome isHealthy (pier, c') = (r, (known, c')) ∧
      ∃ found, outcome (discover pier.type pier.name) c' = (found, c') ∧
        ((∃ e', found = .ok e') ↔ ∃ healthy, r = .ok healthy) ∧ ∀ e', found = .ok e' → known.Agrees e' := by
  have hnew : pier.IsNew := .nodePort _ _ _
  have hcreate : outcome pier.create {} = (.ok (), _) := outcome_of_toOption rfl
  have hsettles := Cluster.settles_place (create_ok hcreate).2.1 assignedPier rfl ⟨rfl, fun _ _ h => h⟩
  have hfree : ((outcome pier.create {}).2.place assignedPier).FailureFree := ⟨rfl, rfl⟩
  obtain ⟨r, known, hhealthy, hfound⟩ := discover_isHealthy hnew hcreate hsettles hfree
  exact ⟨_, _, r, known, hnew, hcreate, hsettles, hfree, hhealthy, hfound⟩

/-- Both know the address and the port then. -/
example : let c := (outcome pier.create {}).2.place assignedPier
    ((outcome (discover .service ⟨"depot", "pier"⟩) c).1.toOption.map fun e => (e.hostname?, e.port?)) =
        some (some "10.0.0.7", some 30007) ∧
      (outcome isHealthy (pier, c)).2.1.port? = some 30007 := by
  decide +kernel

end Endpoint

end VolumeMigration
