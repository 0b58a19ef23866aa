import VolumeMigration.Proofs.InvalidInput
/-!
# Where a healthy endpoint leads

An endpoint that can be reached has a host and a port, and clients get both into
what they connect with: the target of a direct transport, and the settings of a
tunnel (`Endpoint.reachedAt`). Whether they can connect there is another
question. A route or a load balancer without a host is not taken for reachable,
but an empty address of a node, an empty host of an ingress, or a node port of
zero is (`Endpoint.isHealthy_complete_iff`).
-/

namespace VolumeMigration

open Attempt

/-- The address can be connected to: its host is not empty, and its port is one of those that there are. -/
structure Address.Complete (a : Address) : Prop where
  hostname : a.hostname ≠ ""
  positive : 1 ≤ a.port
  bounded : a.port ≤ 65535

theorem Address.complete_iff {hostname : String} {port : Nat} (hpositive : 1 ≤ port) (hbounded : port ≤ 65535) :
    Complete ⟨hostname, port⟩ ↔ hostname ≠ "" :=
  ⟨Complete.hostname, fun hne => ⟨hne, hpositive, hbounded⟩⟩

namespace Endpoint

variable {e e' : Endpoint} {a : Address} {o : Object} {c c' : Cluster} {healthy : Bool}

/-! ## What clients connect to -/

/-- Clients connect to the endpoint at the address, directly or through a tunnel. -/
structure ReachedAt (e : Endpoint) (a : Address) : Prop where
  hostname : e.hostname? = some a.hostname
  port : e.port? = some a.port
  direct : ∀ port, Transport.target e (.direct port) = .ok a
  tunnelled : ∀ options : StunnelOptions, options.validate = .ok () → ∃ config proxy,
    Stunnel.clientConfig options e = .ok config ∧ options.proxyHost = .ok proxy ∧
      ConfigFile.Says config Stunnel.service (Stunnel.clientTexts options proxy a) (Stunnel.routeSettings proxy a)

/-- An endpoint with a host and a port is reached at them. -/
theorem reachedAt (hhost : e.hostname? = some a.hostname) (hport : e.port? = some a.port) : e.ReachedAt a := by
  have haddress : Address.ofEndpoint e = .ok a := by rw [Address.ofEndpoint, hhost, hport]
  refine ⟨hhost, hport, fun port => haddress, fun options hvalid => ?_⟩
  obtain ⟨proxy, hproxy⟩ := StunnelOptions.proxyHost_ok hvalid
  have hconfig : ∃ config, Stunnel.clientConfig options e = .ok config := by
    unfold Stunnel.clientConfig
    rw [haddress, hproxy]
    exact ⟨_, rfl⟩
  obtain ⟨config, hconfig⟩ := hconfig
  obtain ⟨address, proxy', haddress', hproxy', hsays⟩ := Stunnel.clientConfig_says hconfig
  cases haddress.symm.trans haddress'
  cases hproxy.symm.trans hproxy'
  exact ⟨config, proxy, hconfig, hproxy, hsays.subset fun s hs => by simp [hs]⟩

/-! ## What a look at an endpoint accepts -/

/-- The endpoint was made with a host, and the host is empty. -/
def HasBlankHost (e : Endpoint) : Prop :=
  match e.entry with
  | .ingress _ hostname => hostname = ""
  | .nodePort address _ => address = ""
  | .route .. | .clusterIP | .loadBalancer _ => False

theorem hasBlankHost_recorded (e : Endpoint) : e.recorded.HasBlankHost ↔ e.HasBlankHost := by
  unfold HasBlankHost recorded
  cases e.entry <;> rfl

/-- The endpoint leads nowhere: its host is empty, or its port is none to listen on. -/
def IsBlank (e : Endpoint) : Prop := e.HasBlankHost ∨ e.port? = some 0

theorem filled_eq_some {s : Option String} {text : String} (h : filled s = some text) : text ≠ "" := by
  obtain ⟨-, hfull⟩ := Option.filter_eq_some_iff.1 h
  simpa using hfull

theorem pointAddress?_ne_empty {p : LoadBalancerPoint} {text : String} (h : pointAddress? p = some text) :
    text ≠ "" := by
  unfold pointAddress? at h
  cases hhost : filled p.hostname with
  | some host =>
    rw [hhost] at h
    cases h
    exact filled_eq_some hhost
  | none =>
    rw [hhost] at h
    exact filled_eq_some h

/-- The hosts and the ports that an endpoint has from the start, or takes from its objects, are complete addresses. -/
theorem complete_routed {hostname : String} (h : hostname ≠ "") : Address.Complete ⟨hostname, routedPort⟩ :=
  (Address.complete_iff (by simp [routedPort]) (by simp [routedPort])).2 h

theorem complete_exposed {hostname : String} (h : hostname ≠ "") : Address.Complete ⟨hostname, exposedPort⟩ :=
  (Address.complete_iff (by simp [exposedPort]) (by simp [exposedPort])).2 h

/-- An endpoint that an object shows to be reachable has an address, which is complete unless the endpoint is blank.
The cases are those of `observe`: a route, an ingress, and the three types of services. -/
theorem observe_complete_iff (h : e.observe o = .ok (e', true)) :
    ∃ a : Address, e'.hostname? = some a.hostname ∧ e'.port? = some a.port ∧ (a.Complete ↔ ¬e'.IsBlank) := by
  unfold observe at h
  split at h
  case h_1 =>
    split at h <;> cases h
    rename_i host hhost
    obtain ⟨p, -, hfilled⟩ := Option.bind_eq_some_iff.1 hhost
    refine ⟨⟨host, routedPort⟩, rfl, rfl, iff_of_true (complete_routed (filled_eq_some hfilled)) ?_⟩
    simp [IsBlank, HasBlankHost, port?, routedPort]
  case h_2 className hostname spec status hentry hcontent =>
    obtain ⟨rfl, -⟩ := Prod.mk.inj (Except.ok.inj h)
    refine ⟨⟨hostname, routedPort⟩, by rw [hostname?, hentry], by rw [port?, hentry], ?_⟩
    have hblank : e.IsBlank ↔ hostname = "" := by simp [IsBlank, HasBlankHost, port?, routedPort, hentry]
    rw [hblank]
    exact ⟨Address.Complete.hostname, complete_routed⟩
  case h_3 spec status hentry hcontent =>
    obtain ⟨rfl, -⟩ := Prod.mk.inj (Except.ok.inj h)
    refine ⟨⟨_, exposedPort⟩, by rw [hostname?, hentry], by rw [port?, hentry], ?_⟩
    refine iff_of_true (complete_exposed (by simp [toString])) ?_
    simp [IsBlank, HasBlankHost, port?, exposedPort, hentry]
  case h_4 address _ spec status hentry hcontent =>
    split at h
    · cases h
    · rename_i port hport
      split at h <;> cases h
      rename_i hrange
      refine ⟨⟨address, port.toNat⟩, rfl, rfl, ?_⟩
      have hbound : port.toNat ≤ 65535 := Int.toNat_le.2 hrange.2
      simp only [IsBlank, HasBlankHost, port?, not_or, Option.some.injEq]
      exact ⟨fun hcomplete => ⟨hcomplete.hostname, Nat.ne_of_gt hcomplete.positive⟩,
        fun ⟨hne, hpositive⟩ => ⟨hne, Nat.pos_of_ne_zero hpositive, hbound⟩⟩
  case h_5 =>
    split at h <;> cases h
    rename_i address haddress
    obtain ⟨p, -, hfilled⟩ := Option.bind_eq_some_iff.1 haddress
    refine ⟨⟨address, exposedPort⟩, rfl, rfl, iff_of_true (complete_exposed (pointAddress?_ne_empty hfilled)) ?_⟩
    simp [IsBlank, HasBlankHost, port?, exposedPort]
  case h_6 => cases h

/-- A look at an endpoint is one at the object that shows its address. -/
theorem observe_of_isHealthy (h : outcome isHealthy (e, c) = (.ok healthy, (e', c'))) :
    ∃ o, c.objects.get? ⟨e.watchedKind, e.name.ns, e.name.name⟩ = some o ∧ e.observe o = .ok (e', healthy) := by
  rw [outcome_isHealthy, outcome_bind] at h
  rcases hrequire : outcome (Cluster.require e.watchedKind e.name) c with ⟨f | o, c₁⟩
  · rw [hrequire] at h
    cases h
  · obtain ⟨-, ho⟩ := Cluster.require_ok hrequire
    rw [hrequire] at h
    simp only [outcome_ofResult] at h
    cases hobserve : e.observe o with
    | error f =>
      rw [hobserve] at h
      cases h
    | ok seen =>
      rw [hobserve] at h
      cases h
      exact ⟨o, ho, hobserve⟩

/-! ## Planned endpoints -/

/-- Of the endpoints that a configuration describes only a port of the nodes can have an empty host, which is then the
address that is given for it. -/
theorem hasBlankHost_iff_of_build {config : MigrationConfig} {pairs : PairList}
    (hbuild : config.buildEndpoint pairs = .ok e) :
    e.HasBlankHost ↔ config.endpoint = .service .nodePort (some "") := by
  unfold MigrationConfig.buildEndpoint at hbuild
  split at hbuild
  case h_2 subdomain className hconfig =>
    cases hbuild
    have hne : s!"{MigrationConfig.endpointName pairs.transferId}-{pairs.destinationNamespace}.{subdomain}" ≠ "" := by
      simp [toString]
    exact iff_of_false hne (by simp [hconfig])
  case h_5 address hconfig =>
    cases hbuild
    simp [HasBlankHost, ofNodePort, hconfig]
  case h_6 => cases hbuild
  all_goals
    rename_i hconfig
    cases hbuild
    exact iff_of_false id (by simp [hconfig])

/-- An endpoint that is found to be reachable has an address, and clients get it into what they connect with. The
address is complete exactly if the endpoint is not blank; one that a configuration describes is blank if and only if it
is a port of the nodes with an empty address, or with the number zero. -/
theorem isHealthy_complete_iff (h : outcome isHealthy (e, c) = (.ok true, (e', c'))) :
    (∃ a, e'.ReachedAt a ∧ (a.Complete ↔ ¬e'.IsBlank)) ∧
      ∀ (config : MigrationConfig) (pairs : PairList), config.buildEndpoint pairs = .ok e →
        (e'.IsBlank ↔ config.endpoint = .service .nodePort (some "") ∨ e'.port? = some 0) := by
  obtain ⟨o, -, hobserve⟩ := observe_of_isHealthy h
  obtain ⟨a, hhost, hport, hcomplete⟩ := observe_complete_iff hobserve
  refine ⟨⟨a, reachedAt hhost hport, hcomplete⟩, fun config pairs hbuild => ?_⟩
  have hhosts : e'.HasBlankHost ↔ e.HasBlankHost := by
    rw [← hasBlankHost_recorded e', observe_recorded hobserve, hasBlankHost_recorded]
  rw [IsBlank, hhosts, hasBlankHost_iff_of_build hbuild]

/-- A migration to a port of the nodes. -/
def onNodes (address : String) : MigrationConfig where
  pairs := [{ source := ⟨"shop", "data"⟩, destination := some ⟨"depot", ""⟩ }]
  endpoint := .service .nodePort (some address)
  transport := .none
  transfer := .rclone

/-- Its claims. -/
def shopToDepot : PairList where
  pairs := [Pair.ofClaims (.named ⟨"shop", "data"⟩) (some (.named ⟨"depot", "data"⟩))]
  sound := by decide +kernel

/-- Its endpoint. -/
def nodesOfDepot (address : String) : Endpoint :=
  .ofNodePort ⟨shopToDepot.destinationNamespace, MigrationConfig.endpointName shopToDepot.transferId⟩
    (Label.withManager (.ofList [(Label.transfer, shopToDepot.transferId)])) address

/-- The cluster with the service of that endpoint and the port that it was given. -/
def servedDepot (address : String) : Cluster :=
  ({} : Cluster).place { (nodesOfDepot address).service with
    content := .service
      (some { type := some "NodePort", ports := some [{ port := exposedPort, nodePort := some 30000 }] })
      none }

theorem isHealthy_complete_iff_nodesOfDepot : ∃ e' c',
    outcome isHealthy (nodesOfDepot "10.0.0.7", servedDepot "10.0.0.7") = (.ok true, (e', c')) ∧
    (∃ a, e'.ReachedAt a ∧ (a.Complete ↔ ¬e'.IsBlank)) ∧
      ∀ (config : MigrationConfig) (pairs : PairList), config.buildEndpoint pairs = .ok (nodesOfDepot "10.0.0.7") →
        (e'.IsBlank ↔ config.endpoint = .service .nodePort (some "") ∨ e'.port? = some 0) := by
  have hrun : outcome isHealthy (nodesOfDepot "10.0.0.7", servedDepot "10.0.0.7") = (.ok true, _) :=
    outcome_of_toOption (by decide +kernel)
  exact ⟨_, _, hrun, isHealthy_complete_iff hrun⟩

/-- An ingress that names no host. -/
def everyHost : Endpoint :=
  { name := ⟨"depot", "inbox"⟩, labels := .ofList [("app", "inbox")], entry := .ingress none "" }

/-- The cluster with its objects and an address of the ingress controller. -/
def openDepot : Cluster :=
  (({} : Cluster).place everyHost.service).place { everyHost.ingress none "" with
    content := .ingress (some { rules := some [{ host := some "" }] })
      (some { loadBalancer := some { points := some [{ ip := some "10.0.0.9" }] } }) }

/-- Endpoints with an empty host are found to be reachable, one that a configuration describes and one that is
discovered. -/
theorem isHealthy_blank :
    (∃ e c e' c', (onNodes "").buildEndpoint shopToDepot = .ok e ∧ outcome isHealthy (e, c) = (.ok true, (e', c')) ∧
      e'.hostname? = some "") ∧
    ∃ e c e' c', outcome (discover .ingress ⟨"depot", "inbox"⟩) c = (.ok e, c) ∧
      outcome isHealthy (e, c) = (.ok true, (e', c')) ∧ e'.hostname? = some "" := by
  constructor
  · have hrun : outcome isHealthy (nodesOfDepot "", servedDepot "") = (.ok true, _) :=
      outcome_of_toOption (by decide +kernel)
    exact ⟨_, _, _, _, rfl, hrun, by decide +kernel⟩
  · have hfound : outcome (discover .ingress ⟨"depot", "inbox"⟩) openDepot = (.ok everyHost, _) :=
      outcome_of_toOption (by decide +kernel)
    have hrun : outcome isHealthy (everyHost, openDepot) = (.ok true, _) := outcome_of_toOption (by decide +kernel)
    exact ⟨_, _, _, _, hfound, hrun, rfl⟩

end Endpoint

end VolumeMigration
