import VolumeMigration.Proofs.HealthyEndpoints
import VolumeMigration.Proofs.RouteHosts
import VolumeMigration.Proofs.ServerPorts
/-!
# Hosts of ingresses

The host of an ingress is known from the start: the rule of the ingress and the
tunnel of the client take it from the endpoint (`Endpoint.UsesHost`). Unlike the
host of a route it is not cut off, so that a long namespace makes it a host that
no name service knows (`MigrationConfig.buildEndpoint_isHost_iff`).
-/

namespace VolumeMigration

open Attempt

/-! ## Legal hosts -/

namespace Text

/-- Whether a text is the name of a host: legal labels of at most 63 characters with dots between them. -/
def isHost (s : String) : Bool := (cutAll '.' s.toList).all fun label => isLabel label && label.length ≤ 63

theorem not_mem_of_isLabel {cs : List Char} (h : isLabel cs = true) {c : Char} (hc : isLabelChar c = false) :
    c ∉ cs := by
  intro hmem
  rw [(isLabel_iff.1 h).2.1 c hmem] at hc
  cases hc

/-- A label in front of a domain makes a host of it if it is short enough. -/
theorem isHost_append {label domain : String} (hlabel : isLabel label.toList = true) :
    isHost (label ++ "." ++ domain) = true ↔ label.length ≤ 63 ∧ isHost domain = true := by
  have hcut : cutAll '.' (label ++ "." ++ domain).toList = label.toList :: cutAll '.' domain.toList := by
    rw [String.toList_append, String.toList_append, List.append_assoc]
    exact cutAll_append (not_mem_of_isLabel hlabel rfl) domain.toList
  rw [isHost, hcut, List.all_cons, Bool.and_eq_true, Bool.and_eq_true, decide_eq_true_eq, String.length_toList]
  exact and_congr_left fun _ => and_iff_right hlabel

theorem not_hasBreak_of_isLabel {s : String} (h : isLabel s.toList = true) : ¬ConfigFile.HasBreak s :=
  not_mem_of_isLabel h rfl

theorem not_hasBreak_of_isHost {s : String} (h : isHost s = true) : ¬ConfigFile.HasBreak s := by
  intro hbreak
  rw [ConfigFile.HasBreak, ← join_cutAll '.' s.toList] at hbreak
  rcases mem_joinChars hbreak with hdot | ⟨label, hmem, hin⟩
  · cases hdot
  · have hlabel := (Bool.and_eq_true_iff.1 (List.all_eq_true.1 h label hmem)).1
    exact not_mem_of_isLabel hlabel rfl hin

end Text

/-! ## Where the host is used -/

/-- The hosts that the rules of an ingress are for. -/
def Object.ruleHosts (o : Object) : List (Option String) :=
  match o.content with
  | .ingress spec _ => ((spec.bind (·.rules)).getD []).map (·.host)
  | _ => []

namespace Endpoint

variable {e : Endpoint} {c c' : Cluster} {className : Option String} {host : String}

/-- The endpoint's ingress is not there, and its creation creates it with rules for the hosts, even if other parts of it
fail. -/
def CreatesIngress (e : Endpoint) (c : Cluster) (hosts : List (Option String)) : Prop :=
  c.objects.get? (e.keyOf .ingress) = none ∧
    ∃ o, (outcome e.create c).2.objects.get? (e.keyOf .ingress) = some o ∧ o.ruleHosts = hosts

theorem CreatesIngress.hosts_eq {hosts : List (Option String)} (h : e.CreatesIngress c hosts)
    (hentry : e.entry = .ingress className host) : hosts = [some host] := by
  obtain ⟨habsent, a, hthere, rfl⟩ := h
  have hs : WriteStep.create (e.ingress className host) ∈ e.writeSteps := by simp [writeSteps, hentry]
  obtain ⟨o, hobject, halike⟩ := (e.create_createsAll c).object_of_present hs habsent hthere
  cases hobject
  rw [Object.ruleHosts, halike.content_eq]
  rfl

theorem createsIngress_of_ok (hentry : e.entry = .ingress className host) (h : outcome e.create c = (.ok (), c')) :
    ∃ hosts, e.CreatesIngress c hosts := by
  have hs : WriteStep.create (e.ingress className host) ∈ e.writeSteps := by simp [writeSteps, hentry]
  obtain ⟨o, hobject, habsent, a, hthere, -⟩ := (e.create_createsAll c).ok_iff.1 (by rw [h]) _ hs
  cases hobject
  exact ⟨_, habsent, a, hthere, rfl⟩

/-- The endpoint has the host, and everything that leads to the endpoint has it too. -/
structure UsesHost (e : Endpoint) (host : String) : Prop where
  hostname : e.hostname? = some host
  /-- An ingress that is created takes the traffic for the host, and for no other one. -/
  rule : ∀ c hosts, e.CreatesIngress c hosts → hosts = [some host]
  created : ∀ c : Cluster, c.FailureFree → (∀ key ∈ e.keys, c.objects.get? key = none) →
    ∃ hosts, e.CreatesIngress c hosts
  /-- The client's tunnel asks for the host by name, and connects to it or has a proxy connect to it. -/
  client : ∀ o : StunnelOptions, o.validate = .ok () → ∃ proxy text, o.proxyHost = .ok proxy ∧
    Stunnel.clientConfig o e = .ok text ∧
    ConfigFile.Says text Stunnel.service [proxy.getD "", o.proxyUsername.getD "", o.proxyPassword.getD ""]
      (("sni", [host]) :: Stunnel.routeSettings proxy ⟨host, routedPort⟩)

theorem usesHost_of_ingress (hentry : e.entry = .ingress className host) (hbreak : ¬ConfigFile.HasBreak host) :
    e.UsesHost host where
  hostname := by
    unfold hostname?
    rw [hentry]
  rule _ _ h := h.hosts_eq hentry
  created c hc habsent := by
    obtain ⟨c', hrun⟩ := (create_ok_iff hc habsent).2 (by
      rintro ⟨⟨_, _, hroute⟩, -⟩
      cases hentry.symm.trans hroute)
    exact createsIngress_of_ok hentry hrun
  client o hvalid := by
    have haddress : Address.ofEndpoint e = .ok ⟨host, routedPort⟩ := by
      unfold Address.ofEndpoint hostname? port?
      rw [hentry]
    obtain ⟨proxy, hproxy⟩ := StunnelOptions.proxyHost_ok hvalid
    obtain ⟨text, htext⟩ : ∃ text, Stunnel.clientConfig o e = .ok text := by
      unfold Stunnel.clientConfig
      rw [haddress, hproxy]
      exact ⟨_, rfl⟩
    obtain ⟨address, proxy', haddress', hproxy', hfile⟩ := Stunnel.clientConfig_saysAll htext
    cases haddress.symm.trans haddress'
    cases hproxy.symm.trans hproxy'
    refine ⟨proxy, text, hproxy, htext, (hfile.subset ?_).of_texts ?_⟩
    · intro s hs
      rcases List.mem_cons.1 hs with hs | hs <;> simp [Stunnel.clientSettings, hs]
    · simp only [Stunnel.clientTexts, List.forall_mem_cons, List.not_mem_nil, false_implies, implies_true, and_true]
      exact ⟨.inr hbreak, .inl (by simp), .inl (by simp), .inl (by simp), .inr (o.not_hasBreak_caVerifyLevel hvalid)⟩

end Endpoint

/-! ## Planned ingresses -/

namespace MigrationConfig

variable {config : MigrationConfig} {pairs : PairList} {subdomain : String} {className : Option String}

theorem buildEndpoint_ingress (hconfig : config.endpoint = .ingress subdomain className) (pairs : PairList) :
    ∃ e, config.buildEndpoint pairs = .ok e ∧ e.name = ⟨pairs.destinationNamespace, endpointName pairs.transferId⟩ ∧
      e.entry = .ingress className (e.fullLabel ++ "." ++ subdomain) := by
  unfold buildEndpoint
  rw [hconfig]
  exact ⟨_, rfl, rfl, rfl⟩

/-- The ingress that a configuration describes has one host in everything that leads to it. With a legal namespace and a
legal domain it is the name of a host exactly if the namespace has at most 24 characters. -/
theorem buildEndpoint_isHost_iff (hconfig : config.endpoint = .ingress subdomain className) (pairs : PairList)
    (hns : Text.isLabel pairs.destinationNamespace.toList = true) (hdomain : Text.isHost subdomain = true) :
    ∃ e host, config.buildEndpoint pairs = .ok e ∧ e.UsesHost host ∧
      (Text.isHost host = true ↔ pairs.destinationNamespace.length ≤ 24) := by
  obtain ⟨e, hbuild, hname, hentry⟩ := buildEndpoint_ingress hconfig pairs
  have hid : Text.IsDigest pairs.transferId := Text.isDigest_md5Hex _
  have hlabel : Text.isLabel e.fullLabel.toList = true :=
    Endpoint.isLabel_fullLabel (by rw [hname]; exact isLabel_endpointName hid) (by rw [hname]; exact hns)
  have hlength : e.fullLabel.length = 39 + pairs.destinationNamespace.length := by
    rw [← String.length_toList, Endpoint.toList_fullLabel, hname, List.length_append, List.length_cons,
      length_endpointName hid, String.length_toList, ← Nat.add_assoc, Nat.add_right_comm]
  refine ⟨e, _, hbuild, Endpoint.usesHost_of_ingress hentry ?_, ?_⟩
  · rw [ConfigFile.hasBreak_append, ConfigFile.hasBreak_append, not_or, not_or]
    exact ⟨⟨Text.not_hasBreak_of_isLabel hlabel, by decide⟩, Text.not_hasBreak_of_isHost hdomain⟩
  · rw [Text.isHost_append hlabel, hlength, and_iff_left hdomain]
    omega

/-- A migration over an ingress. -/
def overIngress : MigrationConfig where
  pairs := [{ source := ⟨"shop", "data"⟩, destination := some ⟨"depot", ""⟩ }]
  endpoint := .ingress "apps.example.com" none
  transfer := .rclone

theorem buildEndpoint_isHost_iff_depot : Text.isLabel Endpoint.shopToDepot.destinationNamespace.toList = true ∧
    Text.isHost "apps.example.com" = true ∧ ∃ e host, overIngress.buildEndpoint Endpoint.shopToDepot = .ok e ∧
      e.UsesHost host ∧ Text.isHost host = true := by
  have hconfig : overIngress.endpoint = .ingress "apps.example.com" none := rfl
  obtain ⟨e, host, hbuild, huses, hiff⟩ := buildEndpoint_isHost_iff hconfig Endpoint.shopToDepot (by decide +kernel)
    (by decide +kernel)
  exact ⟨by decide +kernel, by decide +kernel, e, host, hbuild, huses, hiff.2 (by decide +kernel)⟩

/-- The claim moves to a depot with a long name. -/
def shopToNightShift : PairList where
  pairs := [Pair.ofClaims (.named ⟨"shop", "data"⟩) (some (.named ⟨"depot-for-the-night-shift", "data"⟩))]
  sound := by decide +kernel

/-- The namespace and the domain are legal, and the first label of the ingress' host has 64 characters. -/
theorem buildEndpoint_shopToNightShift_tooLong : ∃ e host,
    overIngress.buildEndpoint shopToNightShift = .ok e ∧ e.hostname? = some host ∧
      Text.isLabel shopToNightShift.destinationNamespace.toList = true ∧
      shopToNightShift.destinationNamespace.length ≤ 63 ∧ Text.isHost "apps.example.com" = true ∧
      Text.isHost host = false := by
  refine ⟨_, _, rfl, rfl, ?_⟩
  decide +kernel

end MigrationConfig

end VolumeMigration
