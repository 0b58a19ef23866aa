import VolumeMigration.Proofs.FailureFree
import VolumeMigration.Proofs.Plans
import VolumeMigration.Proofs.SharedClusters
/-!
# Planned transfers can be started

Where nothing is in the way of a server, everything that it consists of can be
created, since planning has checked all else. There is one exception: the host of
a route with a long name is not known before it is created, and takes the domain
of the destination's apps if the route has none of its own
(`Transfer.createServer_ok_iff_of_plan`).
-/

namespace VolumeMigration

open Attempt

/-! ## Attempts that add objects -/

namespace Attempt

variable {a b : Attempt Cluster Unit} {keys keys' : List Key} {o : Object} {ns : String}

/-- In a cluster without failures and without anything under the keys, the attempt succeeds, and it
changes nothing but what is under the keys. -/
def Adds (keys : List Key) (a : Attempt Cluster Unit) : Prop :=
  ∀ c : Cluster, c.FailureFree → (∀ key ∈ keys, c.objects.get? key = none) →
    ∃ c', outcome a c = (.ok (), c') ∧ c'.FailureFree ∧
      ∀ key, key ∉ keys → c'.objects.get? key = c.objects.get? key

theorem Adds.nothing : (pure () : Attempt Cluster Unit).Adds [] :=
  fun c hc _ => ⟨c, rfl, hc, fun _ _ => rfl⟩

theorem Adds.bind (ha : a.Adds keys) (hb : b.Adds keys') (hdis : ∀ key ∈ keys', key ∉ keys) :
    (a >>= fun _ => b).Adds (keys ++ keys') := by
  intro c hc habsent
  obtain ⟨c₁, hrun, hc₁, hframe⟩ := ha c hc fun key hk => habsent key (List.mem_append_left _ hk)
  obtain ⟨c₂, hrun', hc₂, hframe'⟩ := hb c₁ hc₁ fun key hk =>
    (hframe key (hdis key hk)).trans (habsent key (List.mem_append_right _ hk))
  refine ⟨c₂, by rw [outcome_bind_ok hrun, hrun'], hc₂, fun key hk => ?_⟩
  rw [List.mem_append, not_or] at hk
  exact (hframe' key hk.2).trans (hframe key hk.1)

theorem adds_createObject (hns : o.metadata.ns = some ns) : (Endpoint.createObject o).Adds [o.key] := by
  intro c hc habsent
  refine ⟨_, outcome_bind_ok (hc.create_ok hns (habsent o.key (by simp))) _, hc.wrote _ _ _, fun key hk => ?_⟩
  exact c.get?_wrote_of_ne .create ns o (by simpa using hk)

/-- Where the object is missing it is created. -/
theorem adds_write (hns : o.metadata.ns = some ns) :
    (do let _ ← Cluster.createOrUpdate o : Attempt Cluster Unit).Adds [o.key] := by
  intro c hc habsent
  have hthere := habsent o.key (by simp)
  have hkey : o.key = ⟨o.kind, ns, o.lookupName⟩ := by simp [Object.key, Object.objectName, hns]
  have hnames : outcome (ofResult o.namespace? : Attempt Cluster String) c = (.ok ns, c) := by
    rw [outcome_ofResult, Object.namespace?, hns]
  have hrun : outcome (Cluster.createOrUpdate o) c =
      (.ok (o.withVersion (some (Nat.repr (c.version + 1)))), c.wrote .create ns o) := by
    rw [Cluster.createOrUpdate, outcome_bind_ok hnames, outcome_bind_ok (hc.find?_none (hkey ▸ hthere))]
    exact hc.create_ok hns hthere
  refine ⟨_, outcome_bind_ok hrun _, hc.wrote _ _ _, fun key hk => ?_⟩
  exact c.get?_wrote_of_ne .create ns o (by simpa using hk)

theorem adds_inOrder_map {make : Object → Attempt Cluster Unit} {os : List Object}
    (h : ∀ o ∈ os, (make o).Adds [o.key]) (hnd : (os.map Object.key).Nodup) :
    (inOrder (os.map make)).Adds (os.map Object.key) := by
  induction os with
  | nil => exact .nothing
  | cons o os ih =>
    obtain ⟨hout, hnd'⟩ := List.nodup_cons.1 hnd
    refine (h o List.mem_cons_self).bind (ih (fun a ha => h a (List.mem_cons_of_mem o ha)) hnd')
      fun key hk he => hout ?_
    rwa [← List.mem_singleton.1 he]

/-- After a first part that succeeds, the others decide. -/
theorem outcome_all_cons {σ : Type} {resource : String} {a : Attempt σ Unit} {as : List (Attempt σ Unit)} {s s₁ : σ}
    (h : outcome a s = (.ok (), s₁)) : outcome (all resource (a :: as)) s = outcome (all resource as) s₁ := by
  have hcaught : outcome (caught a) s = (.ok (.ok ()), s₁) := by rw [outcome_caught, h]
  unfold all
  rw [List.mapM_cons, outcome_bind, outcome_bind_ok hcaught, outcome_bind, outcome_bind]
  rcases outcome (as.mapM caught) s₁ with ⟨f | rs, s₂⟩ <;> rfl

end Attempt

/-! ## Hosts of routes -/

/-- The cluster's ingress configuration names a domain for its apps. -/
def Cluster.NamesAppsDomain (c : Cluster) : Prop :=
  ∃ o config spec, c.objects.get? ⟨.ingress, "", Endpoint.clusterIngressName⟩ = some o ∧
    Object.clusterIngressOfJson? o.toJson = some config ∧ config.content = .clusterIngress spec ∧ spec.domain ≠ ""

namespace Endpoint

variable {c c' : Cluster} {e : Endpoint}

/-- The endpoint is a route without a domain of its own whose name and namespace are too long for the
router to make a host of them. -/
def NeedsAppsDomain (e : Endpoint) : Prop :=
  (∃ termination hostname, e.entry = .route termination none hostname) ∧
    maxHostLabel < s!"{e.name.name}-{e.name.ns}".utf8ByteSize

/-- The keys of an endpoint's objects. -/
def keys (e : Endpoint) : List Key := e.kinds.map fun k => ⟨k, e.name.ns, e.name.name⟩

theorem kind_keys {key : Key} (h : key ∈ e.keys) : key.kind ∈ [Kind.service, .route, .ingress] := by
  obtain ⟨k, hk, rfl⟩ := List.mem_map.1 h
  unfold kinds at hk
  cases htype : e.type <;> simp only [htype, List.mem_cons, List.not_mem_nil, or_false] at hk
  · rcases hk with rfl | rfl <;> simp
  · rcases hk with rfl | rfl <;> simp
  · simp [hk]

theorem hostLabel?_eq_none_iff :
    e.hostLabel? = none ↔ s!"{e.name.name}-{e.name.ns}".utf8ByteSize ≤ maxHostLabel := by
  unfold hostLabel?
  simp

theorem appsDomain_ok_iff (hc : c.FailureFree) :
    (∃ domain, outcome appsDomain c = (.ok domain, c)) ↔ c.NamesAppsDomain := by
  unfold appsDomain Cluster.clusterIngress? Cluster.NamesAppsDomain
  simp only [outcome_bind, outcome_get, Cluster.outcome_failWith, hc.refusal?_eq_none, hc.fault?_eq_none]
  cases c.objects.get? ⟨.ingress, "", clusterIngressName⟩ with
  | none => simp
  | some o =>
    cases hconfig : Object.clusterIngressOfJson? o.toJson with
    | none => simp [hconfig]
    | some config =>
      cases hcontent : config.content <;> simp [hconfig, hcontent]
      rename_i spec
      by_cases hdomain : spec.domain = "" <;> simp [hdomain]

theorem routeHost_ok_iff {termination : Termination} {subdomain hostname : Option String} (hc : c.FailureFree)
    (hentry : e.entry = .route termination subdomain hostname) :
    (∃ host, outcome (e.routeHost subdomain) c = (.ok host, c)) ↔ (e.NeedsAppsDomain → c.NamesAppsDomain) := by
  unfold routeHost
  cases hlabel : e.hostLabel? with
  | none =>
    have hshort := hostLabel?_eq_none_iff.1 hlabel
    exact iff_of_true ⟨none, rfl⟩ fun hneeds => absurd hneeds.2 (Nat.not_lt.2 hshort)
  | some label =>
    cases subdomain with
    | some domain =>
      refine iff_of_true ⟨_, rfl⟩ ?_
      rintro ⟨⟨_, _, hroute⟩, -⟩
      rw [hentry] at hroute
      cases hroute
    | none =>
      have hlong : maxHostLabel < s!"{e.name.name}-{e.name.ns}".utf8ByteSize := by
        rw [← Nat.not_le, ← hostLabel?_eq_none_iff, hlabel]
        rintro ⟨⟩
      have hneeds : e.NeedsAppsDomain := ⟨⟨_, _, hentry⟩, hlong⟩
      rw [← appsDomain_ok_iff hc]
      constructor
      · rintro ⟨host, h⟩ -
        obtain ⟨domain, c₁, hdomain, -⟩ := bind_eq_ok.1 h
        obtain rfl := appsDomain_reads.state_eq hdomain
        exact ⟨domain, hdomain⟩
      · intro h
        obtain ⟨domain, hdomain⟩ := h hneeds
        exact ⟨_, outcome_bind_ok hdomain _⟩

theorem namesAppsDomain_congr (h : c'.objects.get? ⟨.ingress, "", clusterIngressName⟩ =
    c.objects.get? ⟨.ingress, "", clusterIngressName⟩) : c'.NamesAppsDomain ↔ c.NamesAppsDomain := by
  unfold Cluster.NamesAppsDomain
  rw [h]

theorem service_key (e : Endpoint) : e.service.key = ⟨.service, e.name.ns, e.name.name⟩ := rfl

/-- Where nothing is in its way an endpoint can be created, unless the host of its route is not known. -/
theorem create_ok_iff (hc : c.FailureFree) (habsent : ∀ key ∈ e.keys, c.objects.get? key = none) :
    (∃ c', outcome e.create c = (.ok (), c')) ↔ (e.NeedsAppsDomain → c.NamesAppsDomain) := by
  have hservice : c.objects.get? e.service.key = none := by
    refine habsent _ ?_
    unfold keys kinds
    cases e.type <;> simp [service_key]
  obtain ⟨c₁, hrun, hc₁, hframe⟩ := adds_createObject (show e.service.metadata.ns = some e.name.ns from rfl) c hc
    (by simpa using hservice)
  have hdomain := namesAppsDomain_congr (hframe ⟨.ingress, "", clusterIngressName⟩ (by simp [service_key]))
  have habsent₁ : ∀ key ∈ e.keys, key.kind ≠ .service → c₁.objects.get? key = none := by
    intro key hkey hkind
    rw [hframe key fun hk => hkind (by rw [List.mem_singleton.1 hk]; rfl), habsent key hkey]
  rw [create, outcome_all_cons hrun]
  unfold createRouters
  cases hentry : e.entry with
  | route termination subdomain hostname =>
    rw [← hdomain, ← routeHost_ok_iff hc₁ hentry]
    have hroute : c₁.objects.get? ⟨.route, e.name.ns, e.name.name⟩ = none :=
      habsent₁ _ (by simp [keys, kinds, type, hentry]) (by simp)
    constructor
    · rintro ⟨c', h⟩
      obtain ⟨c₂, hparts, -⟩ := all_cons_ok h
      obtain ⟨host, c₃, hhost, -⟩ := bind_eq_ok.1 hparts
      obtain rfl := (routeHost_reads e subdomain).state_eq hhost
      exact ⟨host, hhost⟩
    · rintro ⟨host, hhost⟩
      obtain ⟨c₂, hcreate, -, -⟩ := adds_createObject
        (show (e.route termination host).metadata.ns = some e.name.ns from rfl) c₁ hc₁
        (by rintro key hk; rw [List.mem_singleton.1 hk]; exact hroute)
      have hpart : outcome (do createObject (e.route termination (← e.routeHost subdomain)) : Attempt Cluster Unit) c₁ =
          (.ok (), c₂) := by rw [outcome_bind_ok hhost, hcreate]
      exact ⟨c₂, by rw [outcome_all_cons hpart]; rfl⟩
  | ingress className hostname =>
    have hingress : c₁.objects.get? ⟨.ingress, e.name.ns, e.name.name⟩ = none :=
      habsent₁ _ (by simp [keys, kinds, type, hentry]) (by simp)
    obtain ⟨c₂, hcreate, -, -⟩ := adds_createObject
      (show (e.ingress className hostname).metadata.ns = some e.name.ns from rfl) c₁ hc₁
      (by rintro key hk; rw [List.mem_singleton.1 hk]; exact hingress)
    refine iff_of_true ⟨c₂, by rw [outcome_all_cons hcreate]; rfl⟩ ?_
    rintro ⟨⟨_, _, hroute⟩, -⟩
    rw [hentry] at hroute
    cases hroute
  | clusterIP | nodePort _ _ | loadBalancer _ =>
    refine iff_of_true ⟨c₁, rfl⟩ ?_
    rintro ⟨⟨_, _, hroute⟩, -⟩
    rw [hentry] at hroute
    cases hroute

end Endpoint

/-! ## Servers -/

namespace Transfer

variable {t : Transfer} {issued : TlsMaterial} {c c' : Cluster}

/-- The keys of a server's files, of its tunnel's files and of what runs it. -/
def payloadKeys (t : Transfer) : List Key :=
  t.serverFiles.map Object.key ++ t.tunnelKeys .server ++ [t.server.key]

/-- The keys of everything that is created for a server. -/
def serverKeys (t : Transfer) : List Key := t.payloadKeys ++ t.endpoint.keys

theorem kind_server (t : Transfer) : t.server.key.kind = .deployment ∨ t.server.key.kind = .pod := by
  unfold server
  cases t.method
  · exact .inl rfl
  · exact .inl rfl
  · exact .inr rfl

theorem ns_server (t : Transfer) (issued : TlsMaterial) :
    (t.asServer issued).server.metadata.ns = some t.serverNamespace := by
  unfold server asServer
  cases t.method <;> rfl

theorem kind_serverFiles {key : Key} (h : key ∈ t.serverFiles.map Object.key) :
    key.kind = .configMap ∨ key.kind = .secret := by
  rw [keys_serverFiles] at h
  unfold serverFileKeys at h
  split at h <;> simp at h
  · rcases h with rfl | rfl <;> simp
  · simp [h]

theorem nodup_serverFiles (t : Transfer) : (t.serverFiles.map Object.key).Nodup := by
  rw [keys_serverFiles]
  unfold serverFileKeys
  split <;> simp

/-- Neither an endpoint's object nor the configuration of a cluster's ingress is among them. -/
theorem kind_payloadKeys {key : Key} (h : key ∈ t.payloadKeys) :
    key.kind ∈ [Kind.configMap, .secret, .deployment, .pod] := by
  simp only [payloadKeys, List.mem_append, List.mem_singleton] at h
  rcases h with (h | h) | rfl
  · rcases kind_serverFiles h with h | h <;> simp [h]
  · rcases kind_tunnelKeys h with h | h <;> simp [h]
  · rcases t.kind_server with h | h <;> simp [h]

/-- The steps of a server up to its endpoint add all they are to create. -/
theorem adds_payload {os : List Object} (htunnel : (t.serverParts issued).tunnel = .ok os) :
    (do
      inOrder (t.serverFiles.map Endpoint.createObject)
      Stunnel.writeAll os
      Endpoint.createObject (t.asServer issued).server : Attempt Cluster Unit).Adds t.payloadKeys := by
  obtain ⟨hkeys, hns⟩ := (t.serverParts_of issued).tunnel os htunnel
  have hfiles : (inOrder (t.serverFiles.map Endpoint.createObject)).Adds (t.serverFiles.map Object.key) :=
    adds_inOrder_map (fun o ho => adds_createObject (ns_of_mem_serverFiles ho)) t.nodup_serverFiles
  have hnd : (os.map Object.key).Nodup := by
    rw [hkeys, tunnelKeys]
    split <;> simp [Stunnel.keys]
  have htunnels : (Stunnel.writeAll os).Adds (t.tunnelKeys .server) :=
    hkeys ▸ adds_inOrder_map (fun o ho => adds_write (hns o ho)) hnd
  have hserver : (Endpoint.createObject (t.asServer issued).server).Adds [t.server.key] :=
    key_server_asServer t issued ▸ adds_createObject (ns_server t issued)
  have hlast : ∀ key ∈ [t.server.key], key ∉ t.tunnelKeys .server := by
    intro key hkey hmem
    rw [List.mem_singleton.1 hkey] at hmem
    rcases t.kind_server with h | h <;> rcases kind_tunnelKeys hmem with h' | h' <;> simp [h] at h'
  unfold payloadKeys
  rw [List.append_assoc]
  refine hfiles.bind (htunnels.bind hserver hlast) fun key hkey hmem => ?_
  rcases List.mem_append.1 hkey with hkey | hkey
  · obtain ⟨o, ho, rfl⟩ := List.mem_map.1 hmem
    obtain ⟨-, hkey⟩ := mem_tunnelKeys.1 hkey
    exact not_mem_keys_of_head (head_of_mem_serverFiles ho) _ _ hkey
  · rw [List.mem_singleton.1 hkey] at hmem
    rcases t.kind_server with h | h <;> rcases kind_serverFiles hmem with h' | h' <;> simp [h] at h'

/-- Where nothing is in its way a server can be created if its tunnel is not turned down, unless the host of its
route is not known. -/
theorem createServer_ok_iff {os : List Object} (htunnel : (t.serverParts issued).tunnel = .ok os) (hc : c.FailureFree)
    (habsent : ∀ key ∈ t.serverKeys, c.objects.get? key = none) :
    (∃ t' c', outcome (createServer issued) (t, c) = (.ok (), (t', c'))) ↔
      (t.endpoint.NeedsAppsDomain → c.NamesAppsDomain) := by
  obtain ⟨c₁, hrun, hc₁, hframe⟩ := adds_payload htunnel c hc fun key hk => habsent key (List.mem_append_left _ hk)
  -- After the first steps the endpoint decides, and nothing of what matters to it has changed.
  have hsteps : outcome (t.serverParts issued).create c = outcome t.endpoint.create c₁ := by
    obtain ⟨⟨⟩, c₂, hfiles, hrest⟩ := bind_eq_ok.1 hrun
    obtain ⟨⟨⟩, c₃, hwrites, hserver⟩ := bind_eq_ok.1 hrest
    have hwrites' : outcome (Stunnel.writeFiles (t.serverParts issued).tunnel) c₂ = (.ok (), c₃) := by
      rw [Stunnel.writeFiles, htunnel]
      exact hwrites
    change outcome (do
      inOrder (t.serverFiles.map Endpoint.createObject)
      Stunnel.writeFiles (t.serverParts issued).tunnel
      inOrder [Endpoint.createObject (t.asServer issued).server, t.endpoint.create]) c = _
    rw [outcome_bind_ok hfiles, outcome_bind_ok hwrites', inOrder, outcome_bind_ok hserver, inOrder_singleton]
  have hdomain : c₁.NamesAppsDomain ↔ c.NamesAppsDomain :=
    Endpoint.namesAppsDomain_congr (hframe _ fun hk => by simpa using kind_payloadKeys hk)
  have hfree : ∀ key ∈ t.endpoint.keys, c₁.objects.get? key = none := by
    intro key hkey
    rw [hframe key ?_, habsent key (List.mem_append_right _ hkey)]
    intro hk
    have hout := kind_payloadKeys hk
    have hin := Endpoint.kind_keys hkey
    simp only [List.mem_cons, List.not_mem_nil, or_false] at hin
    rcases hin with hin | hin | hin <;> simp [hin] at hout
  have hdone : (∃ t' c', outcome (createServer issued) (t, c) = (.ok (), (t', c'))) ↔
      ∃ c', outcome t.endpoint.create c₁ = (.ok (), c') := by
    rw [← hsteps, ← cluster_createServer]
    unfold Attempt.cluster
    rcases outcome (createServer issued) (t, c) with ⟨r, t', c'⟩
    simp
  rw [hdone, Endpoint.create_ok_iff hc₁ hfree, hdomain]

/-- The options of a tunnel were checked when it was planned. -/
theorem Planned.tunnel_ok (h : t.Planned) (issued : TlsMaterial) : ∃ os, (t.serverParts issued).tunnel = .ok os := by
  unfold serverParts Transport.serverObjects
  rcases h.transport with hdirect | ⟨options, hvalid, hstunnel⟩
  · rw [hdirect]
    exact ⟨[], rfl⟩
  · rw [hstunnel]
    simp only [hvalid]
    exact ⟨_, rfl⟩

/-- A transfer that was planned can be started in a destination where nothing is in its way, and nothing fails. Only
the domain of a route may be missing: if its name is long and it has no domain of its own, then the server can be
created just if the destination's ingress configuration names a domain for its apps. -/
theorem createServer_ok_iff_of_plan {config : MigrationConfig} {password : String} {source destination : Cluster}
    {after : Cluster × Cluster}
    (hplan : outcome (config.plan password) (source, destination) = (.ok t, after)) (hfree : destination.FailureFree)
    (habsent : ∀ key ∈ t.serverKeys, destination.objects.get? key = none) (issued : TlsMaterial) :
    (∃ t' destination', outcome (createServer issued) (t, destination) = (.ok (), (t', destination'))) ↔
      (t.endpoint.NeedsAppsDomain → destination.NamesAppsDomain) := by
  obtain ⟨-, hplanned⟩ := MigrationConfig.plan_ok hplan
  obtain ⟨os, htunnel⟩ := hplanned.tunnel_ok issued
  exact createServer_ok_iff htunnel hfree habsent

/-- A claim that moves to a depot with a long name, over a route that ends TLS and has no domain of its own. -/
def nightShift : MigrationConfig where
  pairs := [{ source := ⟨"shop", "data"⟩, destination := some ⟨"depot-for-the-night-shift", ""⟩ }]
  endpoint := .route .edge none
  transport := .none
  transfer := .rclone

/-- A cluster with the claim. -/
def shop : Cluster := ({} : Cluster).place (Claim.named ⟨"shop", "data"⟩).toObject

/-- A cluster whose ingress configuration names a domain, and nothing else. -/
def withApps : Cluster := ({} : Cluster).place
  { metadata := { name := some Endpoint.clusterIngressName }
    content := .clusterIngress { domain := "apps.example.com" } }

theorem namesAppsDomain_withApps : withApps.NamesAppsDomain :=
  ⟨_, _, _, rfl, rfl, rfl, by decide⟩

theorem createServer_ok_iff_nightShift : ∃ t after,
    outcome (nightShift.plan "secret") (shop, withApps) = (.ok t, after) ∧ withApps.FailureFree ∧
      (∀ key ∈ t.serverKeys, withApps.objects.get? key = none) ∧
      ∃ t' destination', outcome (createServer default) (t, withApps) = (.ok (), (t', destination')) := by
  obtain ⟨t, after, hplan, habsent⟩ := exists_ok_of_any (a := nightShift.plan "secret") (s := (shop, withApps))
    (p := fun t => t.serverKeys.all fun key => !withApps.objects.contains key) (by decide +kernel)
  have habsent' : ∀ key ∈ t.serverKeys, withApps.objects.get? key = none := by
    intro key hkey
    simpa [SortedMap.contains] using List.all_eq_true.1 habsent key hkey
  exact ⟨t, after, hplan, ⟨rfl, rfl⟩, habsent',
    (createServer_ok_iff_of_plan hplan ⟨rfl, rfl⟩ habsent' default).2 fun _ => namesAppsDomain_withApps⟩

/-- Without such a domain the plan is the same, and its server cannot be created in an empty cluster. -/
theorem createServer_nightShift_fails : ∃ t after,
    outcome (nightShift.plan "secret") (shop, {}) = (.ok t, after) ∧ ({} : Cluster).FailureFree ∧
      (∀ key ∈ t.serverKeys, ({} : Cluster).objects.get? key = none) ∧ t.transport.isDirect = true ∧
      ¬∃ t' destination', outcome (createServer default) (t, {}) = (.ok (), (t', destination')) := by
  obtain ⟨t, after, hplan, hfails⟩ := exists_ok_of_any (a := nightShift.plan "secret") (s := (shop, {}))
    (p := fun t => t.transport.isDirect && !(outcome (createServer default) (t, {})).1.isOk) (by decide +kernel)
  rw [Bool.and_eq_true] at hfails
  refine ⟨t, after, hplan, ⟨rfl, rfl⟩, fun _ _ => rfl, hfails.1, ?_⟩
  rintro ⟨t', destination', h⟩
  rw [h] at hfails
  cases hfails.2

end Transfer

end VolumeMigration
