import VolumeMigration.Proofs.Creation
import VolumeMigration.Transfer.Lifecycle
/-!
# What a side of a transfer consists of

The server's side is its files, the transport's files, the pods with the
side-cars of the transport, and the endpoint; the client's side is the same
without an endpoint. A creation that succeeds leaves all of it in the cluster
(`Transfer.createServer_ok`, `Transfer.createClient_ok`).
-/

namespace VolumeMigration

open Attempt

/-! ## Tunnels -/

namespace Stunnel

variable {c c' : Cluster} {t t' : Stunnel} {e : Endpoint} {issued : TlsMaterial} {ns id : String} {port : Nat}
  {controlFile : Option String}

/-- The tunnel with the side-car of its server's side. -/
def asServer (issued : TlsMaterial) (id : String) (controlFile : Option String) (t : Stunnel) : Stunnel :=
  { t with
    material := some (t.material.getD issued)
    serverContainers := [container t.options Endpoint.exposedPort controlFile]
    serverVolumes := volumes id }

/-- The tunnel with the side-car of its client's side. -/
def asClient (id : String) (controlFile : Option String) (t : Stunnel) : Stunnel :=
  { t with
    clientContainers := [container t.options clientPort controlFile]
    clientVolumes := volumes id }

theorem nodup_objects (ns id : String) (side : Side) (config : String) (material : TlsMaterial) :
    ((objects ns id side config material).map Object.key).Nodup := by
  simp [objects, Object.key, Manifest.configMap, Manifest.secret, Object.kind, Content.kind]

/-- The files of a side are written, and nothing that is named otherwise. -/
theorem writeObjects_ok {side : Side} {config : String} {material : TlsMaterial}
    (h : outcome (writeAll (objects ns id side config material)) c = (.ok (), c')) :
    (∀ o ∈ objects ns id side config material, c'.Holds o) ∧
      ∀ key, key.name ≠ configMapName id → key.name ≠ secretName id →
        c'.objects.get? key = c.objects.get? key := by
  obtain ⟨hheld, hframe⟩ := writeAll_ok _ (nodup_objects _ _ _ _ _) h
  refine ⟨hheld, fun key hmap hsecret => hframe key fun hmem => ?_⟩
  simp only [objects, List.map_cons, List.map_nil, List.mem_cons, List.not_mem_nil, or_false] at hmem
  rcases hmem with rfl | rfl
  · exact hmap rfl
  · exact hsecret rfl

theorem createServer_ok
    (h : outcome (createServer issued id e port controlFile) (t, c) = (.ok (), (t', c'))) :
    t.options.validate = .ok () ∧ t' = t.asServer issued id controlFile ∧
      (∀ o ∈ objects e.name.ns id .server (serverConfig t.options port) (t.material.getD issued), c'.Holds o) ∧
      ∀ key, key.name ≠ configMapName id → key.name ≠ secretName id →
        c'.objects.get? key = c.objects.get? key := by
  unfold createServer at h
  obtain ⟨_, _, hget, h⟩ := bind_eq_ok.1 h
  cases hget
  obtain ⟨⟨⟩, s, hvalid, h⟩ := bind_eq_ok.1 h
  obtain ⟨hoptions, rfl⟩ := Prod.mk.inj hvalid
  obtain ⟨⟨⟩, s, hmod, h⟩ := bind_eq_ok.1 h
  cases hmod
  obtain ⟨⟨⟩, ⟨t₁, c₁⟩, hwrite, h⟩ := bind_eq_ok.1 h
  obtain ⟨rfl, hobjects⟩ := onSecond_eq_ok.1 hwrite
  cases h
  obtain ⟨hheld, hframe⟩ := writeObjects_ok hobjects
  exact ⟨hoptions, rfl, hheld, hframe⟩

theorem createClient_ok (h : outcome (createClient ns id e controlFile) (t, c) = (.ok (), (t', c'))) :
    t.options.validate = .ok () ∧ t' = t.asClient id controlFile ∧
      ∃ material config, t.material = some material ∧ clientConfig t.options e = .ok config ∧
        (∀ o ∈ objects ns id .client config material, c'.Holds o) ∧
        ∀ key, key.name ≠ configMapName id → key.name ≠ secretName id →
          c'.objects.get? key = c.objects.get? key := by
  unfold createClient at h
  obtain ⟨_, _, hget, h⟩ := bind_eq_ok.1 h
  cases hget
  obtain ⟨⟨⟩, s, hvalid, h⟩ := bind_eq_ok.1 h
  obtain ⟨hoptions, rfl⟩ := Prod.mk.inj hvalid
  cases hm : t.material with
  | none =>
    simp only [hm] at h
    cases h
  | some material =>
    simp only [hm] at h
    obtain ⟨config, s, hconfig, h⟩ := bind_eq_ok.1 h
    obtain ⟨hok, rfl⟩ := Prod.mk.inj hconfig
    obtain ⟨⟨⟩, ⟨t₁, c₁⟩, hwrite, h⟩ := bind_eq_ok.1 h
    obtain ⟨rfl, hobjects⟩ := onSecond_eq_ok.1 hwrite
    cases h
    obtain ⟨hheld, hframe⟩ := writeObjects_ok hobjects
    exact ⟨hoptions, rfl, material, config, rfl, hok, hheld, hframe⟩

end Stunnel

/-! ## Transports -/

namespace Transport

variable {c c' : Cluster} {t t' : Transport} {e : Endpoint} {issued : TlsMaterial} {ns id : String} {port : Nat}
  {controlFile : Option String}

/-- The transport once its server's side was created. -/
def asServer (issued : TlsMaterial) (id : String) (e : Endpoint) (controlFile : Option String) : Transport → Transport
  | stunnel t => .stunnel (t.asServer issued id controlFile)
  | direct _ => .direct e.port?

/-- The transport once its client's side was created. -/
def asClient (id : String) (e : Endpoint) (controlFile : Option String) : Transport → Transport
  | stunnel t => .stunnel (t.asClient id controlFile)
  | direct _ => .direct e.port?

/-- The files of the server's side are there. -/
def ServerHeld (issued : TlsMaterial) (id : String) (e : Endpoint) (port : Nat) (c : Cluster) : Transport → Prop
  | stunnel t =>
    ∀ o ∈ Stunnel.objects e.name.ns id .server (Stunnel.serverConfig t.options port) (t.material.getD issued), c.Holds o
  | direct _ => True

/-- The files of the client's side are there. -/
def ClientHeld (ns id : String) (e : Endpoint) (c : Cluster) : Transport → Prop
  | stunnel t => ∃ material config, t.material = some material ∧ Stunnel.clientConfig t.options e = .ok config ∧
      ∀ o ∈ Stunnel.objects ns id .client config material, c.Holds o
  | direct _ => True

theorem ServerHeld.grows (h : t.ServerHeld issued id e port c) (hc : c.Grows c') :
    t.ServerHeld issued id e port c' := by
  cases t with
  | stunnel t => exact fun o ho => (h o ho).grows hc
  | direct _ => exact h

theorem ClientHeld.grows (h : t.ClientHeld ns id e c) (hc : c.Grows c') : t.ClientHeld ns id e c' := by
  cases t with
  | stunnel t =>
    obtain ⟨material, config, hm, hconfig, hheld⟩ := h
    exact ⟨material, config, hm, hconfig, fun o ho => (hheld o ho).grows hc⟩
  | direct _ => exact h

theorem onTunnel_eq_ok {tunnel : Stunnel} {a : Attempt (Stunnel × Cluster) Unit}
    (h : outcome (onTunnel tunnel a) (t, c) = (.ok (), (t', c'))) :
    ∃ tunnel', t' = .stunnel tunnel' ∧ outcome a (tunnel, c) = (.ok (), (tunnel', c')) := by
  unfold onTunnel at h
  rw [outcome_within] at h
  obtain ⟨hok, hs⟩ := Prod.mk.inj h
  obtain ⟨rfl, rfl⟩ := Prod.mk.inj hs
  exact ⟨_, rfl, Prod.ext hok rfl⟩

theorem createServer_ok
    (h : outcome (createServer issued id e port controlFile) (t, c) = (.ok (), (t', c'))) :
    t' = t.asServer issued id e controlFile ∧ t.ServerHeld issued id e port c' ∧
      ∀ key, key.name ≠ Stunnel.configMapName id → key.name ≠ Stunnel.secretName id →
        c'.objects.get? key = c.objects.get? key := by
  unfold createServer at h
  obtain ⟨_, _, hget, h⟩ := bind_eq_ok.1 h
  cases hget
  cases t with
  | stunnel tunnel =>
    obtain ⟨tunnel', rfl, htunnel⟩ := onTunnel_eq_ok h
    obtain ⟨-, rfl, hheld, hframe⟩ := Stunnel.createServer_ok htunnel
    exact ⟨rfl, hheld, hframe⟩
  | direct port =>
    cases h
    exact ⟨rfl, True.intro, fun _ _ _ => rfl⟩

theorem createClient_ok (h : outcome (createClient ns id e controlFile) (t, c) = (.ok (), (t', c'))) :
    t' = t.asClient id e controlFile ∧ t.ClientHeld ns id e c' ∧
      ∀ key, key.name ≠ Stunnel.configMapName id → key.name ≠ Stunnel.secretName id →
        c'.objects.get? key = c.objects.get? key := by
  unfold createClient at h
  obtain ⟨_, _, hget, h⟩ := bind_eq_ok.1 h
  cases hget
  cases t with
  | stunnel tunnel =>
    obtain ⟨tunnel', rfl, htunnel⟩ := onTunnel_eq_ok h
    obtain ⟨-, rfl, material, config, hm, hconfig, hheld, hframe⟩ := Stunnel.createClient_ok htunnel
    exact ⟨rfl, ⟨material, config, hm, hconfig, hheld⟩, hframe⟩
  | direct port =>
    cases h
    exact ⟨rfl, True.intro, fun _ _ _ => rfl⟩

end Transport

/-! ## Endpoints -/

namespace Endpoint

variable {c c' : Cluster} {e : Endpoint}

/-- The service of the endpoint is there, and the route or the ingress in front of it. -/
def Held (e : Endpoint) (c : Cluster) : Prop :=
  c.Holds e.service ∧ match e.entry with
    | .route termination _ _ => ∃ host, c.Holds (e.route termination host)
    | .ingress className hostname => c.Holds (e.ingress className hostname)
    | _ => True

theorem clusterIngress?_reads (name : String) : Reads (Cluster.clusterIngress? name) := by
  refine .bind .get fun c => .bind (Cluster.failWith_reads _) fun _ => .bind (Cluster.failWith_reads _) fun _ => ?_
  cases c.objects.get? ⟨.ingress, "", name⟩ with
  | none => exact .pure none
  | some o =>
    simp only
    cases Object.clusterIngressOfJson? o.toJson with
    | none => exact .throw _
    | some o => exact .pure (some o)

theorem appsDomain_reads : Reads appsDomain := by
  refine .bind (clusterIngress?_reads _) fun o? => ?_
  cases o? with
  | none => exact .throw _
  | some o =>
    simp only
    split
    · split
      · exact .throw _
      · exact .pure _
    · exact .throw _

theorem routeHost_reads (e : Endpoint) (subdomain : Option String) : Reads (e.routeHost subdomain) := by
  unfold routeHost
  cases e.hostLabel? with
  | none => exact .pure none
  | some label =>
    cases subdomain with
    | none => exact .bind appsDomain_reads fun domain => .pure _
    | some domain => exact .bind (.pure domain) fun domain => .pure _

/-- The objects of an endpoint that was created are there, and nothing was overwritten. -/
theorem create_ok (h : outcome e.create c = (.ok (), c')) : c.Grows c' ∧ e.Held c' := by
  obtain ⟨c₁, hservice, hrest⟩ := all_cons_ok h
  obtain ⟨hgrows, hheld⟩ := createObject_ok hservice
  unfold createRouters at hrest
  unfold Held
  cases hentry : e.entry with
  | route termination subdomain hostname =>
    rw [hentry] at hrest
    obtain ⟨c₂, hroute, hnil⟩ := all_cons_ok hrest
    obtain ⟨host, c₃, hhost, hcreate⟩ := bind_eq_ok.1 hroute
    obtain rfl := (routeHost_reads e _).state_eq hhost
    cases hnil
    obtain ⟨hgrows', hheld'⟩ := createObject_ok hcreate
    exact ⟨hgrows.trans hgrows', hheld.grows hgrows', host, hheld'⟩
  | ingress className hostname =>
    rw [hentry] at hrest
    obtain ⟨c₂, hingress, hnil⟩ := all_cons_ok hrest
    cases hnil
    obtain ⟨hgrows', hheld'⟩ := createObject_ok hingress
    exact ⟨hgrows.trans hgrows', hheld.grows hgrows', hheld'⟩
  | clusterIP | nodePort _ _ | loadBalancer _ =>
    rw [hentry] at hrest
    cases hrest
    exact ⟨hgrows, hheld, True.intro⟩

end Endpoint

/-! ## Transfers -/

namespace Transfer

variable {c c' : Cluster} {t t' : Transfer} {issued : TlsMaterial}

theorem onTransport_eq_ok {a : Attempt (Transport × Cluster) Unit}
    (h : outcome (onTransport a) (t, c) = (.ok (), (t', c'))) :
    ∃ transport, t' = { t with transport } ∧ outcome a (t.transport, c) = (.ok (), (transport, c')) := by
  unfold onTransport at h
  rw [outcome_within] at h
  obtain ⟨hok, hs⟩ := Prod.mk.inj h
  obtain ⟨rfl, rfl⟩ := Prod.mk.inj hs
  exact ⟨_, rfl, Prod.ext hok rfl⟩

theorem createObjects_ok {os : List Object} (h : outcome (createObjects os) (t, c) = (.ok (), (t', c'))) :
    t' = t ∧ c.Grows c' ∧ ∀ o ∈ os, c'.Holds o := by
  obtain ⟨rfl, hall⟩ := onSecond_eq_ok.1 h
  exact ⟨rfl, createAll_ok os hall⟩

/-- The transfer once its server's side was created. -/
def asServer (issued : TlsMaterial) (t : Transfer) : Transfer :=
  { t with transport := t.transport.asServer issued t.id t.endpoint t.serverControlFile? }

/-- The transfer once its client's side was created. -/
def asClient (t : Transfer) : Transfer :=
  { t with transport := t.transport.asClient t.id t.endpoint (some Control.file) }

/-- Everything of the server's side is there. -/
structure ServerHeld (issued : TlsMaterial) (t : Transfer) (c : Cluster) : Prop where
  files : ∀ o ∈ t.serverFiles, c.Holds o
  transport : t.transport.ServerHeld issued t.id t.endpoint t.backendPort c
  server : c.Holds (t.asServer issued).server
  endpoint : t.endpoint.Held c

/-- Everything of the client's side is there. -/
structure ClientHeld (t : Transfer) (target : Address) (c : Cluster) : Prop where
  files : ∀ o ∈ t.clientFiles target, c.Holds o
  transport : t.transport.ClientHeld t.clientNamespace t.id t.endpoint c
  client : c.Holds (t.asClient.client target)

theorem head_append {s : String} (h : s.toList.head? = some 'f') (id : String) : (s ++ id).toList.head? = some 'f' := by
  rw [String.toList_append, List.head?_append, h]
  rfl

/-- What is named after a transfer itself is not named after its tunnel. -/
theorem ne_tunnel_names (id : String) {name : String} (h : name.toList.head? = some 'f') :
    name ≠ Stunnel.configMapName id ∧ name ≠ Stunnel.secretName id := by
  refine ⟨fun he => ?_, fun he => ?_⟩
  · rw [he, Stunnel.configMapName, String.toList_append] at h
    cases h
  · rw [he, Stunnel.secretName, String.toList_append] at h
    cases h

theorem head_of_mem_serverFiles {o : Object} (h : o ∈ t.serverFiles) : o.key.name.toList.head? = some 'f' := by
  unfold serverFiles at h
  cases hm : t.method with
  | rsync options =>
    simp only [hm, Rsync.serverFiles, List.mem_cons, List.not_mem_nil, or_false] at h
    rcases h with rfl | rfl
    · exact head_append (s := "ferry-rsync-config-") rfl t.id
    · exact head_append (s := "ferry-rsync-secret-") rfl t.id
  | rclone =>
    simp only [hm, Rclone.serverFiles, List.mem_singleton] at h
    subst h
    exact head_append (s := "ferry-rclone-secret-") rfl t.id
  | blockrsync options => simp [hm] at h

theorem head_of_mem_clientFiles {target : Address} {o : Object} (h : o ∈ t.clientFiles target) :
    o.key.name.toList.head? = some 'f' := by
  unfold clientFiles at h
  cases hm : t.method with
  | rsync options =>
    simp only [hm, Rsync.clientFiles, List.mem_singleton] at h
    subst h
    exact head_append (s := "ferry-rsync-client-secret-") rfl t.id
  | rclone =>
    simp only [hm, Rclone.clientFiles, List.mem_singleton] at h
    subst h
    exact head_append (s := "ferry-rclone-client-config-") rfl t.id
  | blockrsync options => simp [hm] at h

theorem createServer_ok (h : outcome (createServer issued) (t, c) = (.ok (), (t', c'))) :
    t' = t.asServer issued ∧ t.ServerHeld issued c' := by
  unfold createServer at h
  obtain ⟨_, _, hget, h⟩ := bind_eq_ok.1 h
  cases hget
  obtain ⟨⟨⟩, ⟨t₁, c₁⟩, hfiles, h⟩ := bind_eq_ok.1 h
  obtain ⟨⟨⟩, ⟨t₂, c₂⟩, htransport, h⟩ := bind_eq_ok.1 h
  obtain ⟨_, _, hget, h⟩ := bind_eq_ok.1 h
  cases hget
  obtain ⟨⟨⟩, ⟨t₃, c₃⟩, hserver, hendpoint⟩ := bind_eq_ok.1 h
  obtain ⟨rfl, -, hheld⟩ := createObjects_ok hfiles
  obtain ⟨transport, rfl, hmade⟩ := onTransport_eq_ok htransport
  obtain ⟨rfl, htheld, hframe⟩ := Transport.createServer_ok hmade
  obtain ⟨rfl, hgrows, hsheld⟩ := createObjects_ok hserver
  obtain ⟨rfl, hcreated⟩ := onSecond_eq_ok.1 hendpoint
  obtain ⟨hgrows', heheld⟩ := Endpoint.create_ok hcreated
  have hall := hgrows.trans hgrows'
  refine ⟨rfl, fun o ho => ?_, htheld.grows hall, (hsheld _ List.mem_cons_self).grows hgrows', heheld⟩
  obtain ⟨hmap, hsecret⟩ := ne_tunnel_names t₁.id (head_of_mem_serverFiles ho)
  exact ((hheld o ho).frame (hframe o.key hmap hsecret)).grows hall

theorem createClient_ok (h : outcome createClient (t, c) = (.ok (), (t', c'))) :
    ∃ target, t.target = .ok target ∧ t' = t.asClient ∧ t.ClientHeld target c' := by
  unfold createClient at h
  obtain ⟨_, _, hget, h⟩ := bind_eq_ok.1 h
  cases hget
  obtain ⟨target, _, htarget, h⟩ := bind_eq_ok.1 h
  obtain ⟨hknown, rfl⟩ := Prod.mk.inj htarget
  obtain ⟨⟨⟩, ⟨t₁, c₁⟩, hfiles, h⟩ := bind_eq_ok.1 h
  obtain ⟨⟨⟩, ⟨t₂, c₂⟩, htransport, h⟩ := bind_eq_ok.1 h
  obtain ⟨_, _, hget, hclient⟩ := bind_eq_ok.1 h
  cases hget
  obtain ⟨rfl, -, hheld⟩ := createObjects_ok hfiles
  obtain ⟨transport, rfl, hmade⟩ := onTransport_eq_ok htransport
  obtain ⟨rfl, htheld, hframe⟩ := Transport.createClient_ok hmade
  obtain ⟨rfl, hgrows, hcheld⟩ := createObjects_ok hclient
  refine ⟨target, hknown, rfl, fun o ho => ?_, htheld.grows hgrows, hcheld _ List.mem_cons_self⟩
  obtain ⟨hmap, hsecret⟩ := ne_tunnel_names t₁.id (head_of_mem_clientFiles ho)
  exact ((hheld o ho).frame (hframe o.key hmap hsecret)).grows hgrows

end Transfer

end VolumeMigration
