import VolumeMigration.Proofs.Discovery
import VolumeMigration.Proofs.PairedVolumes
import VolumeMigration.Proofs.Ports
/-!
# The sides of a transfer meet

Ports, addresses, users and TLS material are written down apart from each other:
in the server's container, the objects of the endpoint, the configuration of
both sides of a tunnel, the client's scripts and files. They agree
(`Transfer.createServer_createClient_agree`), also if the client's side is made
later from what is discovered in the cluster of the server.
-/

namespace VolumeMigration

open Attempt
open ConfigFile (Says)

namespace Transfer

/-! ## Tunnels -/

/-- A tunnel leads from a port of the client's pod to the endpoint, and from the exposed port of the
server's pod to a port there, with the same TLS material on both sides. -/
structure TunnelJoins (t u : Transfer) (there here : StunnelOptions) (source destination : Cluster)
    (target address : Address) (port : Nat) : Prop where
  accepts : ∃ file,
    destination.configText? ⟨t.serverNamespace, Stunnel.configMapName t.id⟩ Stunnel.configKey = some file ∧
    Says file Stunnel.service [there.caVerifyLevel]
      [("accept", [Nat.repr Endpoint.exposedPort]), ("connect", ["localhost:" ++ Nat.repr port])]
  entered : target.hostname = "localhost"
  leads : ∃ file proxy, here.proxyHost = .ok proxy ∧
    source.configText? ⟨u.clientNamespace, Stunnel.configMapName u.id⟩ Stunnel.configKey = some file ∧
    Says file Stunnel.service (Stunnel.clientTexts here proxy address)
      (("accept", [Nat.repr target.port]) :: Stunnel.routeSettings proxy address)
  material : ∀ key ∈ [TlsMaterial.certificateKey, TlsMaterial.keyKey, TlsMaterial.authorityKey], ∃ bytes,
    destination.secretBytes? ⟨t.serverNamespace, Stunnel.secretName t.id⟩ key = some bytes ∧
    source.secretBytes? ⟨u.clientNamespace, Stunnel.secretName u.id⟩ key = some bytes

/-- What clients connect to and what servers listen on go together: the address of the endpoint and
the port that it leads to, with a tunnel in between or with none. -/
def SidesAgree (t u : Transfer) (target : Address) (source destination : Cluster) : Prop :=
  ∃ client server address port user, source.payload? (u.client target).key = some client ∧
    destination.payload? t.server.key = some server ∧
    t.endpoint.LeadsTo destination Endpoint.exposedPort ∧
    u.endpoint.recorded = t.endpoint.recorded ∧ Address.ofEndpoint u.endpoint = .ok address ∧
    t.method.ListensOn server port ∧ t.Admits destination server user ∧ u.Dials source client target user ∧
    match t.transport, u.transport with
    -- The client goes to the endpoint, and the server takes what the endpoint exposes.
    | .direct _, .direct _ => port = Endpoint.exposedPort ∧ target = address
    -- The client goes to its own side of the tunnel, and the server takes what comes out of the other.
    | .stunnel there, .stunnel here =>
      TunnelJoins t u there.options here.options source destination target address port
    | _, _ => False

/-! ## What the client's side is made from -/

/-- The client's side is made from the transfer as it was, as it is once its server's side was
created, or over the endpoint and the transport that are discovered in the cluster of the server. -/
inductive Connected (t t' : Transfer) (d : Cluster) : Transfer → Prop where
  | before : Connected t t' d t
  | after : Connected t t' d t'
  | discovered {d₁ d₁' d₂ d₂' : Cluster} {endpoint : Endpoint} {transport : Transport} {options : StunnelOptions}
      {u : Transfer} (hsettles : d.Settles d₁) (hsettles' : d.Settles d₂)
      (hendpoint : outcome (Endpoint.discover t.endpoint.type t.endpoint.name) d₁ = (.ok endpoint, d₁'))
      (htransport : outcome (Transport.discover t.transport.type t.serverNamespace t.id options) d₂ =
        (.ok transport, d₂'))
      (hconnected : t.withConnection endpoint transport = .ok u) : Connected t t' d u

/-- The second transfer copies the same, as the same user, to the same endpoint over a transport
that meets that of the first one. -/
structure Counterpart (issued : TlsMaterial) (t u : Transfer) : Prop where
  method : u.method = t.method
  pairs : u.pairs = t.pairs
  credentials : u.credentials = t.credentials
  endpoint : u.endpoint.recorded = t.endpoint.recorded
  transport : t.transport.Meets issued u.transport

variable {t t' u u' : Transfer} {issued : TlsMaterial} {target : Address} {c c₀ d d₀ : Cluster}

theorem withConnection_eq_ok {endpoint : Endpoint} {transport : Transport} :
    t.withConnection endpoint transport = .ok u ↔
      (checkCompatible t.method.type t.pairs endpoint transport).isOk = true ∧ u = { t with endpoint, transport } := by
  unfold withConnection
  cases checkCompatible t.method.type t.pairs endpoint transport with
  | error f =>
    constructor
    · rintro ⟨⟩
    · rintro ⟨⟨⟩, -⟩
  | ok _ =>
    constructor
    · rintro ⟨⟩
      exact ⟨rfl, rfl⟩
    · rintro ⟨-, rfl⟩
      rfl

theorem Connected.counterpart (h : Connected t (t.asServer issued) d u) (hheld : t.ServerHeld issued d) :
    t.Counterpart issued u := by
  cases h with
  | before => exact ⟨rfl, rfl, rfl, rfl, t.transport.meets_self issued⟩
  | after => exact ⟨rfl, rfl, rfl, rfl, t.transport.meets_asServer ..⟩
  | discovered hsettles hsettles' hendpoint htransport hconnected =>
    obtain ⟨-, rfl⟩ := withConnection_eq_ok.1 hconnected
    exact ⟨rfl, rfl, rfl, Endpoint.discover_ok hheld.endpoint hsettles hendpoint,
      Transport.discover_ok hheld.transport hsettles' htransport⟩

/-! ## Both sides -/

theorem configText?_tunnel {ns id config : String} {side : Side} {material : TlsMaterial}
    (h : ∀ o ∈ Stunnel.objects ns id side config material, c.Holds o) :
    c.configText? ⟨ns, Stunnel.configMapName id⟩ Stunnel.configKey = some config := by
  rw [(h _ List.mem_cons_self).configText?, SortedMap.get?_ofList_singleton]

theorem secretBytes?_tunnel {ns id config : String} {side : Side} {material : TlsMaterial}
    (h : ∀ o ∈ Stunnel.objects ns id side config material, c.Holds o) (key : String) :
    c.secretBytes? ⟨ns, Stunnel.secretName id⟩ key = material.toSecretData.get? key :=
  (h _ (List.mem_cons_of_mem _ List.mem_cons_self)).secretBytes? key

theorem tunnelJoins {there here : Stunnel} (h : t.Counterpart issued u) (ht : t.transport = .stunnel there)
    (hu : u.transport = .stunnel here) (hheld : t.ServerHeld issued d) (htarget : u.target = .ok target)
    (hheld' : u.ClientHeld target c) : ∃ address, Address.ofEndpoint u.endpoint = .ok address ∧
      TunnelJoins t u there.options here.options c d target address t.backendPort := by
  have hmeets := h.transport
  have hthere := hheld.transport
  have hhere := hheld'.transport
  rw [ht, hu] at hmeets
  rw [ht] at hthere
  rw [hu] at hhere
  obtain ⟨material, config, hmaterial, hconfig, hfiles⟩ := hhere
  obtain ⟨address, proxy, haddress, hproxy, hsays⟩ := Stunnel.clientConfig_says hconfig
  obtain rfl : target = ⟨"localhost", Stunnel.clientPort⟩ := by
    rw [Transfer.target, hu] at htarget
    cases htarget
    rfl
  refine ⟨address, haddress, ⟨⟨_, configText?_tunnel hthere, ?_⟩, rfl,
    ⟨config, proxy, hproxy, configText?_tunnel hfiles, ?_⟩, ?_⟩⟩
  · exact (Stunnel.serverConfig_says there.options t.backendPort).subset (by simp)
  · refine hsays.subset fun s hs => ?_
    rcases List.mem_cons.1 hs with rfl | hs
    · exact List.mem_cons_self
    · exact List.mem_cons_of_mem _ (List.mem_cons_of_mem _ (List.mem_cons_of_mem _ (List.mem_cons_of_mem _ hs)))
  · obtain ⟨hcertificate, hkey, hauthority⟩ := material.get?_toSecretData
    obtain rfl := hmeets material hmaterial
    intro key hk
    have hbytes : ∃ bytes, (there.material.getD issued).toSecretData.get? key = some bytes := by
      simp only [List.mem_cons, List.not_mem_nil, or_false] at hk
      rcases hk with rfl | rfl | rfl
      · exact ⟨_, hcertificate⟩
      · exact ⟨_, hkey⟩
      · exact ⟨_, hauthority⟩
    obtain ⟨bytes, hbytes⟩ := hbytes
    exact ⟨bytes, (secretBytes?_tunnel hthere key).trans hbytes, (secretBytes?_tunnel hfiles key).trans hbytes⟩

/-- What both sides of a transfer left in their clusters goes together. -/
theorem sidesAgree (h : t.Counterpart issued u) (hheld : t.ServerHeld issued d) (htarget : u.target = .ok target)
    (hheld' : u.ClientHeld target c) : SidesAgree t u target c d := by
  obtain ⟨server, hserver, hlistens⟩ := listensOn_server t issued
  obtain ⟨server', hserver', hadmits⟩ := hheld.admits
  obtain rfl : server' = server := Option.some.inj (hserver'.symm.trans hserver)
  obtain ⟨client, hclient, hdials⟩ := hheld'.dials
  rw [h.credentials] at hdials
  unfold SidesAgree
  rw [hheld.payload?_eq, hheld'.payload?_eq]
  have hmeets := h.transport
  cases ht : t.transport with
  | direct port =>
    cases hu : u.transport with
    | stunnel here =>
      rw [ht, hu] at hmeets
      cases hmeets
    | direct port' =>
      have haddress : Address.ofEndpoint u.endpoint = .ok target := by
        rw [Transfer.target, hu] at htarget
        exact htarget
      rw [listenPort, ht] at hlistens
      exact ⟨client, server', target, _, _, hclient, hserver, hheld.endpoint.leadsTo, h.endpoint, haddress, hlistens,
        hadmits, hdials, rfl, rfl⟩
  | stunnel there =>
    cases hu : u.transport with
    | direct port =>
      rw [ht, hu] at hmeets
      cases hmeets
    | stunnel here =>
      obtain ⟨address, haddress, hjoins⟩ := tunnelJoins h ht hu hheld htarget hheld'
      rw [listenPort, ht] at hlistens
      exact ⟨client, server', address, _, _, hclient, hserver, hheld.endpoint.leadsTo, h.endpoint, haddress, hlistens,
        hadmits, hdials, hjoins⟩

/-- Whatever is copied, and over whatever endpoint and transport: once the server's side of a transfer
was created, and the client's side from the transfer or from what was discovered of it, the client
connects to where the server is reached, as the user that the server lets in. -/
theorem createServer_createClient_agree (hserver : outcome (createServer issued) (t, d₀) = (.ok (), (t', d)))
    (hconnected : Connected t t' d u) (hclient : outcome createClient (u, c₀) = (.ok (), (u', c))) :
    ∃ target, u.target = .ok target ∧ SidesAgree t u target c d := by
  obtain ⟨rfl, hheld⟩ := createServer_ok hserver
  obtain ⟨target, htarget, -, hheld'⟩ := createClient_ok hclient
  exact ⟨target, htarget, sidesAgree (hconnected.counterpart hheld) hheld htarget hheld'⟩

/-- The material that a tunnel is given. -/
def diskMaterial : TlsMaterial := { authority := [1], certificate := [2], key := [3] }

/-- Two disks that are sent through a tunnel to a service within the cluster. -/
def tunnelledDisks (material : Option TlsMaterial) : Transfer :=
  { disks with transport := .stunnel { options := {}, material } }

/-- The client's side is made from what is discovered beside the server. -/
theorem createServer_createClient_agree_disks : ∃ target, (tunnelledDisks (some diskMaterial)).target = .ok target ∧
    SidesAgree (tunnelledDisks none) (tunnelledDisks (some diskMaterial)) target
      (outcome createClient (tunnelledDisks (some diskMaterial), {})).2.2
      (outcome (createServer diskMaterial) (tunnelledDisks none, {})).2.2 :=
  createServer_createClient_agree
    (outcome_of_toOption (a := createServer diskMaterial) (s := (tunnelledDisks none, {})) (by decide +kernel))
    (.discovered (.refl _) (.refl _)
      (outcome_of_toOption (a := Endpoint.discover .service ⟨"depot", "inbox"⟩) (x := disks.endpoint)
        (by decide +kernel))
      (Transport.discover_stunnel "depot" disks.id {} (m := diskMaterial) (by decide +kernel))
      (withConnection_eq_ok.2 ⟨by decide +kernel, rfl⟩))
    (outcome_of_toOption (a := createClient) (s := (tunnelledDisks (some diskMaterial), {})) (by decide +kernel))

end Transfer

end VolumeMigration
