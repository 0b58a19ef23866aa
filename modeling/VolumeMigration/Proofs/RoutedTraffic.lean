import VolumeMigration.Proofs.Connections
import VolumeMigration.Proofs.Rejections
import VolumeMigration.Proofs.SharedClusters
/-!
# What goes through routers

Routes and ingresses are reached from outside of a cluster. The check of a
transfer's parts keeps plain traffic away from them: it lets a tunnel through to
what passes TLS on, and rclone to what ends TLS. `Transfer.Arises` names the
transfers that a program can have, and they all passed that check
(`Transfer.Arises.checked`). What it comes to is read off the pods that their
clients are made of (`Transfer.Arises.routed_carries_tls`).
-/

namespace VolumeMigration

open Attempt
open Cluster (Logs)
open ConfigFile (Says)

/-- A router passes TLS on, or ends it. -/
theorem Endpoint.tls_of_routed {e : Endpoint} (h : e.type ≠ .service) :
    e.requiresTls = true ∧ e.terminatesTls = false ∨ e.termination? = some .edge ∧ e.terminatesTls = true := by
  unfold Endpoint.type at h
  unfold requiresTls terminatesTls termination?
  cases hentry : e.entry with
  | route termination subdomain hostname =>
    cases termination with
    | edge => exact .inr ⟨rfl, rfl⟩
    | passthrough => exact .inl ⟨rfl, rfl⟩
  | ingress className hostname => exact .inl ⟨rfl, rfl⟩
  | clusterIP | nodePort _ _ | loadBalancer _ => simp [hentry] at h

/-- A container of the pod finds what a ConfigMap holds under a key in a file. -/
def PodSpec.Shows (p : PodSpec) (k : Container) (path configMap key : String) : Prop :=
  ∃ m ∈ k.volumeMounts.getD [], m.mountPath = path ∧ m.subPath = some key ∧
    ∃ v ∈ p.volumes.getD [], v.name = m.name ∧ ∃ s, v.configMap = some s ∧ s.name = configMap

namespace Transfer

variable {t u : Transfer} {issued : TlsMaterial} {side : Side} {target : Address} {c c' : Cluster} {key : Key}

/-! ## The transfers that there are -/

/-- A transfer is put together from its parts, is given another connection, and has its sides created,
whatever comes of that. -/
inductive Arises : Transfer → Prop where
  | new {method : Method} {pairs : PairList} {endpoint : Endpoint} {transport : Transport} {workload : WorkloadOptions}
      {password : String} {t : Transfer} (h : Transfer.new method pairs endpoint transport workload password = .ok t) :
      Arises t
  | withConnection {t u : Transfer} {endpoint : Endpoint} {transport : Transport} (ht : Arises t)
      (h : t.withConnection endpoint transport = .ok u) : Arises u
  | created {t u : Transfer} {issued : TlsMaterial} {side : Side} {c c' : Cluster} {r : Result Unit} (ht : Arises t)
      (h : outcome (createSide issued side) (t, c) = (r, (u, c'))) : Arises u

/-- Of a transport the check asks only whether it is a tunnel. -/
theorem Rewired.checked (h : t.Rewired u) (ht : checkCompatible t.type t.pairs t.endpoint t.transport = .ok ()) :
    checkCompatible u.type u.pairs u.endpoint u.transport = .ok () := by
  obtain ⟨transport, rfl, hdirect⟩ := h
  unfold checkCompatible at ht ⊢
  rw [hdirect]
  exact ht

theorem createSide_transfer {r : Result Unit} (h : outcome (createSide issued side) (t, c) = (r, (u, c'))) :
    t.Rewired u := by
  cases side with
  | server => exact createServer_transfer h
  | client => exact createClient_transfer h

theorem Arises.checked (h : t.Arises) : checkCompatible t.type t.pairs t.endpoint t.transport = .ok () := by
  induction h with
  | new h => exact (Accepted.new h).checkCompatible_eq
  | withConnection _ h _ => exact (Accepted.withConnection h).checkCompatible_eq
  | created _ h ih => exact (createSide_transfer h).checked ih

/-- What the check lets through lies with the destination claims. Where TLS is asked for there is a tunnel, and
where TLS ends there is none, and rclone copies. -/
theorem checkCompatible_ok {type : TransferType} {pairs : PairList} {e : Endpoint} {t : Transport}
    (h : checkCompatible type pairs e t = .ok ()) : e.name.ns = pairs.destinationNamespace ∧
      (e.requiresTls = true → t.isDirect = false) ∧ (e.terminatesTls = true → t.isDirect = true ∧ type = .rclone) := by
  unfold checkCompatible at h
  split at h
  · cases h
  rename_i hns
  split at h
  · cases h
  rename_i hrequires
  split at h
  · cases h
  rename_i hterminates
  refine ⟨Decidable.not_not.1 hns, fun htls => ?_, fun htls => ?_⟩
  · rw [← Bool.not_eq_true]
    exact fun hdirect => hrequires ⟨hdirect, htls⟩
  · exact Decidable.not_not.1 fun hnot => hterminates ⟨htls, hnot⟩

/-! ## The client's pod -/

theorem kind_clientFiles {o : Object} (h : o ∈ t.clientFiles target) : o.key.kind = .secret := by
  unfold clientFiles at h
  cases hm : t.method with
  | rsync options =>
    simp only [hm, Rsync.clientFiles, List.mem_singleton] at h
    subst h
    rfl
  | rclone =>
    simp only [hm, Rclone.clientFiles, List.mem_singleton] at h
    subst h
    rfl
  | blockrsync options => simp [hm] at h

theorem ns_client (t : Transfer) (target : Address) :
    (t.asClient.client target).metadata.ns = some t.clientNamespace := by
  unfold client
  rw [show t.asClient.method = t.method from rfl]
  cases t.method <;> rfl

/-- Of the pods of a cluster the client's side writes its own. -/
theorem clientParts_writes_pod (t : Transfer) (target : Address) :
    (t.clientParts target).create.Writes (fun key => key.kind = .pod → key = (t.client target).key) fun _ => True := by
  have hparts := t.clientParts_of target
  refine Writes.bind (Creates.writes (creates_inOrder_map fun o ho => ?_)) fun _ => Writes.bind ?_ fun _ => ?_
  · refine (Endpoint.creates_createObject (hparts.files o ho).1).mono ?_ fun _ _ => True.intro
    rintro key rfl hpod
    rw [kind_clientFiles ho] at hpod
    cases hpod
  · unfold Stunnel.writeFiles
    cases htunnel : (t.clientParts target).tunnel with
    | error f => exact (Reads.throw f).writes
    | ok os =>
      obtain ⟨hkeys, hns⟩ := hparts.tunnel os htunnel
      refine Creates.writes ((Stunnel.creates_writeAll fun o ho => ⟨_, hns o ho⟩).mono ?_ fun _ _ => True.intro)
      intro key hkey hpod
      rw [hkeys] at hkey
      rcases kind_tunnelKeys hkey with h | h <;> simp [h] at hpod
  · show (inOrder [Endpoint.createObject (t.asClient.client target)]).Writes _ _
    rw [inOrder_singleton]
    refine Creates.writes ((Endpoint.creates_createObject (ns_client t target)).mono ?_ fun _ h => h.elim)
    rintro key rfl -
    exact key_client_asClient t target

/-- Every pod that a creation of the client's side writes is the client. -/
theorem createClient_pod (hrun : outcome createClient (t, c) = (.ok (), (u, c'))) (hpod : key.kind = .pod)
    (hlogs : Logs c c' key) :
    ∃ target, t.target = .ok target ∧ t.ClientHeld target c' ∧ key = (t.client target).key := by
  obtain ⟨target, htarget, -, hheld⟩ := createClient_ok hrun
  have hsteps := cluster_createClient t c
  have hadvances := t.clientParts_writes_pod target c
  rw [hrun, htarget] at hsteps
  change (Except.ok (), c') = outcome (t.clientParts target).create c at hsteps
  rw [← hsteps] at hadvances
  exact ⟨target, htarget, hheld, (hadvances.of_logs hlogs).1 hpod⟩

/-- The side-cars run in the client's pod. -/
theorem sidecars_client {client : Payload} (h : (t.asClient.client target).payload? = some client) :
    (∀ k ∈ t.asClient.sidecars .client, k ∈ client.pod.containers) ∧
      ∀ v ∈ t.asClient.sidecarVolumes .client, v ∈ client.pod.volumes.getD [] := by
  cases hm : t.method with
  | rsync options =>
    rw [client_eq_rsync (t := t.asClient) hm] at h
    cases h
    exact ⟨fun k hk => List.mem_append_right _ hk, fun v hv => List.mem_append_right _ hv⟩
  | rclone =>
    rw [client_eq_rclone (t := t.asClient) hm] at h
    cases h
    exact ⟨fun k hk => List.mem_append_right _ hk, fun v hv => List.mem_append_right _ hv⟩
  | blockrsync options =>
    rw [client_eq_blockrsync (t := t.asClient) hm] at h
    cases h
    exact ⟨fun k hk => List.mem_append_right _ hk, fun v hv => List.mem_append_right _ hv⟩

/-! ## What clients speak -/

/-- The payload of the pod under a key goes to a port of its own pod and nowhere else. On that port listens a
side-car that is configured as the client of a tunnel, for all services and with no other word for its own, and
which goes to the endpoint from there. -/
def ClientEntersTunnel (t : Transfer) (c : Cluster) (key : Key) : Prop :=
  ∃ client target, c.payload? key = some client ∧ target.hostname = "localhost" ∧
    t.Dials c client target t.credentials ∧
    ∃ sidecar ∈ client.pod.containers, sidecar.command = some (Stunnel.command (some Control.file)) ∧
      client.pod.Shows sidecar Stunnel.configPath (Stunnel.configMapName t.id) Stunnel.configKey ∧
    ∃ file, c.configText? ⟨t.clientNamespace, Stunnel.configMapName t.id⟩ Stunnel.configKey = some file ∧
      ConfigFile.globalValues "client" (ConfigFile.linesOf file) = ["yes"] ∧
      ∃ tunnel proxy address, t.transport = .stunnel tunnel ∧ Address.ofEndpoint t.endpoint = .ok address ∧
        Says file Stunnel.service (Stunnel.clientTexts tunnel.options proxy address)
          (("client", []) :: ("accept", [Nat.repr target.port]) :: Stunnel.routeSettings proxy address)

/-- The commands of the payload of the pod under a key go to the endpoint over TLS, as their configuration says. -/
def ClientSpeaksTls (t : Transfer) (c : Cluster) (key : Key) : Prop :=
  ∃ client address file path, c.payload? key = some client ∧ Address.ofEndpoint t.endpoint = .ok address ∧
    client.Finds path (Rclone.clientConfigName t).name Rclone.configKey ∧
    c.secretBytes? (Rclone.clientConfigName t) Rclone.configKey = some (Text.utf8Bytes file) ∧
    Says file Rclone.remote (Rclone.configTexts t address)
      [("url",
        ["https://" ++ t.credentials.username ++ ":" ++ t.credentials.password ++ "@" ++ address.display ++ "/"])] ∧
    ∀ words ∈ client.invocations Rclone.binary, words.take 4 = [Rclone.binary, "sync", "--config", path] ∧
      ∃ destination, words.getLast? = some (Rclone.remote ++ ":" ++ destination)

/-- Every pod that a creation of the client's side writes, if it succeeds, has a property. -/
def EveryClient (t : Transfer) (P : Cluster → Key → Prop) : Prop :=
  ∀ u c c' key, outcome createClient (t, c) = (.ok (), (u, c')) → key.kind = .pod → Logs c c' key → P c' key

theorem everyClient_entersTunnel (htunnel : t.transport.isDirect = false) : t.EveryClient t.ClientEntersTunnel := by
  intro u c c' key hrun hpod hlogs
  obtain ⟨target, htarget, hheld, rfl⟩ := createClient_pod hrun hpod hlogs
  obtain ⟨client, hclient, hdials⟩ := hheld.dials
  obtain ⟨hsidecars, hvolumes⟩ := sidecars_client hclient
  have hfiles := hheld.transport
  cases ht : t.transport with
  | direct port =>
    rw [ht] at htunnel
    cases htunnel
  | stunnel tunnel =>
    obtain rfl : target = ⟨"localhost", Stunnel.clientPort⟩ := by
      rw [Transfer.target, ht] at htarget
      cases htarget
      rfl
    rw [ht] at hfiles
    obtain ⟨material, config, -, hconfig, hobjects⟩ := hfiles
    obtain ⟨address, proxy, haddress, -, hsays⟩ := Stunnel.clientConfig_says hconfig
    have hpieces : t.asClient.sidecars .client =
          [Stunnel.container tunnel.options Stunnel.clientPort (some Control.file)] ∧
        t.asClient.sidecarVolumes .client = Stunnel.volumes t.id := by
      unfold sidecars sidecarVolumes asClient
      rw [ht]
      exact ⟨rfl, rfl⟩
    rw [hpieces.1] at hsidecars
    rw [hpieces.2] at hvolumes
    refine ⟨client, _, hheld.payload?_eq.trans hclient, rfl, hdials, _, hsidecars _ List.mem_cons_self, rfl, ?_, config,
      configText?_tunnel hobjects, Stunnel.clientConfig_globalValues hconfig, tunnel, proxy, address, ht, haddress,
      hsays.subset ?_⟩
    · exact ⟨_, List.mem_cons_self, rfl, rfl, _, hvolumes _ List.mem_cons_self, rfl, _, rfl, rfl⟩
    · simp only [List.forall_mem_cons]
      exact ⟨by simp, by simp, fun s hs => by simp [hs]⟩

theorem everyClient_speaksTls (hdirect : t.transport.isDirect = true) (htls : t.endpoint.terminatesTls = true)
    (htype : t.type = .rclone) : t.EveryClient t.ClientSpeaksTls := by
  intro u c c' key hrun hpod hlogs
  obtain ⟨target, htarget, hheld, rfl⟩ := createClient_pod hrun hpod hlogs
  obtain ⟨client, hclient, hdials⟩ := hheld.dials
  have hm : t.method = .rclone := by
    unfold type Method.type at htype
    cases hm : t.method <;> simp [hm] at htype ⊢
  have haddress : Address.ofEndpoint t.endpoint = .ok target := by
    rwa [Transfer.target, Transport.target, if_pos hdirect] at htarget
  unfold Dials at hdials
  rw [hm] at hdials
  obtain ⟨file, path, hfinds, hbytes, hsays, -, hcommands⟩ := hdials
  rw [hdirect, htls] at hsays
  exact ⟨client, target, file, path, hheld.payload?_eq.trans hclient, haddress, hfinds, hbytes, hsays, hcommands⟩

/-- The endpoint of a transfer lies with the destination claims. If it is reached through a router, then either
there is a tunnel that the router passes on, and the clients send everything into it, or the router ends TLS,
and rclone speaks TLS to it. -/
theorem Arises.routed_carries_tls (h : t.Arises) : t.endpoint.name.ns = t.pairs.destinationNamespace ∧
    (t.endpoint.type ≠ .service →
      t.transport.isDirect = false ∧ t.endpoint.terminatesTls = false ∧ t.EveryClient t.ClientEntersTunnel ∨
      t.endpoint.termination? = some .edge ∧ t.type = .rclone ∧ t.transport.isDirect = true ∧
        t.EveryClient t.ClientSpeaksTls) := by
  obtain ⟨hplace, hrequires, hterminates⟩ := checkCompatible_ok h.checked
  refine ⟨hplace, fun hrouted => ?_⟩
  rcases Endpoint.tls_of_routed hrouted with ⟨htls, hpasses⟩ | ⟨hedge, htls⟩
  · have htunnel := hrequires htls
    exact .inl ⟨htunnel, hpasses, everyClient_entersTunnel htunnel⟩
  · obtain ⟨hdirect, htype⟩ := hterminates htls
    exact .inr ⟨hedge, htype, hdirect, everyClient_speaksTls hdirect htls htype⟩

/-- A tree of files that goes through a tunnel and an ingress. -/
def throughGate : Transfer where
  method := .rsync .archive
  pairs := misverified.pairs
  endpoint := .ofIngress ⟨"depot", "gate"⟩ (.ofList [("app", "inbox")]) "apps.example.com" none
  transport := .stunnel { options := {}, material := some { authority := [1], certificate := [2], key := [3] } }
  credentials := .ofPassword "secret"
  workload := {}

/-- The cluster of the source claims with the client. -/
def shopWithClient : Cluster := (outcome createClient (throughGate, {})).2.2

theorem Arises.routed_carries_tls_throughGate : throughGate.Arises ∧ throughGate.endpoint.type ≠ .service ∧
    ∃ key, key.kind = .pod ∧ Logs {} shopWithClient key ∧ throughGate.ClientEntersTunnel shopWithClient key := by
  have harises : throughGate.Arises := .new (new_of_checks (by decide +kernel) (by decide +kernel) rfl)
  have hrouted : throughGate.endpoint.type ≠ .service := by decide
  have hrun : outcome createClient (throughGate, {}) =
      (.ok (), ((outcome createClient (throughGate, {})).2.1, shopWithClient)) :=
    outcome_of_toOption (by decide +kernel)
  have hlogged : shopWithClient.log.any (·.key.kind == .pod) = true := by decide +kernel
  obtain ⟨e, he, hkind⟩ := List.any_eq_true.1 hlogged
  have hpod : e.key.kind = .pod := beq_iff_eq.1 hkind
  have hlogs : Logs {} shopWithClient e.key := ⟨_, (List.nil_append _).symm, e, he, rfl⟩
  rcases (Arises.routed_carries_tls harises).2 hrouted with ⟨-, -, hclients⟩ | ⟨-, htype, -⟩
  · exact ⟨harises, hrouted, e.key, hpod, hlogs, hclients _ _ _ _ hrun hpod hlogs⟩
  · cases htype

end Transfer

end VolumeMigration
