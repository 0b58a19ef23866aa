import VolumeMigration.Proofs.Mounts
import VolumeMigration.Proofs.Writes
/-!
# The steps of a creation

What the creation of a side does to its cluster comes in three steps: the files
that the pods read, the files of the tunnel, and the pods with the endpoint
(`Parts.create`). Only the second one can turn the input down, and only it
replaces anything (`Parts.Of`). Both sides are created in these steps
(`Transfer.cluster_createServer`, `Transfer.cluster_createClient`), so that no
later proof has to look at them again.
-/

namespace VolumeMigration

open Attempt

/-! ## Steps -/

/-- Creates or updates the files of a tunnel, unless there are none to write. -/
def Stunnel.writeFiles (files : Result (List Object)) : Attempt Cluster Unit := do
  Stunnel.writeAll (← ofResult files)

/-- What is to be created on a side of a transfer. -/
structure Parts where
  files : List Object
  /-- The files of the tunnel, if there is one, unless its options or its material are turned down. -/
  tunnel : Result (List Object)
  rest : List (Attempt Cluster Unit)

/-- Creates the files, then the tunnel, then the rest, up to the first failure. -/
def Parts.create (p : Parts) : Attempt Cluster Unit := do
  inOrder (p.files.map Endpoint.createObject)
  Stunnel.writeFiles p.tunnel
  inOrder p.rest

/-- The outcome and the cluster of an attempt that changes something else as well. -/
def Attempt.cluster {σ α : Type} (done : Result α × σ × Cluster) : Result α × Cluster := (done.1, done.2.2)

namespace Attempt

variable {σ α β : Type} {s : σ} {c : Cluster}

theorem cluster_onSecond (a : Attempt Cluster α) (s : σ) (c : Cluster) :
    cluster (outcome (onSecond a) (s, c)) = outcome a c := rfl

/-- Attempts that do the same to the cluster step by step do the same in a row. -/
theorem cluster_bind {a : Attempt (σ × Cluster) α} {k : α → Attempt (σ × Cluster) β} {b : Attempt Cluster α}
    {j : α → Attempt Cluster β} (hfirst : cluster (outcome a (s, c)) = outcome b c)
    (hrest : ∀ x s' c', outcome a (s, c) = (.ok x, (s', c')) → cluster (outcome (k x) (s', c')) = outcome (j x) c') :
    cluster (outcome (a >>= k) (s, c)) = outcome (b >>= j) c := by
  rw [outcome_bind, outcome_bind, ← hfirst]
  rcases h : outcome a (s, c) with ⟨f | x, s', c'⟩
  · rfl
  · exact hrest x s' c' h

theorem inOrder_singleton (a : Attempt σ Unit) : inOrder [a] = a := by
  rw [inOrder, inOrder, bind_pure_unit]

end Attempt

/-- The keys of a tunnel's files. -/
def Stunnel.keys (ns id : String) : List Key := [⟨.configMap, ns, configMapName id⟩, ⟨.secret, ns, secretName id⟩]

namespace Transport

/-- The files of the server's side of a tunnel. -/
def serverObjects (issued : TlsMaterial) (id : String) (e : Endpoint) (port : Nat) : Transport → Result (List Object)
  | stunnel t => do
    t.options.validate
    return Stunnel.objects e.name.ns id .server (Stunnel.serverConfig t.options port) (t.material.getD issued)
  | direct _ => .ok []

/-- The files of the client's side of a tunnel. -/
def clientObjects (ns id : String) (e : Endpoint) : Transport → Result (List Object)
  | stunnel t => do
    t.options.validate
    match t.material with
    | none => .error (.configuration .clientWithoutMaterial)
    | some material => return Stunnel.objects ns id .client (← Stunnel.clientConfig t.options e) material
  | direct _ => .ok []

variable {issued : TlsMaterial} {ns id : String} {e : Endpoint} {port : Nat} {controlFile : Option String}

theorem cluster_createServer (t : Transport) (c : Cluster) :
    cluster (outcome (createServer issued id e port controlFile) (t, c)) =
      outcome (Stunnel.writeFiles (t.serverObjects issued id e port)) c := by
  unfold createServer serverObjects Stunnel.writeFiles
  rw [outcome_bind_ok (outcome_get (t, c))]
  cases t with
  | direct port => rfl
  | stunnel tunnel =>
    unfold onTunnel Stunnel.createServer
    rw [outcome_within]
    simp only [outcome_bind, outcome_get, outcome_ofResult, outcome_modify]
    cases tunnel.options.validate with
    | error f => rfl
    | ok _ =>
      simp only [outcome_onSecond]
      change _ = outcome (Stunnel.writeAll (Stunnel.objects e.name.ns id .server
        (Stunnel.serverConfig tunnel.options port) (tunnel.material.getD issued))) c
      rcases outcome (Stunnel.writeAll _) c with ⟨f | x, c₁⟩ <;> rfl

theorem cluster_createClient (t : Transport) (c : Cluster) :
    cluster (outcome (createClient ns id e controlFile) (t, c)) =
      outcome (Stunnel.writeFiles (t.clientObjects ns id e)) c := by
  unfold createClient clientObjects Stunnel.writeFiles
  rw [outcome_bind_ok (outcome_get (t, c))]
  cases t with
  | direct port => rfl
  | stunnel tunnel =>
    unfold onTunnel Stunnel.createClient
    rw [outcome_within]
    simp only [outcome_bind, outcome_get, outcome_ofResult]
    cases tunnel.options.validate with
    | error f => rfl
    | ok _ =>
      cases tunnel.material with
      | none => rfl
      | some material =>
        simp only [outcome_bind, outcome_ofResult]
        cases Stunnel.clientConfig tunnel.options e with
        | error f => rfl
        | ok config =>
          simp only [outcome_onSecond]
          change _ = outcome (Stunnel.writeAll (Stunnel.objects ns id .client config material)) c
          rcases outcome (Stunnel.writeAll _) c with ⟨f | x, c₁⟩ <;> rfl

theorem serverObjects_ok {t : Transport} {os : List Object} (h : t.serverObjects issued id e port = .ok os) :
    t.isDirect = true ∧ os = [] ∨ t.isDirect = false ∧ ∃ config material,
      os = Stunnel.objects e.name.ns id .server config material := by
  unfold serverObjects at h
  cases t with
  | direct port =>
    cases h
    exact .inl ⟨rfl, rfl⟩
  | stunnel tunnel =>
    simp only at h
    cases hvalid : tunnel.options.validate with
    | error f =>
      rw [hvalid] at h
      cases h
    | ok _ =>
      rw [hvalid] at h
      cases h
      exact .inr ⟨rfl, _, _, rfl⟩

theorem clientObjects_ok {t : Transport} {os : List Object} (h : t.clientObjects ns id e = .ok os) :
    t.isDirect = true ∧ os = [] ∨ t.isDirect = false ∧ ∃ config material,
      os = Stunnel.objects ns id .client config material := by
  unfold clientObjects at h
  cases t with
  | direct port =>
    cases h
    exact .inl ⟨rfl, rfl⟩
  | stunnel tunnel =>
    simp only at h
    cases hvalid : tunnel.options.validate with
    | error f =>
      rw [hvalid] at h
      cases h
    | ok _ =>
      rw [hvalid] at h
      cases hmaterial : tunnel.material with
      | none =>
        rw [hmaterial] at h
        cases h
      | some material =>
        rw [hmaterial] at h
        cases hconfig : Stunnel.clientConfig tunnel.options e with
        | error f =>
          rw [hconfig] at h
          cases h
        | ok config =>
          rw [hconfig] at h
          cases h
          exact .inr ⟨rfl, _, _, rfl⟩

end Transport

namespace Transfer

/-- The steps of the server's side. -/
def serverParts (issued : TlsMaterial) (t : Transfer) : Parts where
  files := t.serverFiles
  tunnel := t.transport.serverObjects issued t.id t.endpoint t.backendPort
  rest := [Endpoint.createObject (t.asServer issued).server, t.endpoint.create]

/-- The steps of the client's side, once it is known where the client connects to. -/
def clientParts (t : Transfer) (target : Address) : Parts where
  files := t.clientFiles target
  tunnel := t.transport.clientObjects t.clientNamespace t.id t.endpoint
  rest := [Endpoint.createObject (t.asClient.client target)]

variable {t : Transfer} {issued : TlsMaterial} {target : Address} {c : Cluster}

theorem cluster_onTransport {a : Attempt (Transport × Cluster) Unit} (t : Transfer) (c : Cluster) :
    cluster (outcome (onTransport a) (t, c)) = cluster (outcome a (t.transport, c)) := rfl

theorem cluster_createServer (t : Transfer) (issued : TlsMaterial) (c : Cluster) :
    cluster (outcome (createServer issued) (t, c)) = outcome (t.serverParts issued).create c := by
  unfold createServer
  rw [outcome_bind_ok (outcome_get (t, c))]
  refine cluster_bind (cluster_onSecond _ t c) fun _ t₁ c₁ hfiles => ?_
  obtain ⟨rfl, -⟩ := onSecond_eq_ok.1 hfiles
  refine cluster_bind ((cluster_onTransport t₁ c₁).trans (Transport.cluster_createServer _ c₁))
    fun _ t₂ c₂ htransport => ?_
  obtain ⟨transport, rfl, hmade⟩ := onTransport_eq_ok htransport
  obtain ⟨rfl, -⟩ := Transport.createServer_ok hmade
  rw [outcome_bind_ok (outcome_get _)]
  change _ = outcome (inOrder [Endpoint.createObject (t₁.asServer issued).server, t₁.endpoint.create]) c₂
  rw [inOrder, inOrder_singleton]
  refine cluster_bind ?_ fun _ t₃ c₃ hserver => ?_
  · rw [createObjects, List.map_singleton, inOrder_singleton]
    rfl
  · rfl

theorem cluster_createClient (t : Transfer) (c : Cluster) :
    cluster (outcome createClient (t, c)) = outcome (do (t.clientParts (← ofResult t.target)).create) c := by
  unfold createClient
  rw [outcome_bind_ok (outcome_get (t, c))]
  refine cluster_bind rfl fun target t₀ c₀ htarget => ?_
  obtain ⟨-, hstate⟩ := Prod.mk.inj htarget
  cases hstate
  refine cluster_bind (cluster_onSecond _ t c) fun _ t₁ c₁ hfiles => ?_
  obtain ⟨rfl, -⟩ := onSecond_eq_ok.1 hfiles
  refine cluster_bind ((cluster_onTransport t₁ c₁).trans (Transport.cluster_createClient _ c₁))
    fun _ t₂ c₂ htransport => ?_
  obtain ⟨transport, rfl, hmade⟩ := onTransport_eq_ok htransport
  obtain ⟨rfl, -⟩ := Transport.createClient_ok hmade
  rw [outcome_bind_ok (outcome_get _)]
  rfl

/-! ## Keys -/

/-- The namespace that a side is created in. -/
def namespaceOf (t : Transfer) : Side → String
  | .server => t.serverNamespace
  | .client => t.clientNamespace

/-- The keys of the tunnel's files on a side. -/
def tunnelKeys (t : Transfer) (side : Side) : List Key :=
  if t.transport.isDirect then [] else Stunnel.keys (t.namespaceOf side) t.id

/-- A key that is no key of another tunnel. -/
def Owns (t : Transfer) (side : Side) (key : Key) : Prop := ∀ ns id, key ∈ Stunnel.keys ns id → key ∈ t.tunnelKeys side

theorem not_mem_keys_of_head {key : Key} (h : key.name.toList.head? = some 'f') (ns id : String) :
    key ∉ Stunnel.keys ns id := by
  obtain ⟨hmap, hsecret⟩ := ne_tunnel_names id h
  intro hmem
  simp only [Stunnel.keys, List.mem_cons, List.not_mem_nil, or_false] at hmem
  rcases hmem with rfl | rfl
  · exact hmap rfl
  · exact hsecret rfl

theorem not_mem_keys_of_kind {key : Key} (hmap : key.kind ≠ .configMap) (hsecret : key.kind ≠ .secret)
    (ns id : String) : key ∉ Stunnel.keys ns id := by
  intro hmem
  simp only [Stunnel.keys, List.mem_cons, List.not_mem_nil, or_false] at hmem
  rcases hmem with rfl | rfl
  · exact hmap rfl
  · exact hsecret rfl

end Transfer

/-! ## What the steps do -/

/-- The steps that create a side of the transfer: the tunnel's files are the only ones that have the keys of
tunnels, and there is a tunnel if its files can be turned down. -/
structure Parts.Of (t : Transfer) (side : Side) (p : Parts) : Prop where
  files : ∀ o ∈ p.files, o.metadata.ns = some (t.namespaceOf side) ∧ ∀ ns id, o.key ∉ Stunnel.keys ns id
  files_nil : p.files = [] ↔ t.type = .blockrsync
  tunnel : ∀ os, p.tunnel = .ok os → os.map Object.key = t.tunnelKeys side ∧
    ∀ o ∈ os, o.metadata.ns = some (t.namespaceOf side)
  turned_down : ∀ f, p.tunnel = .error f → t.transport.isDirect = false
  rest : ∀ a ∈ p.rest, a.Creates (t.Owns side) fun _ => False

namespace Parts.Of

variable {t : Transfer} {side : Side} {p : Parts} {c c' : Cluster} {f : Failure}

theorem creates_file (h : p.Of t side) {o : Object} (ho : o ∈ p.files) :
    (Endpoint.createObject o).Creates (t.Owns side) fun _ => False := by
  obtain ⟨hns, hkeys⟩ := h.files o ho
  refine (Endpoint.creates_createObject hns).mono ?_ fun _ h => h
  rintro key rfl ns id hmem
  exact absurd hmem (hkeys ns id)

theorem creates_files (h : p.Of t side) :
    (inOrder (p.files.map Endpoint.createObject)).Creates (t.Owns side) fun _ => False :=
  creates_inOrder_map fun _ ho => h.creates_file ho

theorem creates_tunnel (h : p.Of t side) {os : List Object} (hok : p.tunnel = .ok os) :
    (Stunnel.writeAll os).Creates (t.Owns side) (· ∈ t.tunnelKeys side) := by
  obtain ⟨hkeys, hns⟩ := h.tunnel os hok
  rw [← hkeys]
  refine (Stunnel.creates_writeAll fun o ho => ⟨_, hns o ho⟩).mono ?_ fun _ h => h
  intro key hkey ns id _
  rwa [← hkeys]

theorem creates_rest (h : p.Of t side) : (inOrder p.rest).Creates (t.Owns side) (· ∈ t.tunnelKeys side) :=
  .inOrder fun a ha => (h.rest a ha).mono (fun _ h => h) fun _ h => h.elim

theorem writes (h : p.Of t side) : p.create.Writes (t.Owns side) (· ∈ t.tunnelKeys side) := by
  refine (h.creates_files.mono (fun _ h => h) fun _ h => h.elim).writes.bind fun _ => ?_
  refine Writes.bind ?_ fun _ => h.creates_rest.writes
  unfold Stunnel.writeFiles
  cases hok : p.tunnel with
  | error f => exact (Reads.throw f).writes
  | ok os => exact (h.creates_tunnel hok).writes

/-- The input is turned down by the tunnel only, and that happens once the files are created. -/
theorem tunnel_of_rejected (h : p.Of t side) (hrun : outcome p.create c = (.error f, c'))
    (hrejects : f.isRejection = true) (hrule : ¬c.Injects f) :
    p.tunnel = .error f ∧ outcome (inOrder (p.files.map Endpoint.createObject)) c = (.ok (), c') := by
  unfold Parts.create at hrun
  rw [outcome_bind] at hrun
  rcases hfiles : outcome (inOrder (p.files.map Endpoint.createObject)) c with ⟨g | _, c₁⟩
  · rw [hfiles] at hrun
    cases hrun
    exact absurd (h.creates_files.rejected c f (by rw [hfiles]) hrejects) hrule
  · rw [hfiles] at hrun
    cases hok : p.tunnel with
    | error g =>
      rw [hok] at hrun
      cases hrun
      exact ⟨rfl, rfl⟩
    | ok os =>
      have hadvances := h.creates_files.writes c
      have hlater := ((h.creates_tunnel hok).bind fun _ => h.creates_rest).rejected c₁ f
      rw [hok] at hrun
      rw [hfiles] at hadvances
      exact absurd ((hadvances.injects_iff f).1 (hlater (congrArg Prod.fst hrun) hrejects)) hrule

theorem rejected (h : p.Of t side) (hrun : outcome p.create c = (.error f, c')) (hrejects : f.isRejection = true)
    (hrule : ¬c.Injects f) :
    t.transport.isDirect = false ∧ outcome (inOrder (p.files.map Endpoint.createObject)) c = (.ok (), c') := by
  obtain ⟨htunnel, hfiles⟩ := h.tunnel_of_rejected hrun hrejects hrule
  exact ⟨h.turned_down f htunnel, hfiles⟩

/-- Creating a side that succeeds writes its files and those of the tunnel. -/
theorem logs (h : p.Of t side) (hrun : outcome p.create c = (.ok (), c')) :
    (∀ o ∈ p.files, Cluster.Logs c c' o.key) ∧ ∀ key ∈ t.tunnelKeys side, Cluster.Logs c c' key := by
  unfold Parts.create at hrun
  obtain ⟨⟨⟩, c₁, hfiles, hrun⟩ := bind_eq_ok.1 hrun
  obtain ⟨⟨⟩, c₂, htunnel, hrest⟩ := bind_eq_ok.1 hrun
  obtain ⟨os, c₁', hos, hwrites⟩ := bind_eq_ok.1 htunnel
  obtain ⟨hok, rfl⟩ := Prod.mk.inj hos
  obtain ⟨hkeys, hns⟩ := h.tunnel os hok
  have hfirst := h.creates_files.writes c
  have hsecond := (h.creates_tunnel hok).writes c₁
  have hthird := h.creates_rest.writes c₂
  rw [hfiles] at hfirst
  rw [hwrites] at hsecond
  rw [hrest] at hthird
  constructor
  · intro o ho
    have hlogs := logs_inOrder (fun _ => h.creates_file) Endpoint.createObject_logs hfiles o ho
    exact hlogs.trans (hsecond.trans hthird)
  · intro key hkey
    rw [← hkeys] at hkey
    obtain ⟨o, ho, rfl⟩ := List.mem_map.1 hkey
    have hlogs := Stunnel.writeAll_logs (fun o ho => ⟨_, hns o ho⟩) hwrites o ho
    exact .of_later hfirst (hlogs.trans hthird)

end Parts.Of

/-! ## The sides of a transfer -/

theorem Endpoint.HasKey.not_mem_keys {e : Endpoint} {key : Key} (h : e.HasKey key) (ns id : String) :
    key ∉ Stunnel.keys ns id := by
  have hkind := h.1
  unfold Endpoint.kinds at hkind
  apply Transfer.not_mem_keys_of_kind
  · intro he
    rw [he] at hkind
    cases htype : e.type <;> simp [htype] at hkind
  · intro he
    rw [he] at hkind
    cases htype : e.type <;> simp [htype] at hkind

namespace Transfer

theorem ns_of_mem_serverFiles {t : Transfer} {o : Object} (h : o ∈ t.serverFiles) :
    o.metadata.ns = some t.serverNamespace := by
  unfold serverFiles at h
  cases hm : t.method with
  | rsync options =>
    simp only [hm, Rsync.serverFiles, List.mem_cons, List.not_mem_nil, or_false] at h
    rcases h with rfl | rfl <;> rfl
  | rclone =>
    simp only [hm, Rclone.serverFiles, List.mem_singleton] at h
    subst h
    rfl
  | blockrsync options => simp [hm] at h

theorem ns_of_mem_clientFiles {t : Transfer} {target : Address} {o : Object} (h : o ∈ t.clientFiles target) :
    o.metadata.ns = some t.clientNamespace := by
  unfold clientFiles at h
  cases hm : t.method with
  | rsync options =>
    simp only [hm, Rsync.clientFiles, List.mem_singleton] at h
    subst h
    rfl
  | rclone =>
    simp only [hm, Rclone.clientFiles, List.mem_singleton] at h
    subst h
    rfl
  | blockrsync options => simp [hm] at h

/-- A pod or a deployment is under no key of a tunnel. -/
theorem creates_pods {t : Transfer} {side : Side} {o : Object} {ns : String} (hns : o.metadata.ns = some ns)
    (hmap : o.kind ≠ .configMap) (hsecret : o.kind ≠ .secret) :
    (Endpoint.createObject o).Creates (t.Owns side) fun _ => False := by
  refine (Endpoint.creates_createObject hns).mono ?_ fun _ h => h
  rintro key rfl ns id hmem
  exact absurd hmem (not_mem_keys_of_kind hmap hsecret ns id)

theorem creates_server (t : Transfer) (issued : TlsMaterial) :
    (Endpoint.createObject (t.asServer issued).server).Creates (t.Owns .server) fun _ => False := by
  have hm : (t.asServer issued).method = t.method := rfl
  unfold Transfer.server
  rw [hm]
  cases t.method <;> exact creates_pods rfl (by rintro ⟨⟩) (by rintro ⟨⟩)

theorem creates_client (t : Transfer) (target : Address) :
    (Endpoint.createObject (t.asClient.client target)).Creates (t.Owns .client) fun _ => False := by
  have hm : t.asClient.method = t.method := rfl
  unfold Transfer.client
  rw [hm]
  cases t.method <;> exact creates_pods rfl (by rintro ⟨⟩) (by rintro ⟨⟩)

/-- The files of a side's tunnel have its keys. -/
theorem keys_tunnelFiles {t : Transfer} {side side' : Side} {os : List Object}
    (h : t.transport.isDirect = true ∧ os = [] ∨ t.transport.isDirect = false ∧ ∃ config material,
      os = Stunnel.objects (t.namespaceOf side) t.id side' config material) :
    os.map Object.key = t.tunnelKeys side ∧ ∀ o ∈ os, o.metadata.ns = some (t.namespaceOf side) := by
  unfold tunnelKeys
  rcases h with ⟨hdirect, rfl⟩ | ⟨htunnel, config, material, rfl⟩
  · simp [hdirect]
  · rw [htunnel]
    refine ⟨rfl, fun o ho => ?_⟩
    simp only [Stunnel.objects, List.mem_cons, List.not_mem_nil, or_false] at ho
    rcases ho with rfl | rfl <;> rfl

theorem serverParts_of (t : Transfer) (issued : TlsMaterial) : (t.serverParts issued).Of t .server where
  files o ho := ⟨ns_of_mem_serverFiles ho, not_mem_keys_of_head (head_of_mem_serverFiles ho)⟩
  files_nil := by
    unfold serverParts serverFiles type
    cases t.method <;> simp [Method.type, Rsync.serverFiles, Rclone.serverFiles]
  tunnel os hok := keys_tunnelFiles (Transport.serverObjects_ok hok)
  turned_down f hf := by
    cases ht : t.transport with
    | stunnel tunnel => rfl
    | direct port =>
      simp only [serverParts, ht] at hf
      cases hf
  rest a ha := by
    simp only [serverParts, List.mem_cons, List.not_mem_nil, or_false] at ha
    rcases ha with rfl | rfl
    · exact t.creates_server issued
    · exact t.endpoint.creates_create.mono (fun _ hkey ns id hmem => absurd hmem (hkey.not_mem_keys ns id)) fun _ h => h

theorem clientParts_of (t : Transfer) (target : Address) : (t.clientParts target).Of t .client where
  files o ho := ⟨ns_of_mem_clientFiles ho, not_mem_keys_of_head (head_of_mem_clientFiles ho)⟩
  files_nil := by
    unfold clientParts clientFiles type
    cases t.method <;> simp [Method.type, Rsync.clientFiles, Rclone.clientFiles]
  tunnel os hok := keys_tunnelFiles (Transport.clientObjects_ok hok)
  turned_down f hf := by
    cases ht : t.transport with
    | stunnel tunnel => rfl
    | direct port =>
      simp only [clientParts, ht] at hf
      cases hf
  rest a ha := by
    obtain rfl := List.mem_singleton.1 ha
    exact t.creates_client target

end Transfer

end VolumeMigration
