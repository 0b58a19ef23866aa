import VolumeMigration.Proofs.InvalidInput
import VolumeMigration.Proofs.ServerStarts
import VolumeMigration.Proofs.WriteSteps
/-!
# The order in which a side is created

A side consists of its files, the files of its tunnel and what runs it, and they
are written in that order; after a server's come the parts of its endpoint. The
first step that fails ends the creation with its failure, and what was written
are the steps before it. Parts of an endpoint do not stop each other
(`Transfer.createServer_createClient_ordered`).
-/

namespace VolumeMigration

open Attempt

/-! ## Steps, and then a group -/

namespace WriteStep

/-- How steps in order end that the parts of a group come after: as the steps do that stop, or with a report of the
parts that fail once all of them were attempted. -/
inductive OrderedThenAll (steps : List WriteStep) (resource : String) (parts : List WriteStep) (c : Cluster) :
    Result Unit × Cluster → Prop where
  | stopped {f : Failure} {c' : Cluster} (h : Ordered steps c (.error f, c')) :
    OrderedThenAll steps resource parts c (.error f, c')
  | reported {c' : Cluster} (hpassed : ∀ s ∈ steps, s.failure? c = none)
    (hmade : c.Made (steps ++ parts.filter fun s => (s.failure? c).isNone) c') :
    OrderedThenAll steps resource parts c (Failure.checkPartial resource (parts.filterMap (failure? c)), c')

theorem orderedThenAll {steps parts : List WriteStep} (hapart : Apart (steps ++ parts)) (resource : String)
    (c : Cluster) : OrderedThenAll steps resource parts c (outcome (do
      inOrder (steps.map attempt)
      all resource (parts.map attempt) : Attempt Cluster Unit) c) := by
  obtain ⟨hsteps, hparts, hcross⟩ := List.pairwise_append.1 hapart
  have hordered := ordered_inOrder hsteps c
  rcases hrun : outcome (inOrder (steps.map attempt)) c with ⟨f | ⟨⟩, c₁⟩
  · rw [hrun] at hordered
    rw [outcome_bind, hrun]
    exact .stopped hordered
  · rw [hrun] at hordered
    rw [outcome_bind_ok hrun]
    cases hordered with
    | passed hpassed hmade =>
      have hsame : ∀ p ∈ parts, p.failure? c₁ = p.failure? c := fun p hp =>
        failure?_congr (hmade.agreesOn fun d hd => hcross d hd p hp)
      obtain ⟨c₂, hall, hmade'⟩ := outcome_all resource hparts c₁
      have hfailures : parts.filterMap (failure? c₁) = parts.filterMap (failure? c) := by
        have hmap : parts.map (failure? c₁) = parts.map (failure? c) := List.map_congr_left hsame
        simpa [List.filterMap_map] using congrArg (List.filterMap id) hmap
      have hfilter : (parts.filter fun p => (p.failure? c₁).isNone) = parts.filter fun p => (p.failure? c).isNone :=
        List.filter_congr fun p hp => by rw [hsame p hp]
      rw [hfilter] at hmade'
      rw [hall, hfailures]
      exact .reported hpassed (hmade.append hmade' fun d hd p hp => hcross d hd p (List.mem_filter.1 hp).1)

theorem mem_looksAt {s : WriteStep} {k : Key} (h : k ∈ s.looksAt) : k = s.key ∨ k = appsKey := by
  cases s with
  | create o | upsert o => exact .inl (List.mem_singleton.1 h)
  | route e termination subdomain =>
    rcases List.mem_cons.1 h with h | h
    · exact .inl h
    · exact .inr (List.mem_singleton.1 h)

/-- Steps under different keys are apart if they look at nothing else, or if none of them writes the configuration that
the host of a route is made from. -/
theorem apart_of_nodup {steps : List WriteStep} (hnodup : (steps.map key).Nodup)
    (happs : (∀ s ∈ steps, s.looksAt = [s.key]) ∨ ∀ s ∈ steps, s.key ≠ appsKey) : Apart steps := by
  have hne : steps.Pairwise fun d s => d.key ≠ s.key := List.pairwise_map.1 hnodup
  refine hne.imp_of_mem fun {d s} hd hs hkey hlooks => ?_
  rcases happs with hown | hother
  · rw [hown s hs] at hlooks
    exact hkey (List.mem_singleton.1 hlooks)
  · rcases mem_looksAt hlooks with h | h
    · exact hkey h
    · exact hother d hd h

end WriteStep

/-! ## Endpoints -/

namespace Endpoint

/-- The parts of an endpoint: its service, and the route or the ingress in front of it. -/
def writeSteps (e : Endpoint) : List WriteStep :=
  .create e.service :: match e.entry with
    | .route termination subdomain _ => [.route e termination subdomain]
    | .ingress className hostname => [.create (e.ingress className hostname)]
    | .clusterIP | .nodePort .. | .loadBalancer _ => []

theorem create_eq (e : Endpoint) :
    e.create = all s!"{e.type} endpoint {e.name}" (e.writeSteps.map WriteStep.attempt) := by
  unfold create writeSteps createRouters
  cases e.entry <;> rfl

theorem keys_writeSteps (e : Endpoint) : e.writeSteps.map WriteStep.key = e.keys := by
  unfold writeSteps keys kinds type
  cases e.entry <;> rfl

/-- Only a route has a host to choose, and no endpoint has both a route and an ingress. -/
theorem looksAt_writeSteps (e : Endpoint) :
    (∀ s ∈ e.writeSteps, s.looksAt = [s.key]) ∨ ∀ s ∈ e.writeSteps, s.key.kind ≠ .ingress := by
  unfold writeSteps
  cases e.entry with
  | route termination subdomain hostname =>
    right
    intro s hs
    simp only [List.mem_cons, List.not_mem_nil, or_false] at hs
    rcases hs with rfl | rfl <;> rintro ⟨⟩
  | ingress className hostname =>
    left
    intro s hs
    simp only [List.mem_cons, List.not_mem_nil, or_false] at hs
    rcases hs with rfl | rfl <;> rfl
  | clusterIP | nodePort _ _ | loadBalancer _ =>
    left
    intro s hs
    rw [List.mem_singleton.1 hs]
    rfl

end Endpoint

/-! ## Sides -/

namespace Attempt

variable {σ : Type}

theorem inOrder_append (as bs : List (Attempt σ Unit)) : inOrder (as ++ bs) = (do inOrder as; inOrder bs) := by
  induction as with
  | nil => rfl
  | cons a as ih => simp only [List.cons_append, inOrder, ih, bind_assoc]

end Attempt

/-- The steps of a side: its own files, the files of its tunnel, and what runs it. -/
def sideSteps (own tunnel : List Object) (payload : Object) : List WriteStep :=
  own.map .create ++ tunnel.map .upsert ++ [.create payload]

theorem keys_sideSteps (own tunnel : List Object) (payload : Object) :
    (sideSteps own tunnel payload).map WriteStep.key =
      own.map Object.key ++ tunnel.map Object.key ++ [payload.key] := by
  simp [sideSteps, Function.comp_def, WriteStep.key]

theorem looksAt_sideSteps {own tunnel : List Object} {payload : Object} {s : WriteStep}
    (h : s ∈ sideSteps own tunnel payload) : s.looksAt = [s.key] := by
  simp only [sideSteps, List.mem_append, List.mem_map, List.mem_singleton] at h
  rcases h with (⟨o, -, rfl⟩ | ⟨o, -, rfl⟩) | rfl <;> rfl

/-- A side whose tunnel is not turned down is created in its steps, and then comes the rest. -/
theorem Parts.outcome_create {p : Parts} {tunnel : List Object} {payload : Object} {rest : List (Attempt Cluster Unit)}
    (htunnel : p.tunnel = .ok tunnel) (hrest : p.rest = Endpoint.createObject payload :: rest) (c : Cluster) :
    outcome p.create c = outcome (do
      inOrder ((sideSteps p.files tunnel payload).map WriteStep.attempt)
      inOrder rest : Attempt Cluster Unit) c := by
  have hwrites : Stunnel.writeFiles p.tunnel = inOrder ((tunnel.map WriteStep.upsert).map WriteStep.attempt) := by
    rw [htunnel, List.map_map]
    rfl
  have hfiles : p.files.map Endpoint.createObject = (p.files.map WriteStep.create).map WriteStep.attempt := by
    rw [List.map_map]
    rfl
  unfold Parts.create sideSteps
  rw [hwrites, hrest, hfiles, List.map_append, List.map_append, inOrder_append, inOrder_append, List.map_singleton,
    inOrder_singleton, bind_assoc, bind_assoc]
  rfl

/-! ## Keys of a side -/

namespace Transfer

variable {t : Transfer} {issued : TlsMaterial} {target : Address} {side : Side}

theorem nodup_tunnelKeys (t : Transfer) (side : Side) : (t.tunnelKeys side).Nodup := by
  unfold tunnelKeys
  split <;> simp [Stunnel.keys]

/-- The keys of a side's files, of its tunnel's files and of what runs it are different. -/
theorem nodup_sideKeys {own : List Object} {payload : Object} (hown : (own.map Object.key).Nodup)
    (hnames : ∀ o ∈ own, o.key.name.toList.head? = some 'f')
    (hkinds : ∀ key ∈ own.map Object.key, key.kind = .configMap ∨ key.kind = .secret)
    (hpayload : payload.key.kind = .deployment ∨ payload.key.kind = .pod) :
    (own.map Object.key ++ t.tunnelKeys side ++ [payload.key]).Nodup := by
  have hfiles : (own.map Object.key ++ t.tunnelKeys side).Nodup := by
    refine List.nodup_append.2 ⟨hown, t.nodup_tunnelKeys side, ?_⟩
    rintro key hkey _ hmem rfl
    obtain ⟨o, ho, rfl⟩ := List.mem_map.1 hkey
    obtain ⟨-, hkey⟩ := mem_tunnelKeys.1 hmem
    exact not_mem_keys_of_head (hnames o ho) _ _ hkey
  refine List.nodup_append.2 ⟨hfiles, by simp, ?_⟩
  rintro key hkey _ hmem rfl
  have hkind : key.kind = .configMap ∨ key.kind = .secret := by
    rcases List.mem_append.1 hkey with hkey | hkey
    · exact hkinds key hkey
    · exact kind_tunnelKeys hkey
  rw [List.mem_singleton.1 hmem] at hkind
  rcases hpayload with h | h <;> rcases hkind with h' | h' <;> simp [h] at h'

theorem nodup_payloadKeys (t : Transfer) : t.payloadKeys.Nodup :=
  nodup_sideKeys t.nodup_serverFiles (fun _ => head_of_mem_serverFiles) (fun _ => kind_serverFiles) t.kind_server

theorem nodup_serverKeys (t : Transfer) : t.serverKeys.Nodup := by
  refine List.nodup_append.2 ⟨t.nodup_payloadKeys, ?_, ?_⟩
  · unfold Endpoint.keys Endpoint.kinds
    cases t.endpoint.type <;> simp
  · rintro key hkey _ hmem rfl
    have hout := kind_payloadKeys hkey
    have hin := Endpoint.kind_keys hmem
    simp only [List.mem_cons, List.not_mem_nil, or_false] at hin
    rcases hin with hin | hin | hin <;> simp [hin] at hout

theorem kind_client (t : Transfer) (target : Address) : (t.client target).key.kind = .pod := by
  unfold client
  cases t.method <;> rfl

theorem clientFiles_secret (t : Transfer) (target : Address) : ((t.clientFiles target).map Object.key).Nodup ∧
    ∀ key ∈ (t.clientFiles target).map Object.key, key.kind = .secret := by
  unfold clientFiles
  cases t.method with
  | rsync options =>
    refine ⟨by simp [Rsync.clientFiles], fun key hkey => ?_⟩
    rw [List.mem_singleton.1 hkey]
    rfl
  | rclone =>
    refine ⟨by simp [Rclone.clientFiles], fun key hkey => ?_⟩
    rw [List.mem_singleton.1 hkey]
    rfl
  | blockrsync options => simp

end Transfer

/-! ## Both sides -/

/-- A tunnel has legal options and its material. -/
def Transport.IsReady : Transport → Prop
  | stunnel t => t.options.validate = .ok () ∧ ∃ material, t.material = some material
  | direct _ => True

namespace Transport

variable {t : Transport} {issued : TlsMaterial} {ns id : String} {e : Endpoint} {port : Nat}

theorem IsReady.serverObjects_ok (h : t.IsReady) : ∃ files, t.serverObjects issued id e port = .ok files := by
  cases t with
  | direct port => exact ⟨[], rfl⟩
  | stunnel tunnel =>
    unfold serverObjects
    simp only [h.1]
    exact ⟨_, rfl⟩

theorem IsReady.clientObjects_ok (h : t.IsReady) {address : Address} (haddress : Address.ofEndpoint e = .ok address) :
    ∃ files, t.clientObjects ns id e = .ok files := by
  cases t with
  | direct port => exact ⟨[], rfl⟩
  | stunnel tunnel =>
    obtain ⟨hvalid, material, hmaterial⟩ := h
    obtain ⟨proxy, hproxy⟩ := StunnelOptions.proxyHost_ok hvalid
    unfold clientObjects
    simp only [hvalid, hmaterial, Stunnel.clientConfig, haddress, hproxy]
    exact ⟨_, rfl⟩

/-- It is known where a client connects to if the address of the endpoint is known. -/
theorem target_ok {address : Address} (haddress : Address.ofEndpoint e = .ok address) (t : Transport) :
    ∃ target, t.target e = .ok target := by
  cases t with
  | direct port => exact ⟨address, haddress⟩
  | stunnel tunnel => exact ⟨⟨"localhost", Stunnel.clientPort⟩, rfl⟩

end Transport

namespace Transfer

open WriteStep

variable {t : Transfer} {issued : TlsMaterial} {target : Address}

/-- The steps of the server's side before its endpoint. -/
def serverSteps (t : Transfer) (issued : TlsMaterial) (tunnel : List Object) : List WriteStep :=
  sideSteps t.serverFiles tunnel (t.asServer issued).server

/-- The steps of the client's side. -/
def clientSteps (t : Transfer) (target : Address) (tunnel : List Object) : List WriteStep :=
  sideSteps (t.clientFiles target) tunnel (t.asClient.client target)

theorem apart_serverSteps {files : List Object}
    (hfiles : t.transport.serverObjects issued t.id t.endpoint t.backendPort = .ok files) :
    Apart (t.serverSteps issued files ++ t.endpoint.writeSteps) := by
  have htunnel := ((t.serverParts_of issued).tunnel files hfiles).1
  have hpayload : (t.serverSteps issued files).map WriteStep.key = t.payloadKeys := by
    rw [serverSteps, keys_sideSteps, htunnel, key_server_asServer]
    rfl
  have hkeys : (t.serverSteps issued files ++ t.endpoint.writeSteps).map WriteStep.key = t.serverKeys := by
    rw [List.map_append, hpayload, Endpoint.keys_writeSteps]
    rfl
  refine apart_of_nodup (hkeys ▸ t.nodup_serverKeys) (t.endpoint.looksAt_writeSteps.imp ?_ ?_)
  · intro hown s hs
    rcases List.mem_append.1 hs with hs | hs
    · exact looksAt_sideSteps hs
    · exact hown s hs
  · intro hother s hs hkey
    rcases List.mem_append.1 hs with hs | hs
    · have hkind := kind_payloadKeys (hpayload ▸ List.mem_map_of_mem hs)
      rw [hkey] at hkind
      exact absurd hkind (by decide)
    · exact hother s hs (congrArg Key.kind hkey)

theorem apart_clientSteps {files : List Object}
    (hfiles : t.transport.clientObjects t.clientNamespace t.id t.endpoint = .ok files) :
    Apart (t.clientSteps target files) := by
  have htunnel := ((t.clientParts_of target).tunnel files hfiles).1
  refine apart_of_nodup ?_ (.inl fun s hs => looksAt_sideSteps hs)
  rw [clientSteps, keys_sideSteps, htunnel]
  obtain ⟨hnodup, hkinds⟩ := t.clientFiles_secret target
  exact nodup_sideKeys hnodup (fun _ => head_of_mem_clientFiles) (fun key hkey => .inr (hkinds key hkey))
    (.inr (t.asClient.kind_client target))

/-- Each side is created in order: its own files, the files of its tunnel, what runs it, and then the endpoint of the
server. The first step that fails in the cluster as it was at first ends the creation with its failure. What
was written and logged are the steps before it, and the parts of the endpoint that do not fail if none of
the steps before them does. -/
theorem createServer_createClient_ordered (t : Transfer) (hready : t.transport.IsReady) (c : Cluster) :
    (∀ issued, ∃ files, t.transport.serverObjects issued t.id t.endpoint t.backendPort = .ok files ∧
      OrderedThenAll (t.serverSteps issued files) s!"{t.endpoint.type} endpoint {t.endpoint.name}"
        t.endpoint.writeSteps c
        (cluster (outcome (createServer issued) (t, c)))) ∧
    ∀ address, Address.ofEndpoint t.endpoint = .ok address → ∃ target files, t.target = .ok target ∧
      t.transport.clientObjects t.clientNamespace t.id t.endpoint = .ok files ∧
      Ordered (t.clientSteps target files) c (cluster (outcome createClient (t, c))) := by
  constructor
  · intro issued
    obtain ⟨files, hfiles⟩ : ∃ files, t.transport.serverObjects issued t.id t.endpoint t.backendPort = .ok files :=
      hready.serverObjects_ok
    refine ⟨files, hfiles, ?_⟩
    have hsteps : outcome (t.serverParts issued).create c = outcome (do
        inOrder ((t.serverSteps issued files).map attempt)
        t.endpoint.create : Attempt Cluster Unit) c := by
      rw [Parts.outcome_create hfiles rfl, inOrder_singleton]
      rfl
    rw [cluster_createServer, hsteps, Endpoint.create_eq]
    exact orderedThenAll (apart_serverSteps hfiles) _ c
  · intro address haddress
    obtain ⟨target, htarget⟩ := Transport.target_ok haddress t.transport
    obtain ⟨files, hfiles⟩ : ∃ files, t.transport.clientObjects t.clientNamespace t.id t.endpoint = .ok files :=
      hready.clientObjects_ok haddress
    refine ⟨target, files, htarget, hfiles, ?_⟩
    have hsteps : outcome (t.clientParts target).create c =
        outcome (inOrder ((t.clientSteps target files).map attempt)) c := by
      rw [Parts.outcome_create hfiles rfl, inOrder, bind_pure_unit]
      rfl
    rw [cluster_createClient, show t.target = .ok target from htarget]
    show Ordered _ c (outcome (t.clientParts target).create c)
    rw [hsteps]
    exact ordered_inOrder (apart_clientSteps hfiles) c

/-- A cluster that creates no deployments. -/
def withoutDeployments : Cluster := { faults := [{ operation := .create, kind := .deployment }] }

theorem createServer_createClient_ordered_insideShop : insideShop.transport.IsReady ∧
    (∃ files,
      insideShop.transport.serverObjects default insideShop.id insideShop.endpoint insideShop.backendPort = .ok files ∧
      OrderedThenAll (insideShop.serverSteps default files)
        s!"{insideShop.endpoint.type} endpoint {insideShop.endpoint.name}" insideShop.endpoint.writeSteps
        withoutDeployments (cluster (outcome (createServer default) (insideShop, withoutDeployments)))) ∧
    ∃ address, Address.ofEndpoint insideShop.endpoint = .ok address ∧ ∃ target files, insideShop.target = .ok target ∧
      insideShop.transport.clientObjects insideShop.clientNamespace insideShop.id insideShop.endpoint = .ok files ∧
      Ordered (insideShop.clientSteps target files) withoutDeployments
        (cluster (outcome createClient (insideShop, withoutDeployments))) := by
  have hready : insideShop.transport.IsReady := ⟨rfl, _, rfl⟩
  obtain ⟨hserver, hclient⟩ := createServer_createClient_ordered insideShop hready withoutDeployments
  exact ⟨hready, hserver default, _, rfl, hclient _ rfl⟩

/-- The files are written, and neither the deployment nor the service. -/
example : (outcome (createServer default) (insideShop, withoutDeployments)).2.2.log.map LogEntry.line =
    ["create ConfigMap shop/ferry-rsync-config-8d777f385d3dfec8815d20f7496026dc",
      "create Secret shop/ferry-rsync-secret-8d777f385d3dfec8815d20f7496026dc",
      "create ConfigMap shop/stunnel-config-8d777f385d3dfec8815d20f7496026dc",
      "create Secret shop/stunnel-creds-8d777f385d3dfec8815d20f7496026dc"] := by
  decide +kernel

end Transfer

end VolumeMigration
