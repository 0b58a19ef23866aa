import VolumeMigration.Proofs.ConfigFiles
import VolumeMigration.Proofs.PairRules
import VolumeMigration.Proofs.Parts
/-!
# Creations that share a cluster

Files, pods and endpoints are created only if nothing is there under their keys,
so that whatever else a cluster has stays as it is. The files of a tunnel are
updated in place, and their names tell neither the way of copying nor the sides
apart. So a server overwrites what the server of another transfer made if both
have tunnels of the same names (`Transfer.createServer_createServer_keeps`), and
the client's side overwrites what the server's side of its own transfer made if
both are in one namespace (`Transfer.createServer_createClient_keeps`).
-/

namespace VolumeMigration

open Attempt
open Cluster (Logs)

/-- Tunnels with a file of the same key are in one namespace and have the same name. -/
theorem Stunnel.eq_of_mem_keys {ns ns' id id' : String} {key : Key} (h : key ∈ keys ns id) (h' : key ∈ keys ns' id') :
    ns = ns' ∧ id = id' := by
  simp only [keys, List.mem_cons, List.not_mem_nil, or_false] at h h'
  rcases h with rfl | rfl
  · rcases h' with he | he
    · obtain ⟨-, hns, hname⟩ := Key.mk.inj he
      exact ⟨hns, (String.append_right_inj _).1 hname⟩
    · cases congrArg Key.kind he
  · rcases h' with he | he
    · cases congrArg Key.kind he
    · obtain ⟨-, hns, hname⟩ := Key.mk.inj he
      exact ⟨hns, (String.append_right_inj _).1 hname⟩

/-- If there is something under the key of the first file, then nothing is changed. -/
theorem Parts.objects_eq_of_contains {p : Parts} {o : Object} {os : List Object} {c c' : Cluster} {r : Result Unit}
    (hfiles : p.files = o :: os) (hthere : c.objects.contains o.key = true) (hrun : outcome p.create c = (r, c')) :
    c'.objects = c.objects := by
  unfold Parts.create Endpoint.createObject at hrun
  rw [hfiles, List.map_cons, inOrder] at hrun
  simp only [outcome_bind, Cluster.create_outcome] at hrun
  cases ha : c.admits .create o with
  | error f =>
    simp only [ha] at hrun
    cases hrun
    rfl
  | ok ns =>
    simp only [ha, hthere, if_true] at hrun
    cases hrun
    rfl

/-- Whatever the cluster, the attempt keeps a property of what it changes beside it. -/
def Attempt.Keeps {σ α : Type} (P : σ → Prop) (a : Attempt (σ × Cluster) α) : Prop :=
  ∀ s c, P s → P (outcome a (s, c)).2.1

theorem Attempt.Keeps.bind {σ α β : Type} {P : σ → Prop} {a : Attempt (σ × Cluster) α} {k : α → Attempt (σ × Cluster) β}
    (ha : a.Keeps P) (hk : ∀ x, (k x).Keeps P) : (a >>= k).Keeps P := by
  intro s c hs
  have hfirst := ha s c hs
  rw [outcome_bind]
  rcases h : outcome a (s, c) with ⟨f | x, s', c'⟩
  · rwa [h] at hfirst
  · rw [h] at hfirst
    exact hk x s' c' hfirst

namespace Transfer

variable {t t' t'' : Transfer} {issued : TlsMaterial} {c c' : Cluster} {r : Result Unit}

/-! ## What each side does -/

theorem createServer_advances (hrun : outcome (createServer issued) (t, c) = (r, (t', c'))) :
    c.Advances (t.Owns .server) (· ∈ t.tunnelKeys .server) c' := by
  have hsteps := cluster_createServer t issued c
  have hadvances := (t.serverParts_of issued).writes c
  rw [← hsteps, hrun] at hadvances
  exact hadvances

theorem createClient_advances (hrun : outcome createClient (t, c) = (r, (t', c'))) :
    c.Advances (t.Owns .client) (· ∈ t.tunnelKeys .client) c' := by
  have hsteps := cluster_createClient t c
  have hadvances : (do (t.clientParts (← ofResult t.target)).create).Writes
      (t.Owns .client) (· ∈ t.tunnelKeys .client) :=
    (Reads.ofResult t.target).writes.bind fun target => (t.clientParts_of target).writes
  have hend := hadvances c
  rw [← hsteps, hrun] at hend
  exact hend

theorem createServer_logs (hrun : outcome (createServer issued) (t, c) = (.ok (), (t', c'))) :
    (∀ o ∈ t.serverFiles, Logs c c' o.key) ∧ ∀ key ∈ t.tunnelKeys .server, Logs c c' key := by
  have hsteps := cluster_createServer t issued c
  rw [hrun] at hsteps
  exact (t.serverParts_of issued).logs hsteps.symm

/-- The keys of the files that a server reads. -/
def serverFileKeys (ns id : String) : TransferType → List Key
  | .rsync => [⟨.configMap, ns, "ferry-rsync-config-" ++ id⟩, ⟨.secret, ns, "ferry-rsync-secret-" ++ id⟩]
  | .rclone => [⟨.secret, ns, "ferry-rclone-secret-" ++ id⟩]
  | .blockrsync => []

theorem keys_serverFiles (t : Transfer) :
    t.serverFiles.map Object.key = serverFileKeys t.serverNamespace t.id t.type := by
  unfold serverFiles type
  cases t.method <;> rfl

/-! ## The servers of two transfers -/

/-- Both transfers have tunnels, with files of the same keys, and the second one comes to create its tunnel:
it has no files of its own, or they are named otherwise than those of the first one. -/
structure Collides (a b : Transfer) : Prop where
  tunnelled : a.transport.isDirect = false ∧ b.transport.isDirect = false
  place : a.serverNamespace = b.serverNamespace
  name : a.id = b.id
  reached : b.type = .blockrsync ∨ b.type ≠ a.type

theorem mem_tunnelKeys {t : Transfer} {side : Side} {key : Key} :
    key ∈ t.tunnelKeys side ↔ t.transport.isDirect = false ∧ key ∈ Stunnel.keys (t.namespaceOf side) t.id := by
  unfold tunnelKeys
  cases t.transport.isDirect <;> simp

theorem kind_tunnelKeys {t : Transfer} {side : Side} {key : Key} (h : key ∈ t.tunnelKeys side) :
    key.kind = .configMap ∨ key.kind = .secret := by
  obtain ⟨-, hkey⟩ := mem_tunnelKeys.1 h
  simp only [Stunnel.keys, List.mem_cons, List.not_mem_nil, or_false] at hkey
  rcases hkey with rfl | rfl <;> simp

/-- Where the files of a server are there, another one that copies in the same way and is named alike changes
nothing. -/
theorem createServer_keeps_of_files {a b b' : Transfer} (htype : b.type = a.type) (hfiles : b.type ≠ .blockrsync)
    (hplace : a.serverNamespace = b.serverNamespace) (hname : a.id = b.id)
    (hthere : ∀ o ∈ a.serverFiles, c.objects.contains o.key = true)
    (hb : outcome (createServer issued) (b, c) = (r, (b', c'))) : c'.objects = c.objects := by
  have hkeys : b.serverFiles.map Object.key = a.serverFiles.map Object.key := by
    rw [keys_serverFiles, keys_serverFiles, hplace, hname, htype]
  have hsteps := cluster_createServer b issued c
  rw [hb] at hsteps
  cases hfirst : b.serverFiles with
  | nil => exact absurd ((b.serverParts_of issued).files_nil.1 hfirst) hfiles
  | cons o os =>
    have hmem : o.key ∈ a.serverFiles.map Object.key := by
      rw [← hkeys, hfirst]
      exact List.mem_cons_self
    obtain ⟨o', ho', hkey⟩ := List.mem_map.1 hmem
    have hcontains := hthere o' ho'
    rw [hkey] at hcontains
    exact Parts.objects_eq_of_contains hfirst hcontains hsteps.symm

/-- The server of one transfer is there, and that of another one is created, however that ends. What the
first one made is as it was, except that the second one's tunnel may have overwritten the files of the first
one's. That takes two tunnels in one namespace whose transfers are named alike, and two ways of copying, or one
without files; then it happens whenever the second server is created at all. -/
theorem createServer_createServer_keeps {a a' b b' : Transfer} {issued issued' : TlsMaterial} {c₀ c₁ c c₂ : Cluster}
    (ha : outcome (createServer issued) (a, c₀) = (.ok (), (a', c₁)))
    (hthere : ∀ key, Logs c₀ c₁ key → c.objects.contains key = true)
    (hb : outcome (createServer issued') (b, c) = (r, (b', c₂))) :
    (∀ key, Logs c₀ c₁ key →
      c₂.objects.get? key = c.objects.get? key ∨ a.Collides b ∧ key ∈ b.tunnelKeys .server) ∧
    (r = .ok () → a.Collides b → ∀ key ∈ b.tunnelKeys .server, Logs c₀ c₁ key ∧ Logs c c₂ key) := by
  constructor
  · intro key hlogs
    by_cases hreplaced : key ∈ b.tunnelKeys .server
    · obtain ⟨htunnel, hkey⟩ := mem_tunnelKeys.1 hreplaced
      have hown := ((createServer_advances ha).of_logs hlogs).1 _ _ hkey
      obtain ⟨htunnel', hkey'⟩ := mem_tunnelKeys.1 hown
      obtain ⟨hplace, hname⟩ := Stunnel.eq_of_mem_keys hkey' hkey
      by_cases hreached : b.type = .blockrsync ∨ b.type ≠ a.type
      · exact .inr ⟨⟨⟨htunnel', htunnel⟩, hplace, hname, hreached⟩, hreplaced⟩
      · left
        rw [not_or, Decidable.not_not] at hreached
        rw [createServer_keeps_of_files hreached.2 hreached.1 hplace hname
          (fun o ho => hthere o.key ((createServer_logs ha).1 o ho)) hb]
    · exact .inl ((createServer_advances hb).get?_eq (hthere key hlogs) hreplaced)
  · rintro rfl hcollides key hkey
    refine ⟨(createServer_logs ha).2 key ?_, (createServer_logs hb).2 key hkey⟩
    obtain ⟨-, hmem⟩ := mem_tunnelKeys.1 hkey
    refine mem_tunnelKeys.2 ⟨hcollides.tunnelled.1, ?_⟩
    change key ∈ Stunnel.keys a.serverNamespace a.id
    rw [hcollides.place, hcollides.name]
    exact hmem

/-- A tree of files that goes from the shop to the depot by rsync. -/
def fromShop : Transfer where
  method := .rsync .archive
  pairs := { pairs := [Pair.ofClaims (.named ⟨"shop", "data"⟩) (some (.named ⟨"depot", "shop-data"⟩))]
             sound := by decide +kernel }
  endpoint := .ofClusterIP ⟨"depot", "inbox-a"⟩ (.ofList [("app", "a")])
  transport := .stunnel { options := {}, material := some { authority := [1], certificate := [2], key := [3] } }
  credentials := .ofPassword "secret"
  workload := {}

/-- A tree of files that goes from the cellar to the depot by rclone. Its source has the name of the other one. -/
def fromCellar : Transfer where
  method := .rclone
  pairs := { pairs := [Pair.ofClaims (.named ⟨"cellar", "data"⟩) (some (.named ⟨"depot", "cellar-data"⟩))]
             sound := by decide +kernel }
  endpoint := .ofClusterIP ⟨"depot", "inbox-b"⟩ (.ofList [("app", "b")])
  transport := .stunnel { options := {}, material := some { authority := [4], certificate := [5], key := [6] } }
  credentials := .ofPassword "secret"
  workload := {}

/-- The cluster with the server of the first transfer. -/
def depot : Cluster := (outcome (createServer default) (fromShop, {})).2.2

theorem createServer_fromShop : outcome (createServer default) (fromShop, {}) =
    (.ok (), ((outcome (createServer default) (fromShop, {})).2.1, depot)) :=
  outcome_of_toOption (by decide +kernel)

/-- The cluster with the servers of both transfers. -/
def fullDepot : Cluster := (outcome (createServer default) (fromCellar, depot)).2.2

theorem createServer_fromCellar : outcome (createServer default) (fromCellar, depot) =
    (.ok (), ((outcome (createServer default) (fromCellar, depot)).2.1, fullDepot)) :=
  outcome_of_toOption (by decide +kernel)

theorem createServer_createServer_keeps_depot :
    (∀ key, Logs {} depot key → depot.objects.contains key = true) ∧
    (∀ key, Logs {} depot key → fullDepot.objects.get? key = depot.objects.get? key ∨
      fromShop.Collides fromCellar ∧ key ∈ fromCellar.tunnelKeys .server) ∧
    fromShop.Collides fromCellar ∧
    ∀ key ∈ fromCellar.tunnelKeys .server, Logs {} depot key ∧ Logs depot fullDepot key := by
  have hthere : ∀ key, Logs {} depot key → depot.objects.contains key = true := fun key hlogs =>
    ((createServer_advances createServer_fromShop).of_logs hlogs).2
  have hcollides : fromShop.Collides fromCellar :=
    ⟨⟨rfl, rfl⟩, by decide +kernel, by decide +kernel, .inr (by decide)⟩
  have hkeeps := createServer_createServer_keeps createServer_fromShop hthere createServer_fromCellar
  exact ⟨hthere, hkeeps.1, hcollides, hkeeps.2 rfl hcollides⟩

/-- The transfers have no claim in common, and the second server overwrites the configuration of the first
one's tunnel. -/
theorem createServer_fromCellar_overwrites : fromShop.Accepted ∧ fromCellar.Accepted ∧
    (∀ side, ∀ p ∈ fromShop.claims side, ∀ q ∈ fromCellar.claims side, p.objectName ≠ q.objectName) ∧
    outcome (createServer default) (fromShop, {}) =
      (.ok (), ((outcome (createServer default) (fromShop, {})).2.1, depot)) ∧
    outcome (createServer default) (fromCellar, depot) =
      (.ok (), ((outcome (createServer default) (fromCellar, depot)).2.1, fullDepot)) ∧
    ∃ key, Logs {} depot key ∧ fullDepot.objects.get? key ≠ depot.objects.get? key := by
  refine ⟨.of_checks (by decide +kernel) (by decide +kernel) rfl,
    .of_checks (by decide +kernel) (by decide +kernel) rfl, ?_, createServer_fromShop, createServer_fromCellar, ?_⟩
  · intro side
    cases side <;> decide +kernel
  · refine ⟨⟨.configMap, "depot", Stunnel.configMapName fromShop.id⟩,
      (createServer_logs createServer_fromShop).2 _ List.mem_cons_self, fun he => ?_⟩
    have hid : fromCellar.id = fromShop.id := by decide +kernel
    have hfirst := ((createServer_ok createServer_fromShop).2.transport _ List.mem_cons_self).configText?
      Stunnel.configKey
    have hsecond := ((createServer_ok createServer_fromCellar).2.transport _ List.mem_cons_self).configText?
      Stunnel.configKey
    rw [SortedMap.get?_ofList_singleton] at hfirst hsecond
    rw [hid] at hsecond
    have htexts := hsecond.symm.trans ((congrArg (·.bind (·.configText? Stunnel.configKey)) he).trans hfirst)
    have hdiffer : Stunnel.serverConfig {} Rclone.port ≠ Stunnel.serverConfig {} Rsync.port := by decide +kernel
    exact hdiffer (Option.some.inj htexts)

/-! ## Both sides of a transfer -/

/-- Only the transport of a transfer is another one, and it is a tunnel if it was one. -/
def Rewired (t u : Transfer) : Prop := ∃ transport, u = { t with transport } ∧ transport.isDirect = t.transport.isDirect

theorem keeps_onTransport {a : Attempt (Transport × Cluster) Unit}
    (h : a.Keeps (·.isDirect = t.transport.isDirect)) : (onTransport a).Keeps t.Rewired := by
  rintro u c ⟨transport, rfl, hdirect⟩
  exact ⟨_, rfl, h transport c hdirect⟩

/-- However the side of a transport is created, it stays a tunnel or stays direct. -/
theorem rewires_transportServer (issued : TlsMaterial) (id : String) (e : Endpoint) (port : Nat)
    (controlFile : Option String) :
    (onTransport (Transport.createServer issued id e port controlFile)).Keeps t.Rewired := by
  refine keeps_onTransport fun u c hu => ?_
  unfold Transport.createServer
  rw [outcome_bind_ok (outcome_get (u, c))]
  cases u <;> exact hu

theorem rewires_transportClient (ns id : String) (e : Endpoint) (controlFile : Option String) :
    (onTransport (Transport.createClient ns id e controlFile)).Keeps t.Rewired := by
  refine keeps_onTransport fun u c hu => ?_
  unfold Transport.createClient
  rw [outcome_bind_ok (outcome_get (u, c))]
  cases u <;> exact hu

theorem createServer_transfer (hrun : outcome (createServer issued) (t, c) = (r, (t', c'))) : t.Rewired t' := by
  have hkeeps : (createServer issued).Keeps t.Rewired := by
    refine .bind (fun _ _ hu => hu) fun s => .bind (fun _ _ hu => hu) fun _ =>
      .bind (rewires_transportServer issued _ _ _ _) fun _ => ?_
    exact .bind (fun _ _ hu => hu) fun s => .bind (fun _ _ hu => hu) fun _ => fun _ _ hu => hu
  have hend := hkeeps t c ⟨t.transport, rfl, rfl⟩
  rwa [hrun] at hend

theorem createClient_transfer (hrun : outcome createClient (t, c) = (r, (t', c'))) : t.Rewired t' := by
  have hkeeps : createClient.Keeps t.Rewired := by
    refine .bind (fun _ _ hu => hu) fun s => .bind (fun _ _ hu => hu) fun target => .bind (fun _ _ hu => hu) fun _ =>
      .bind (rewires_transportClient _ _ _ _) fun _ => ?_
    exact .bind (fun _ _ hu => hu) fun s => fun _ _ hu => hu
  have hend := hkeeps t c ⟨t.transport, rfl, rfl⟩
  rwa [hrun] at hend

theorem component_withManager (id : String) (side : Side) :
    (Label.withManager (Stunnel.labels id side)).get? Label.component = some s!"stunnel-{side}" := by
  rw [Label.withManager, SortedMap.get?_insert_of_ne _ _ (by decide)]
  exact SortedMap.get?_insert_self _ _ _

/-- The files of a tunnel say whose side they are. -/
theorem get?_ne_of_sides {ns id config config' : String} {material material' : TlsMaterial}
    (h : ∀ o ∈ Stunnel.objects ns id .server config material, c.Holds o)
    (h' : ∀ o ∈ Stunnel.objects ns id .client config' material', c'.Holds o) :
    c'.objects.get? ⟨.configMap, ns, Stunnel.configMapName id⟩ ≠
      c.objects.get? ⟨.configMap, ns, Stunnel.configMapName id⟩ := by
  intro he
  obtain ⟨o, ho, halike⟩ := h _ List.mem_cons_self
  obtain ⟨o', ho', halike'⟩ := h' _ List.mem_cons_self
  obtain rfl : o' = o := Option.some.inj (ho'.symm.trans (he.trans ho))
  have hlabels : some (Label.withManager (Stunnel.labels id .server)) =
      some (Label.withManager (Stunnel.labels id .client)) :=
    congrArg (·.metadata.labels) (halike.symm.trans halike')
  have hcomponent := congrArg (fun labels => labels.bind (·.get? Label.component)) hlabels
  simp only [Option.bind_some, component_withManager] at hcomponent
  exact absurd hcomponent (by decide)

/-- If the sides of a tunnel were both created in one namespace, then the client's side replaced what the
server's side had written. -/
theorem get?_tunnel_ne {c₀ c₁ c₂ : Cluster} (htunnel : t.transport.isDirect = false)
    (hplace : t.clientNamespace = t.serverNamespace)
    (hserver : outcome (createServer issued) (t, c₀) = (.ok (), (t', c₁)))
    (hclient : outcome createClient (t', c₁) = (.ok (), (t'', c₂))) :
    c₂.objects.get? ⟨.configMap, t.serverNamespace, Stunnel.configMapName t.id⟩ ≠
      c₁.objects.get? ⟨.configMap, t.serverNamespace, Stunnel.configMapName t.id⟩ := by
  obtain ⟨rfl, hheld⟩ := createServer_ok hserver
  obtain ⟨target, -, -, hheld'⟩ := createClient_ok hclient
  have hthere := hheld.transport
  have hhere := hheld'.transport
  cases ht : t.transport with
  | direct port =>
    rw [ht] at htunnel
    cases htunnel
  | stunnel tunnel =>
    rw [ht] at hthere
    change (t.transport.asServer issued t.id t.endpoint t.serverControlFile?).ClientHeld
      t.clientNamespace t.id t.endpoint c₂ at hhere
    rw [ht, hplace] at hhere
    obtain ⟨material, config, -, -, hfiles⟩ := hhere
    exact get?_ne_of_sides hthere hfiles

/-- The client's side is created after the server's side in one cluster, however that ends. What the server's
side made is still there, and it is as it was, except for the files of a tunnel if both sides are in one
namespace. Those are never as they were once both sides are created. -/
theorem createServer_createClient_keeps {r' : Result Unit} {c₀ c₁ c₂ : Cluster}
    (hserver : outcome (createServer issued) (t, c₀) = (r, (t', c₁)))
    (hclient : outcome createClient (t', c₁) = (r', (t'', c₂))) :
    (∀ key, Logs c₀ c₁ key → c₂.objects.contains key = true ∧ (c₂.objects.get? key = c₁.objects.get? key ∨
      t.clientNamespace = t.serverNamespace ∧ key ∈ t.tunnelKeys .server)) ∧
    (r = .ok () → r' = .ok () → ((∀ key, Logs c₀ c₁ key → c₂.objects.get? key = c₁.objects.get? key) ↔
      t.transport.isDirect = true ∨ t.clientNamespace ≠ t.serverNamespace)) := by
  have hkept : ∀ key, Logs c₀ c₁ key → c₂.objects.contains key = true ∧ (c₂.objects.get? key = c₁.objects.get? key ∨
      t.clientNamespace = t.serverNamespace ∧ key ∈ t.tunnelKeys .server) := by
    intro key hlogs
    obtain ⟨transport, rfl, -⟩ := createServer_transfer hserver
    obtain ⟨hown, hthere⟩ := (createServer_advances hserver).of_logs hlogs
    have hadvances := createClient_advances hclient
    refine ⟨hadvances.contains hthere, ?_⟩
    by_cases hreplaced : key ∈ Transfer.tunnelKeys { t with transport } .client
    · obtain ⟨-, hkey⟩ := mem_tunnelKeys.1 hreplaced
      have hmine := hown _ _ hkey
      obtain ⟨-, hkey'⟩ := mem_tunnelKeys.1 hmine
      exact .inr ⟨(Stunnel.eq_of_mem_keys hkey hkey').1, hmine⟩
    · exact .inl (hadvances.get?_eq hthere hreplaced)
  refine ⟨hkept, ?_⟩
  rintro rfl rfl
  constructor
  · intro hall
    cases htunnel : t.transport.isDirect with
    | true => exact .inl rfl
    | false =>
      refine .inr fun hplace => get?_tunnel_ne htunnel hplace hserver hclient (hall _ ?_)
      exact (createServer_logs hserver).2 _ (mem_tunnelKeys.2 ⟨htunnel, List.mem_cons_self⟩)
  · rintro happart key hlogs
    rcases (hkept key hlogs).2 with hsame | ⟨hplace, hkey⟩
    · exact hsame
    · rcases happart with hdirect | hne
      · rw [(mem_tunnelKeys.1 hkey).1] at hdirect
        cases hdirect
      · exact absurd hplace hne

/-- A tree of files that is copied through a tunnel within one namespace. -/
def insideShop : Transfer where
  method := .rsync .archive
  pairs := { pairs := [Pair.ofClaims (.named ⟨"shop", "data"⟩) (some (.named ⟨"shop", "data-copy"⟩))]
             sound := by decide +kernel }
  endpoint := .ofClusterIP ⟨"shop", "inbox"⟩ (.ofList [("app", "inbox")])
  transport := .stunnel { options := {}, material := some { authority := [1], certificate := [2], key := [3] } }
  credentials := .ofPassword "secret"
  workload := {}

/-- The transfer and its cluster once the server's side was created. -/
def served : Transfer × Cluster := (outcome (createServer default) (insideShop, {})).2

theorem createServer_insideShop : outcome (createServer default) (insideShop, {}) = (.ok (), (served.1, served.2)) :=
  outcome_of_toOption (by decide +kernel)

/-- The transfer and its cluster once both sides were created. -/
def connected : Transfer × Cluster := (outcome createClient (served.1, served.2)).2

theorem createClient_insideShop : outcome createClient (served.1, served.2) = (.ok (), (connected.1, connected.2)) :=
  outcome_of_toOption (by decide +kernel)

theorem createServer_createClient_keeps_insideShop :
    (∀ key, Logs {} served.2 key → connected.2.objects.contains key = true ∧
      (connected.2.objects.get? key = served.2.objects.get? key ∨
        insideShop.clientNamespace = insideShop.serverNamespace ∧ key ∈ insideShop.tunnelKeys .server)) ∧
    ((∀ key, Logs {} served.2 key → connected.2.objects.get? key = served.2.objects.get? key) ↔
      insideShop.transport.isDirect = true ∨ insideShop.clientNamespace ≠ insideShop.serverNamespace) := by
  have hkeeps := createServer_createClient_keeps createServer_insideShop createClient_insideShop
  exact ⟨hkeeps.1, hkeeps.2 rfl rfl⟩

/-- Both sides are created in one namespace of one cluster, and the client's side overwrites the configuration
of the server's side of the tunnel. -/
theorem createClient_insideShop_overwrites : insideShop.Accepted ∧
    insideShop.clientNamespace = insideShop.serverNamespace ∧
    outcome (createServer default) (insideShop, {}) = (.ok (), (served.1, served.2)) ∧
    outcome createClient (served.1, served.2) = (.ok (), (connected.1, connected.2)) ∧
    ∃ key, Logs {} served.2 key ∧ connected.2.objects.get? key ≠ served.2.objects.get? key := by
  have hplace : insideShop.clientNamespace = insideShop.serverNamespace := by decide +kernel
  exact ⟨.of_checks (by decide +kernel) (by decide +kernel) rfl, hplace, createServer_insideShop,
    createClient_insideShop, _, (createServer_logs createServer_insideShop).2 _ List.mem_cons_self,
    get?_tunnel_ne rfl hplace createServer_insideShop createClient_insideShop⟩

end Transfer

end VolumeMigration
