import VolumeMigration.Proofs.ConfigFiles
import VolumeMigration.Proofs.PairedDevices
import VolumeMigration.Proofs.PairedTrees
/-!
# Every volume goes to its own destination

The sides of a transfer are put together apart from each other: lists of
volumes, mounts, scripts, arguments of proxies, a daemon's configuration. They
agree pair by pair (`Transfer.createServer_createClient_paired`): what the
client's command for a pair reads is the source claim, and where it writes is the
destination claim of the same pair.
-/

namespace VolumeMigration

open Attempt

namespace Transfer

/-- The volumes of a transfer whose sides were created in two clusters go together. -/
def VolumesPaired (t u : Transfer) (target : Address) (source destination : Cluster) : Prop :=
  ∃ client server, source.payload? (u.client target).key = some client ∧
    destination.payload? t.server.key = some server ∧
    match t.method with
    -- Below the directory that the daemon's module is configured with.
    | .rsync _ => ∃ file moduleName root,
        destination.configText? (Rsync.configName t) Rsync.configKey = some file ∧
        ConfigFile.Says file moduleName (Rsync.configTexts t) [("path", [root])] ∧
        TreesPaired t.pairs.pairs Rsync.binary
          ("rsync://" ++ u.credentials.username ++ "@" ++ target.display ++ "/" ++ moduleName) root client server
    -- Below the directory that is served under the remote of the client's configuration.
    | .rclone => ∃ file remote root options,
        source.secretBytes? (Rclone.clientConfigName u) Rclone.configKey = some (Text.utf8Bytes file) ∧
        ConfigFile.Says file remote (Rclone.configTexts u target) [("type", ["webdav"])] ∧
        server.container.command = some (Rclone.binary :: "serve" :: "webdav" :: root :: options) ∧
        TreesPaired t.pairs.pairs Rclone.binary (remote ++ ":") root client server
    -- By way of the server's proxy.
    | .blockrsync _ => ∃ proxy options, proxy ∈ server.pod.containers ∧
        proxy.command = some (Blockrsync.proxyBinary :: options) ∧
        DevicesPaired t.pairs.pairs Blockrsync.binary client server options

variable {t u : Transfer} {issued : TlsMaterial} {target : Address} {c d : Cluster}

/-! ## Pairs -/

/-- Whatever is copied, and over whatever endpoint and transport: once both sides of a transfer were
created, the client copies each source claim to its own destination claim. -/
theorem createServer_createClient_paired {t' u' : Transfer} {c₀ d₀ : Cluster}
    (hlegal : ∀ p ∈ t.pairs.pairs, Text.isObjectName p.source.name = true ∧ Text.isObjectName p.destination.name = true)
    (hdistinct : t.type = .blockrsync → (t.pairs.pairs.map (·.identity)).Nodup)
    (hserver : outcome (createServer issued) (t, d₀) = (.ok (), (t', d)))
    (hmethod : u.method = t.method) (hpairs : u.pairs = t.pairs)
    (hclient : outcome createClient (u, c₀) = (.ok (), (u', c))) :
    ∃ target, u.target = .ok target ∧ VolumesPaired t u target c d := by
  obtain ⟨-, hheld⟩ := createServer_ok hserver
  obtain ⟨target, htarget, -, hheld'⟩ := createClient_ok hclient
  refine ⟨target, htarget, ?_⟩
  unfold VolumesPaired
  rw [hheld.payload?_eq, hheld'.payload?_eq]
  cases hm : t.method with
  | rsync options =>
    have hu : u.method = .rsync options := hmethod.trans hm
    obtain ⟨server, hserver, hdestinations⟩ := Rsync.server_mountPaths t issued
    obtain ⟨client, hclient, hscript, hsources⟩ := Rsync.client_mountPaths u options target
    have hcommands := Rsync.invocations_clientScript u options target
    rw [hpairs] at hsources hcommands
    rw [server_eq_rsync (t := t.asServer issued) hm, client_eq_rsync (t := u.asClient) hu, hserver, hclient]
    refine ⟨client, server, rfl, rfl, _, Rsync.moduleName, mountRoot, hheld.configText?_rsync hm,
      (Rsync.config_says t).subset (by simp), treesPaired hlegal (Eq.trans ?_ hcommands) hsources hdestinations⟩
    rw [Payload.invocations, hscript]
    rfl
  | rclone =>
    have hu : u.method = .rclone := hmethod.trans hm
    obtain ⟨server, arguments, hserver, hserves, hdestinations⟩ := Rclone.server_mountPaths t issued
    obtain ⟨client, hclient, hscript, hsources⟩ := Rclone.client_mountPaths u
    have hcommands := Rclone.invocations_clientScript u
    rw [hpairs] at hsources hcommands
    rw [server_eq_rclone (t := t.asServer issued) hm, client_eq_rclone (t := u.asClient) hu, hserver, hclient]
    refine ⟨client, server, rfl, rfl, _, Rclone.remote, mountRoot, arguments, hheld'.secretBytes?_rclone hu,
      (Rclone.config_says u target).subset (by simp), hserves,
      treesPaired hlegal (Eq.trans ?_ hcommands) hsources hdestinations⟩
    rw [Payload.invocations, hscript]
    rfl
  | blockrsync options =>
    have hu : u.method = .blockrsync options := hmethod.trans hm
    have hnodup : (Blockrsync.identities t).Nodup := hdistinct (by rw [type, hm]; rfl)
    obtain ⟨client, server, proxy, arguments, hclient, hserver, hproxy, hcommand, hpaired⟩ :=
      Blockrsync.devicesPaired issued options options target hpairs hnodup
    rw [server_eq_blockrsync (t := t.asServer issued) hm, client_eq_blockrsync (t := u.asClient) hu, hserver, hclient]
    exact ⟨client, server, rfl, rfl, proxy, arguments, hproxy, hcommand, hpaired⟩

/-- The disk of a virtual machine and a raw device, which go to devices of other names. -/
def diskPairs : List Pair :=
  [Pair.ofClaims ((Claim.named ⟨"shop", "root-disk"⟩).annotate Claim.contentTypeKey Claim.vmDiskContent)
      (some ((Claim.named ⟨"depot", "root-copy"⟩).withMode Claim.blockMode)),
    Pair.ofClaims ((Claim.named ⟨"shop", "data-disk"⟩).withMode Claim.blockMode)
      (some ((Claim.named ⟨"depot", "data-copy"⟩).withMode Claim.blockMode))]

/-- Two disks that are sent to a service within the cluster. -/
def disks : Transfer where
  method := .blockrsync {}
  pairs := { pairs := diskPairs, sound := by decide +kernel }
  endpoint := .ofClusterIP ⟨"depot", "inbox"⟩ .empty
  transport := .direct none
  credentials := .ofPassword "secret"
  workload := {}

theorem createServer_createClient_paired_disks : ∃ target, disks.target = .ok target ∧
    VolumesPaired disks disks target (outcome createClient (disks, {})).2.2
      (outcome (createServer default) (disks, {})).2.2 :=
  createServer_createClient_paired (by decide +kernel) (fun _ => by decide +kernel)
    (outcome_of_toOption (a := createServer default) (s := (disks, {})) (by decide +kernel)) rfl rfl
    (outcome_of_toOption (a := createClient) (s := (disks, {})) (by decide +kernel))

end Transfer

end VolumeMigration
