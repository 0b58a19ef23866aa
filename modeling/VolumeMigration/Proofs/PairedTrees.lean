import VolumeMigration.Proofs.Mounts
import VolumeMigration.Proofs.Names
/-!
# Trees of files go to their own destinations

The commands of a client name directories by the claims, and the pods of both
sides mount the claims in directories of the same names. So the command for a
pair copies its source to its destination (`Transfer.treesPaired`), as the
scripts for rsync and rclone are read by a shell.
-/

namespace VolumeMigration

open Text (ShellWord)

/-- The commands of a client and the claims of both sides go together, one command for each pair:
it reads the directory of the source claim, and what it writes to, below the server's root, is the
directory of the destination claim. -/
structure TreesPaired (pairs : List Pair) (program start root : String) (client server : Payload) : Prop where
  count : (client.invocations program).length = pairs.length
  copies : ∀ (i : Nat) (p : Pair), pairs[i]? = some p → ∃ options source path read written,
    (client.invocations program)[i]? = some (program :: options ++ [source, start ++ path]) ∧
    client.mountPaths p.source.name = [read] ∧ Text.directory source = Text.directory read ∧
    server.mountPaths p.destination.name = [written] ∧ Text.directory (root ++ path) = Text.directory written
  sourcesApart : ((pairs.flatMap fun p => client.mountPaths p.source.name).map Text.directory).Nodup
  destinationsApart : ((pairs.flatMap fun p => server.mountPaths p.destination.name).map Text.directory).Nodup

namespace Transfer

/-! ## Where claims are mounted -/

variable {p : Payload} {claims : List Claim} {others : List Volume} {i : Nat} {c : Claim}

/-- Claims that are mounted as trees of files are each seen where their own mount says. -/
theorem mountPaths_of_trees (before after : List VolumeMount)
    (hvolumes : p.pod.volumes = some (claims.mapIdx (fun i c => Manifest.claimVolume (volumeName i) c.name) ++ others))
    (hothers : ∀ v ∈ others, v.claim = none) (hnodup : (claims.map (·.name)).Nodup)
    (hmounts : p.container.volumeMounts =
      some (before ++ claims.mapIdx (fun i c => { name := volumeName i, mountPath := mountPath c }) ++ after))
    (hbefore : ∀ m ∈ before, IsOther m.name) (hafter : ∀ m ∈ after, IsOther m.name) (hc : claims[i]? = some c) :
    p.mountPaths c.name = [mountPath c] := by
  have hkeys : (claims.mapIdx fun i c => ({ name := volumeName i, mountPath := mountPath c } : VolumeMount)).Pairwise
      fun a b => a.name ≠ b.name :=
    pairwise_mapIdx fun i j _ _ hij _ _ he => absurd (volumeName_injective he) (Nat.ne_of_lt hij)
  have hmine := filter_eq_singleton hkeys (mem_mapIdx_of_getElem? hc)
  refine Payload.mountPaths_of_filter (m := { name := volumeName i, mountPath := mountPath c })
    (Payload.volumesOf_of_mem hvolumes hothers hnodup hc) ?_ rfl
  rw [hmounts, Option.getD_some, filter_volumeName _ _ _ hbefore hafter]
  exact hmine

section Pods
variable {t : Transfer} {issued : TlsMaterial}

/-- The container that mounts the claims of its side sees each in the directory of its name. -/
theorem mountPaths_podSpec (side : Side) (before after : List VolumeMount) {k : Container} {ks : List Container}
    {volumes others : List Volume} {restart : Option String}
    (hmounts : k.volumeMounts = some (before ++ t.claimMounts side ++ after))
    (hbefore : before.all (fun m => m.name.toList.head? != some 'p') = true)
    (hafter : after.all (fun m => m.name.toList.head? != some 'p') = true)
    (hvolumes : volumes = t.claimVolumes side ++ others) (hothers : ∀ v ∈ others, v.claim = none)
    (hsidecars : ∀ v ∈ t.sidecarVolumes side, v.claim = none) :
    ∀ c ∈ t.claims side, (Payload.mk (t.podSpec side (k :: ks) volumes restart) k).mountPaths c.name =
      [mountPath c] := by
  intro c hc
  obtain ⟨i, hi⟩ := List.getElem?_of_mem hc
  have hnone : ∀ v ∈ others ++ t.sidecarVolumes side, v.claim = none := by
    intro v hv
    rcases List.mem_append.1 hv with hv | hv
    · exact hothers v hv
    · exact hsidecars v hv
  refine mountPaths_of_trees before after ?_ hnone (t.nodup_claims side) hmounts (isOther_of_all hbefore)
    (isOther_of_all hafter) hi
  rw [hvolumes]
  exact congrArg some (List.append_assoc ..)

end Pods

/-! ## Directories of claims -/

theorem isPlain_mountRoot : Text.IsPlain "mnt".toList := by
  refine ⟨?_, ?_, ?_, ?_⟩ <;> decide

/-- The directory of a claim, however the path to it ends. -/
theorem directory_mountPath {c : Claim} (h : Text.isObjectName c.name = true) :
    Text.directory (mountPath c) = ["mnt".toList, c.name.toList] ∧
      Text.directory (mountPath c ++ "/") = ["mnt".toList, c.name.toList] := by
  have hroot : mountRoot = "/" ++ "mnt" := by decide
  rw [mountPath, hroot]
  exact Text.directory_name isPlain_mountRoot (Text.isPlain_of_isObjectName h)

/-- Claims that are named differently are mounted in different directories. -/
theorem nodup_directories {p : Payload} (claims : List Claim) (hlegal : ∀ c ∈ claims, Text.isObjectName c.name = true)
    (hnodup : (claims.map (·.name)).Nodup) (hmounts : ∀ c ∈ claims, p.mountPaths c.name = [mountPath c]) :
    ((claims.flatMap fun c => p.mountPaths c.name).map Text.directory).Nodup := by
  have hpaths : (claims.flatMap fun c => p.mountPaths c.name) = claims.map mountPath := by
    rw [List.map_eq_flatMap, List.flatMap_def, List.flatMap_def, List.map_congr_left hmounts]
  rw [hpaths, List.map_map]
  refine List.pairwise_map.2 ((List.pairwise_map.1 hnodup).imp_of_mem fun ha hb hne he => hne ?_)
  rw [Function.comp_apply, Function.comp_apply, (directory_mountPath (hlegal _ ha)).1,
    (directory_mountPath (hlegal _ hb)).1] at he
  exact String.toList_inj.1 (by simpa using he)

/-- Commands that name the directories of claims by their names go together with pods that mount
every claim in the directory of its name. -/
theorem treesPaired {pairs : PairList} {program start : String} {options : List String} {client server : Payload}
    (hlegal : ∀ p ∈ pairs.pairs, Text.isObjectName p.source.name = true ∧ Text.isObjectName p.destination.name = true)
    (hcommands : client.invocations program = pairs.pairs.map fun p =>
      program :: options ++ [mountPath p.source ++ "/", start ++ ("/" ++ p.destination.name ++ "/")])
    (hclient : ∀ c ∈ pairs.sources, client.mountPaths c.name = [mountPath c])
    (hserver : ∀ c ∈ pairs.destinations, server.mountPaths c.name = [mountPath c]) :
    TreesPaired pairs.pairs program start mountRoot client server where
  count := by rw [hcommands, List.length_map]
  copies := by
    intro i p hp
    have hmem := List.mem_of_getElem? hp
    obtain ⟨hsource, hdestination⟩ := hlegal p hmem
    refine ⟨options, mountPath p.source ++ "/", "/" ++ p.destination.name ++ "/", _, _, ?_,
      hclient _ (List.mem_map_of_mem hmem), ?_, hserver _ (List.mem_map_of_mem hmem), ?_⟩
    · rw [hcommands, List.getElem?_map, hp]
      rfl
    · rw [(directory_mountPath hsource).1, (directory_mountPath hsource).2]
    · rw [(directory_mountPath hdestination).1, ← (directory_mountPath hdestination).2, mountPath]
      simp only [String.append_assoc]
  sourcesApart := by
    have hmap := nodup_directories (p := client) pairs.sources (fun c hc => ?_) pairs.nodup_sourceNames hclient
    · rwa [PairList.sources, List.flatMap_map] at hmap
    · obtain ⟨p, hp, rfl⟩ := List.mem_map.1 hc
      exact (hlegal p hp).1
  destinationsApart := by
    have hmap := nodup_directories (p := server) pairs.destinations (fun c hc => ?_)
      pairs.nodup_destinationNames hserver
    · rwa [PairList.destinations, List.flatMap_map] at hmap
    · obtain ⟨p, hp, rfl⟩ := List.mem_map.1 hc
      exact (hlegal p hp).2

namespace Rsync

theorem server_mountPaths (t : Transfer) (issued : TlsMaterial) : ∃ server,
    (Rsync.server (t.asServer issued)).payload? = some server ∧
    ∀ c ∈ t.pairs.destinations, server.mountPaths c.name = [mountPath c] := by
  refine ⟨_, rfl, mountPaths_podSpec (t := t.asServer issued) .server
    [{ name := configVolume, mountPath := configDir }, { name := secretVolume, mountPath := secretDir }] [] ?_ rfl rfl
    rfl ?_ claim_sidecarVolumes_server⟩
  · exact congrArg some (List.append_nil _).symm
  · simp [Manifest.configMapVolume, usersVolume]

theorem client_mountPaths (t : Transfer) (options : RsyncOptions) (target : Address) : ∃ client,
    (Rsync.client t.asClient options target).payload? = some client ∧
    client.script? = some (clientScript t options target) ∧
      ∀ c ∈ t.pairs.sources, client.mountPaths c.name = [mountPath c] := by
  refine ⟨_, rfl, rfl, mountPaths_podSpec (t := t.asClient) .client [] [Control.mount Control.file] rfl rfl rfl rfl ?_
    claim_sidecarVolumes_client⟩
  simp [Control.volume]

theorem legible_copyCommand (t : Transfer) (options : RsyncOptions) (target : Address) (p : Pair) :
    ∀ w ∈ copyCommand t options target p, w.Legible := by
  intro w hw
  simp only [copyCommand, List.cons_append, List.mem_cons, List.mem_append, List.mem_map, List.not_mem_nil,
    or_false] at hw
  rcases hw with rfl | ⟨s, -, rfl⟩ | rfl | rfl
  · exact ⟨by decide, List.all_eq_true.1 rfl⟩
  all_goals exact True.intro

theorem text_copyCommand (t : Transfer) (options : RsyncOptions) (target : Address) (p : Pair) :
    (copyCommand t options target p).map (·.text) = binary :: options.toFlags ++ [mountPath p.source ++ "/",
      "rsync://" ++ t.credentials.username ++ "@" ++ target.display ++ "/" ++ moduleName ++
        ("/" ++ p.destination.name ++ "/")] := by
  have hflags : options.toFlags.map ((·.text) ∘ ShellWord.quoted) = options.toFlags := List.map_id _
  have hurl : s!"rsync://{t.credentials.username}@{target.display}/{moduleName}/{p.destination.name}/" =
      "rsync://" ++ t.credentials.username ++ "@" ++ target.display ++ "/" ++ moduleName ++
        ("/" ++ p.destination.name ++ "/") := by
    simp only [String.append_assoc]
    rfl
  simp only [copyCommand, List.map_append, List.map_cons, List.map_map, List.map_nil, hflags, hurl]
  rfl

/-- The client's commands as the shell reads them. -/
theorem invocations_clientScript (t : Transfer) (options : RsyncOptions) (target : Address) :
    Shell.invocations binary (clientScript t options target) = t.pairs.pairs.map fun p =>
      binary :: options.toFlags ++ [mountPath p.source ++ "/",
        "rsync://" ++ t.credentials.username ++ "@" ++ target.display ++ "/" ++ moduleName ++
          ("/" ++ p.destination.name ++ "/")] := by
  have hlegible : ∀ ws ∈ t.pairs.pairs.map (copyCommand t options target),
      ws.head? = some (.bare binary) ∧ ∀ w ∈ ws, w.Legible := by
    intro ws hws
    obtain ⟨p, -, rfl⟩ := List.mem_map.1 hws
    exact ⟨rfl, legible_copyCommand t options target p⟩
  rw [clientScript, Shell.invocations_copyScript hlegible rfl, List.map_map]
  exact List.map_congr_left fun p _ => text_copyCommand t options target p

end Rsync

namespace Rclone

theorem server_mountPaths (t : Transfer) (issued : TlsMaterial) : ∃ server options,
    (Rclone.server (t.asServer issued)).payload? = some server ∧
    server.container.command = some (binary :: "serve" :: "webdav" :: mountRoot :: options) ∧
    ∀ c ∈ t.pairs.destinations, server.mountPaths c.name = [mountPath c] := by
  refine ⟨_, _, rfl, rfl, mountPaths_podSpec (t := t.asServer issued) .server [] [] ?_ rfl rfl
    (List.append_nil _).symm (by simp) claim_sidecarVolumes_server⟩
  exact congrArg some (List.append_nil _).symm

theorem client_mountPaths (t : Transfer) : ∃ client, (Rclone.client t.asClient).payload? = some client ∧
    client.script? = some (clientScript t) ∧ ∀ c ∈ t.pairs.sources, client.mountPaths c.name = [mountPath c] := by
  refine ⟨_, rfl, rfl, mountPaths_podSpec (t := t.asClient) .client []
    [{ name := configVolume, mountPath := configDir, readOnly := some true }, Control.mount Control.file]
    rfl rfl rfl rfl ?_ claim_sidecarVolumes_client⟩
  simp [Control.volume, Manifest.secretVolume]

theorem legible_copyCommand (p : Pair) : ∀ w ∈ copyCommand p, w.Legible := by
  intro w hw
  simp only [copyCommand, List.mem_cons, List.not_mem_nil, or_false] at hw
  rcases hw with rfl | rfl | rfl | rfl | rfl | rfl
  iterate 4 exact ⟨by decide, List.all_eq_true.1 rfl⟩
  all_goals exact True.intro

theorem text_copyCommand (p : Pair) :
    (copyCommand p).map (·.text) = binary :: ["sync", "--config", configDir ++ "/" ++ configKey] ++
      [mountPath p.source ++ "/", remote ++ ":" ++ ("/" ++ p.destination.name ++ "/")] := by
  have hplace : s!"{remote}:/{p.destination.name}/" = remote ++ ":" ++ ("/" ++ p.destination.name ++ "/") := by
    simp only [String.append_assoc]
    rfl
  simp only [copyCommand, List.map_cons, List.map_nil, hplace]
  rfl

theorem invocations_clientScript (t : Transfer) :
    Shell.invocations binary (clientScript t) = t.pairs.pairs.map fun p =>
      binary :: ["sync", "--config", configDir ++ "/" ++ configKey] ++
        [mountPath p.source ++ "/", remote ++ ":" ++ ("/" ++ p.destination.name ++ "/")] := by
  have hlegible : ∀ ws ∈ t.pairs.pairs.map copyCommand, ws.head? = some (.bare binary) ∧ ∀ w ∈ ws, w.Legible := by
    intro ws hws
    obtain ⟨p, -, rfl⟩ := List.mem_map.1 hws
    exact ⟨rfl, legible_copyCommand p⟩
  rw [clientScript, Shell.invocations_copyScript hlegible rfl, List.map_map]
  exact List.map_congr_left fun p _ => text_copyCommand p

end Rclone

end Transfer

end VolumeMigration
