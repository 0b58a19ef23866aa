import VolumeMigration.Proofs.Connections
import VolumeMigration.Proofs.CreatedObjects
import VolumeMigration.Proofs.InvalidInput
import VolumeMigration.Proofs.PairRules
/-!
# The ports of a pod that receives devices

Everything in the server pod of a transfer of devices listens on the same host:
a process for each pair on a port of its own, the proxy in front of them, and the
tunnel if there is one. The ports of the processes go up from the first one, the
others are fixed, so they are apart as long as the processes end below the proxy
(`Transfer.createServer_ports_apart_iff`).
-/

namespace VolumeMigration

open Attempt

/-- The configurations of the tunnels that a pod finds among its volumes. -/
def Cluster.tunnelConfigs (c : Cluster) (ns : String) (p : Payload) : List String :=
  (p.pod.volumes.getD []).filterMap fun v => v.configMap.bind fun m => c.configText? ⟨ns, m.name⟩ Stunnel.configKey

/-- The ports that what a pod runs listens on: the processes that receive devices, the proxies and the tunnels. -/
def Cluster.listenPorts (c : Cluster) (ns : String) (p : Payload) : List String :=
  (p.invocations Transfer.Blockrsync.binary).flatMap (fun words => flagValues "--port" (words.drop 2)) ++
  (p.running Transfer.Blockrsync.proxyBinary).flatMap
    (fun k => flagValues "--listen-port" ((k.command.getD []).drop 2)) ++
  (c.tunnelConfigs ns p).flatMap fun file => ConfigFile.values Stunnel.service "accept" (ConfigFile.linesOf file)

/-! ## Tunnels that are created -/

theorem StunnelOptions.not_hasBreak_caVerifyLevel {o : StunnelOptions} (h : o.validate = .ok ()) :
    ¬ConfigFile.HasBreak o.caVerifyLevel := by
  have hlevel : o.caVerifyLevel ∈ ["0", "1", "2", "3", "4"] := by
    apply Classical.byContradiction
    intro hother
    have hfault : Fault.verifyLevel o.caVerifyLevel ∈ o.faults := by simp_all [faults]
    rw [faults_eq_nil_of_validate h] at hfault
    cases hfault
  have hall : ∀ level ∈ ["0", "1", "2", "3", "4"], ¬ConfigFile.HasBreak level := by decide
  exact hall _ hlevel

namespace Transfer

variable {t t' : Transfer} {issued : TlsMaterial} {c d : Cluster}

/-- No server was created whose tunnel is turned down. -/
theorem serverObjects_ok (hrun : outcome (createServer issued) (t, c) = (.ok (), (t', d))) :
    ∃ files, t.transport.serverObjects issued t.id t.endpoint t.backendPort = .ok files := by
  have hcluster := cluster_createServer t issued c
  rw [hrun] at hcluster
  cases hfiles : t.transport.serverObjects issued t.id t.endpoint t.backendPort with
  | ok files => exact ⟨files, rfl⟩
  | error f =>
    obtain ⟨made, -, -, hfails⟩ := Parts.made_of_turned_down (p := t.serverParts issued) t.nodup_serverFiles hfiles c
    rw [← hcluster] at hfails
    exact absurd rfl hfails

theorem validate_of_createServer_ok {tunnel : Stunnel} (h : t.transport = .stunnel tunnel)
    (hrun : outcome (createServer issued) (t, c) = (.ok (), (t', d))) : tunnel.options.validate = .ok () := by
  obtain ⟨files, hfiles⟩ := serverObjects_ok hrun
  rw [h, Transport.serverObjects] at hfiles
  cases hvalid : tunnel.options.validate with
  | ok _ => rfl
  | error f =>
    rw [hvalid] at hfiles
    cases hfiles

namespace Blockrsync

/-! ## What listens in the server pod -/

/-- The ports of the server's processes in the order of their pairs. -/
def processPorts (t : Transfer) : List Nat := (List.range t.pairs.length).map (basePort + ·)

/-- The port that the tunnel takes, if there is one. -/
def tunnelPorts (t : Transfer) : List Nat := if t.transport.isDirect then [] else [Endpoint.exposedPort]

/-- The last port that there is. -/
def maxPort : Nat := 65535

/-- The ports of the server's processes, of its proxy and of its tunnel. -/
def serverPorts (t : Transfer) : List Nat := processPorts t ++ [t.listenPort proxyPort] ++ tunnelPorts t

theorem flagValues_serverScript (t : Transfer) (options : BlockrsyncOptions) :
    (Shell.invocations binary (serverScript t options)).flatMap (fun words => flagValues "--port" (words.drop 2)) =
      (processPorts t).map Nat.repr := by
  have hprocess : ∀ x ∈ (identified t .server).zipIdx,
      flagValues "--port" ((receiveWords options x.2 x.1.1 x.1.2).drop 2) = [Nat.repr (basePort + x.2)] := fun x hx =>
    (flagValues_receive options x.2 x.1.1
      (dash_not_mem_identity (List.of_mem_zip (List.fst_mem_of_mem_zipIdx hx)).2)).2
  have hplaces : (identified t .server).zipIdx.map Prod.snd = List.range t.pairs.length := by
    rw [List.zipIdx_map_snd, length_identified, List.range_eq_range']
    rfl
  calc (Shell.invocations binary (serverScript t options)).flatMap (fun words => flagValues "--port" (words.drop 2))
      = ((identified t .server).zipIdx.map fun x =>
          flagValues "--port" ((receiveWords options x.2 x.1.1 x.1.2).drop 2)).flatten := by
        rw [invocations_serverScript, List.mapIdx_eq_zipIdx_map, List.flatMap_map, List.flatMap_def]
    _ = ((identified t .server).zipIdx.map fun x => [Nat.repr (basePort + x.2)]).flatten := by
        rw [List.map_congr_left hprocess]
    _ = ((identified t .server).zipIdx.map Prod.snd).map fun i => Nat.repr (basePort + i) := by
        rw [← List.flatMap_def, ← List.map_eq_flatMap, List.map_map]
        rfl
    _ = (processPorts t).map Nat.repr := by
        rw [hplaces, processPorts, List.map_map]
        rfl

theorem flagValues_running {options : BlockrsyncOptions} {server : Payload} {port : Nat}
    (h : (Method.blockrsync options).ListensOn server port) :
    (server.running proxyBinary).flatMap (fun k => flagValues "--listen-port" ((k.command.getD []).drop 2)) =
      [Nat.repr port] := by
  obtain ⟨proxy, arguments, hrunning, hcommand, hport⟩ := h
  rw [hrunning, List.flatMap_singleton, hcommand]
  exact hport

theorem configMap_claimVolumes {side : Side} : ∀ v ∈ t.claimVolumes side ++ [Control.volume], v.configMap = none := by
  intro v hv
  rcases List.mem_append.1 hv with hv | hv
  · obtain ⟨i, hi, rfl⟩ := List.mem_mapIdx.1 hv
    rfl
  · rw [List.mem_singleton.1 hv]
    rfl

/-- The only file of a tunnel in the server pod is the one that was written for it. -/
theorem tunnelConfigs_server {server : Payload} (hheld : t.ServerHeld issued d)
    (hvolumes : server.pod.volumes =
      some ((t.claimVolumes .server ++ [Control.volume]) ++ (t.asServer issued).sidecarVolumes .server)) :
    d.tunnelConfigs t.serverNamespace server = match t.transport with
      | .direct _ => []
      | .stunnel tunnel => [Stunnel.serverConfig tunnel.options t.backendPort] := by
  have hown : (t.claimVolumes .server ++ [Control.volume]).filterMap (fun v =>
      v.configMap.bind fun m => d.configText? ⟨t.serverNamespace, m.name⟩ Stunnel.configKey) = [] :=
    List.filterMap_eq_nil_iff.2 fun v hv => by rw [configMap_claimVolumes v hv, Option.bind_none]
  have hfiles := hheld.transport
  rw [Cluster.tunnelConfigs, hvolumes, Option.getD_some, List.filterMap_append, hown, List.nil_append]
  cases htransport : t.transport with
  | direct port =>
    have hnone : (t.asServer issued).sidecarVolumes .server = [] := by
      simp only [sidecarVolumes, asServer, htransport, Transport.asServer, Transport.serverVolumes]
    rw [hnone]
    rfl
  | stunnel tunnel =>
    have hmine : (t.asServer issued).sidecarVolumes .server = Stunnel.volumes t.id := by
      simp only [sidecarVolumes, asServer, htransport, Transport.asServer, Transport.serverVolumes, Stunnel.asServer]
    rw [htransport] at hfiles
    have htext : d.configText? ⟨t.serverNamespace, Stunnel.configMapName t.id⟩ Stunnel.configKey = _ :=
      configText?_tunnel hfiles
    rw [hmine, Stunnel.volumes, List.filterMap_cons, List.filterMap_cons, List.filterMap_nil]
    simp only [Manifest.configMapVolume, Manifest.secretVolume, Option.bind_some, Option.bind_none, htext]

/-- A tunnel whose options were checked takes the exposed port. -/
theorem values_accept {o : StunnelOptions} (h : o.validate = .ok ()) (port : Nat) :
    ConfigFile.values Stunnel.service "accept" (ConfigFile.linesOf (Stunnel.serverConfig o port)) =
      [Nat.repr Endpoint.exposedPort] := by
  obtain ⟨lines, -, hlines, hvalues⟩ := Stunnel.serverConfig_says o port
  rw [hlines fun s hs => List.mem_singleton.1 hs ▸ StunnelOptions.not_hasBreak_caVerifyLevel h]
  exact hvalues _ List.mem_cons_self

/-- What the tunnels of the server pod take. -/
theorem values_tunnelConfigs {server : Payload} (hheld : t.ServerHeld issued d)
    (hvalid : ∀ tunnel, t.transport = .stunnel tunnel → tunnel.options.validate = .ok ())
    (hvolumes : server.pod.volumes =
      some ((t.claimVolumes .server ++ [Control.volume]) ++ (t.asServer issued).sidecarVolumes .server)) :
    (d.tunnelConfigs t.serverNamespace server).flatMap (fun file =>
      ConfigFile.values Stunnel.service "accept" (ConfigFile.linesOf file)) = (tunnelPorts t).map Nat.repr := by
  rw [tunnelConfigs_server hheld hvolumes, tunnelPorts]
  cases htransport : t.transport with
  | direct port => rfl
  | stunnel tunnel =>
    simp only [List.flatMap_singleton]
    rw [values_accept (hvalid tunnel htransport)]
    rfl

/-- Everything that listens in the server pod. -/
theorem listenPorts_server {options : BlockrsyncOptions} (hmethod : t.method = .blockrsync options)
    (hrun : outcome (createServer issued) (t, c) = (.ok (), (t', d))) :
    ∃ server, d.payload? t.server.key = some server ∧
      d.listenPorts t.serverNamespace server = (serverPorts t).map Nat.repr := by
  obtain ⟨-, hheld⟩ := createServer_ok hrun
  obtain ⟨server, hserver, hlistens⟩ := listensOn_server t issued
  have hbackend : t.backendPort = proxyPort := by rw [backendPort, hmethod]
  rw [hmethod, hbackend] at hlistens
  have hpod : server.pod.volumes =
        some ((t.claimVolumes .server ++ [Control.volume]) ++ (t.asServer issued).sidecarVolumes .server) ∧
      server.invocations binary = Shell.invocations binary (serverScript (t.asServer issued) options) := by
    rw [server_eq_blockrsync (t := t.asServer issued) hmethod] at hserver
    cases hserver
    exact ⟨rfl, rfl⟩
  obtain ⟨hvolumes, hscript⟩ := hpod
  have htunnels := values_tunnelConfigs hheld (fun _ htransport => validate_of_createServer_ok htransport hrun) hvolumes
  refine ⟨server, hheld.payload?_eq.trans hserver, ?_⟩
  rw [Cluster.listenPorts, hscript, flagValues_serverScript, flagValues_running hlistens, htunnels, serverPorts,
    List.map_append, List.map_append]
  rfl

/-! ## Ports that are apart -/

theorem processPorts_eq (t : Transfer) : processPorts t = List.range' basePort t.pairs.length := by
  rw [processPorts, List.range_eq_range', List.map_add_range', Nat.add_zero]

theorem mem_processPorts {port : Nat} : port ∈ processPorts t ↔ basePort ≤ port ∧ port < basePort + t.pairs.length := by
  rw [processPorts_eq, List.mem_range'_1]

/-- The processes' ports are apart from each other, and from others that are not among them. -/
theorem nodup_processPorts_append {others : List Nat} : (processPorts t ++ others).Nodup ↔
    others.Nodup ∧ ∀ port ∈ others, port < basePort ∨ basePort + t.pairs.length ≤ port := by
  have hprocesses : (processPorts t).Nodup := by
    rw [processPorts_eq]
    exact List.nodup_range'
  rw [List.nodup_append, and_iff_right hprocesses]
  refine and_congr_right fun _ => ⟨fun h port hport => ?_, fun h a ha b hb hab => ?_⟩
  · have hout : ¬(basePort ≤ port ∧ port < basePort + t.pairs.length) := fun hin =>
      h port (mem_processPorts.2 hin) port hport rfl
    omega
  · obtain ⟨hlow, hhigh⟩ := mem_processPorts.1 ha
    have hout := h b hb
    omega

/-- From the first process on there are 222 ports below that of a proxy behind a tunnel, and 3443 below the
exposed one. -/
theorem nodup_serverPorts_iff (t : Transfer) :
    (serverPorts t).Nodup ↔ t.pairs.length ≤ if t.transport.isDirect then 3443 else 222 := by
  unfold serverPorts tunnelPorts listenPort
  rw [List.append_assoc, nodup_processPorts_append]
  cases t.transport.isDirect with
  | true =>
    simp only [if_pos, List.append_nil, List.forall_mem_singleton, Endpoint.exposedPort, basePort]
    exact ⟨fun ⟨_, h⟩ => by omega, fun h => ⟨by decide, by omega⟩⟩
  | false =>
    simp only [Bool.false_eq_true, if_false, List.forall_mem_append, List.forall_mem_singleton, Endpoint.exposedPort,
      proxyPort, basePort]
    exact ⟨fun ⟨_, h, _⟩ => by omega, fun h => ⟨by decide, by omega, by omega⟩⟩

/-- Ports are apart if they are written apart. -/
theorem nodup_map_repr {ports : List Nat} : (ports.map Nat.repr).Nodup ↔ ports.Nodup := by
  refine List.pairwise_map.trans ⟨fun h => ?_, fun h => ?_⟩
  · exact h.imp fun hne he => hne (congrArg Nat.repr he)
  · exact h.imp fun hne he => hne (Text.repr_injective he)

/-- Ports that are apart are far from the last one. -/
theorem le_maxPort_of_nodup (h : (serverPorts t).Nodup) : ∀ port ∈ serverPorts t, port ≤ maxPort := by
  have hlength := (nodup_serverPorts_iff t).1 h
  unfold serverPorts tunnelPorts listenPort
  simp only [List.forall_mem_append, List.forall_mem_singleton, mem_processPorts]
  refine ⟨⟨fun port hport => ?_, ?_⟩, ?_⟩
  · unfold basePort at hport
    unfold maxPort
    split at hlength <;> omega
  · split <;> decide
  · split <;> decide

end Blockrsync

/-- Everything that listens in the pod that receives devices is known: a process for each pair, the proxy, and the
tunnel if there is one. No two of them listen on one port, and every port exists, just if there are no more pairs than
ports from the first process to the proxy. -/
theorem createServer_ports_apart_iff (htype : t.type = .blockrsync)
    (hrun : outcome (createServer issued) (t, c) = (.ok (), (t', d))) :
    ∃ server, d.payload? t.server.key = some server ∧
      d.listenPorts t.serverNamespace server = (Blockrsync.serverPorts t).map Nat.repr ∧
      ((Blockrsync.serverPorts t).Nodup ∧ (∀ port ∈ Blockrsync.serverPorts t, port ≤ Blockrsync.maxPort) ↔
        t.pairs.length ≤ if t.transport.isDirect then 3443 else 222) := by
  obtain ⟨options, hmethod⟩ : ∃ options, t.method = .blockrsync options := by
    unfold type at htype
    cases hm : t.method with
    | blockrsync options => exact ⟨options, rfl⟩
    | _ =>
      rw [hm] at htype
      cases htype
  obtain ⟨server, hserver, hports⟩ := Blockrsync.listenPorts_server hmethod hrun
  refine ⟨server, hserver, hports, ?_⟩
  rw [and_iff_left_of_imp Blockrsync.le_maxPort_of_nodup]
  exact Blockrsync.nodup_serverPorts_iff t

/-- Both disks can be received behind a tunnel. -/
theorem createServer_ports_apart_iff_tunnelled : ∃ t' d server,
    outcome (createServer diskMaterial) (tunnelledDisks none, {}) = (.ok (), (t', d)) ∧
      d.payload? (tunnelledDisks none).server.key = some server ∧
      d.listenPorts (tunnelledDisks none).serverNamespace server = ["3000", "3001", "3222", "6443"] ∧
      (Blockrsync.serverPorts (tunnelledDisks none)).Nodup ∧
      ∀ port ∈ Blockrsync.serverPorts (tunnelledDisks none), port ≤ Blockrsync.maxPort := by
  have hrun : outcome (createServer diskMaterial) (tunnelledDisks none, {}) =
      (.ok (), (outcome (createServer diskMaterial) (tunnelledDisks none, {})).2) :=
    outcome_of_toOption (by decide +kernel)
  obtain ⟨server, hserver, hports, hapart⟩ := createServer_ports_apart_iff rfl hrun
  exact ⟨_, _, server, hrun, hserver, hports.trans (by decide +kernel), hapart.2 (by decide +kernel)⟩

/-! ## A shelf of disks -/

/-- The disk with a number. -/
def numberedDisk (ns : String) (i : Nat) : Claim := (Claim.named ⟨ns, "disk-" ++ Nat.repr i⟩).withMode Claim.blockMode

/-- The disk of the shop with a number, and the one of the depot that it goes to. -/
def numberedPair (i : Nat) : Pair := { source := numberedDisk "shop" i, destination := numberedDisk "depot" i }

theorem name_numberedDisk_ne (ns : String) (i : Nat) : (numberedDisk ns i).name ≠ "" := by
  intro h
  have hempty : "disk-" ++ Nat.repr i = "" := h
  simp at hempty

theorem nodup_numberedDisks (ns : String) (n : Nat) :
    ((List.range n).map fun i => (numberedDisk ns i).objectName).Nodup := by
  refine List.pairwise_map.2 (List.nodup_range.imp fun hne he => hne ?_)
  exact Text.repr_injective ((String.append_right_inj "disk-").1 (congrArg ObjectName.name he))

/-- Any number of disks can be sent together. -/
theorem numberedPairs_sound (n : Nat) : PairList.faults ((List.range (n + 1)).map numberedPair) = [] := by
  rw [PairList.faults_eq_nil_iff]
  intro rule
  cases rule with
  | somePair => simp [PairingRule.Holds]
  | oneSourceNamespace | oneDestinationNamespace =>
    simp only [PairingRule.Holds, List.forall_mem_map]
    exact fun _ _ _ _ => rfl
  | claimsNamed =>
    simp only [PairingRule.Holds, List.forall_mem_map]
    exact fun i _ => ⟨name_numberedDisk_ne "shop" i, name_numberedDisk_ne "depot" i⟩
  | claimsPlaced =>
    simp only [PairingRule.Holds, List.forall_mem_map]
    exact fun i _ => ⟨(by decide : "shop" ≠ ""), (by decide : "depot" ≠ "")⟩
  | sidesAgree =>
    simp only [PairingRule.Holds, List.forall_mem_map]
    exact fun _ _ => rfl
  | sourcesDiffer =>
    rw [PairingRule.Holds, List.map_map]
    exact nodup_numberedDisks "shop" (n + 1)
  | destinationsDiffer =>
    rw [PairingRule.Holds, List.map_map]
    exact nodup_numberedDisks "depot" (n + 1)
  | oneWay =>
    simp only [PairingRule.Holds, List.forall_mem_map]
    exact ⟨true, fun _ _ _ => rfl⟩

/-- One disk and a number of others that are sent through a tunnel. -/
def tunnelledShelf (n : Nat) : Transfer :=
  { tunnelledDisks (some diskMaterial) with
    pairs := { pairs := (List.range (n + 1)).map numberedPair, sound := numberedPairs_sound n } }

theorem createServer_tunnelledShelf (n : Nat) :
    ∃ t' d, outcome (createServer default) (tunnelledShelf n, {}) = (.ok (), (t', d)) := by
  have htunnel : ((tunnelledShelf n).serverParts default).tunnel = .ok _ := rfl
  refine (createServer_ok_iff htunnel ⟨rfl, rfl⟩ fun _ _ => rfl).2 fun hneeds => ?_
  obtain ⟨⟨_, _, hentry⟩, -⟩ := hneeds
  cases hentry

/-- One disk more than there is room for behind a tunnel: the last process shares the port of the proxy. -/
theorem createServer_tunnelledShelf_clash : (tunnelledShelf 222).Accepted ∧
    ∃ t' d server, outcome (createServer default) (tunnelledShelf 222, {}) = (.ok (), (t', d)) ∧
      d.payload? (tunnelledShelf 222).server.key = some server ∧
      ¬(d.listenPorts (tunnelledShelf 222).serverNamespace server).Nodup := by
  obtain ⟨t', d, hrun⟩ := createServer_tunnelledShelf 222
  obtain ⟨server, hserver, hports⟩ := Blockrsync.listenPorts_server rfl hrun
  refine ⟨.of_checks (by decide +kernel) (by decide +kernel) rfl, t', d, server, hrun, hserver, fun hnodup => ?_⟩
  rw [hports, Blockrsync.nodup_map_repr, Blockrsync.nodup_serverPorts_iff] at hnodup
  exact absurd hnodup (by decide +kernel)

end Transfer

end VolumeMigration
