import VolumeMigration.Proofs.Mounts
import VolumeMigration.Proofs.Names
/-!
# Devices go to their own destinations

Each pair has a command on both sides, which know each other by the identity of
the pair. The server's proxy lists the identities in the order of the ports that
the commands listen on, so with different identities it leads each to its own
command (`Transfer.Blockrsync.devicesPaired`).
-/

namespace VolumeMigration

open Text (ShellWord)

/-- The path is that of a claim: its device, or the disk image in its directory. -/
def Payload.Reaches (p : Payload) (c : Claim) (path : String) : Prop :=
  if c.isBlock then p.devicePaths c.name = [path]
  else ∃ directory, p.mountPaths c.name = [directory] ∧ path = directory ++ "/" ++ Transfer.Blockrsync.diskImage

/-- The commands of both sides and the arguments of the server's proxy go together, one command of
each side for each pair. The port of a server's command is the one that the proxy leads the
identity of the pair to, wherever that stands among the proxy's arguments. -/
structure DevicesPaired (pairs : List Pair) (program : String) (client server : Payload) (proxy : List String) :
    Prop where
  clientCount : (client.invocations program).length = pairs.length
  serverCount : (server.invocations program).length = pairs.length
  copies : ∀ (i : Nat) (p : Pair), pairs[i]? = some p → ∃ source target sending receiving port,
    (client.invocations program)[i]? = some (program :: source :: sending) ∧
    (server.invocations program)[i]? = some (program :: target :: receiving) ∧
    client.Reaches p.source source ∧ server.Reaches p.destination target ∧
    flagValues "--identifier" sending = [p.identity] ∧ flagValues "--identifier" receiving = [p.identity] ∧
    flagValues "--target-port" proxy = [Nat.repr port] ∧ (flagValues "--identifier" proxy)[i]? = some p.identity ∧
    ∀ n, (flagValues "--identifier" proxy)[n]? = some p.identity → flagValues "--port" receiving = [Nat.repr (port + n)]

namespace Transfer.Blockrsync

variable {t : Transfer} {options : BlockrsyncOptions} {side : Side} {i : Nat} {c : Claim}

/-! ## Devices in a pod -/

/-- The volume that a device is in. -/
def Device.volume : Device → String
  | raw volume _ => volume
  | image volume _ => volume

theorem volume_ofClaim (i : Nat) (c : Claim) : (Device.ofClaim i c).volume = volumeName i := by
  unfold Device.ofClaim
  split <;> rfl

theorem pairwise_devices (t : Transfer) (side : Side) : (devices t side).Pairwise fun a b => a.volume ≠ b.volume := by
  refine pairwise_mapIdx fun i j a b hij _ _ he => ?_
  rw [volume_ofClaim, volume_ofClaim] at he
  exact absurd (volumeName_injective he) (Nat.ne_of_lt hij)

theorem pairwise_mounts (t : Transfer) (side : Side) :
    ((devices t side).filterMap Device.mount?).Pairwise fun a b => a.name ≠ b.name := by
  refine (pairwise_devices t side).filterMap _ fun a b hab m hm m' hm' => ?_
  cases a <;> cases b <;> cases hm <;> cases hm'
  exact hab

theorem pairwise_volumeDevices (t : Transfer) (side : Side) :
    ((devices t side).filterMap Device.volumeDevice?).Pairwise fun a b => a.name ≠ b.name := by
  refine (pairwise_devices t side).filterMap _ fun a b hab m hm m' hm' => ?_
  cases a <;> cases b <;> cases hm <;> cases hm'
  exact hab

theorem mem_devices (h : (t.claims side)[i]? = some c) : Device.ofClaim i c ∈ devices t side :=
  mem_mapIdx_of_getElem? h

theorem volumeDevices_payload (t : Transfer) (side : Side) (script : String) :
    (payload t side script).volumeDevices.getD [] = (devices t side).filterMap Device.volumeDevice? := by
  unfold payload
  cases (devices t side).filterMap Device.volumeDevice? <;> rfl

/-- The container of a side reaches each claim of the side at the path of its device. -/
theorem reaches_payload {script : String} {ks : List Container} {restart : Option String}
    (hsidecars : ∀ v ∈ t.sidecarVolumes side, v.claim = none) (hc : (t.claims side)[i]? = some c) :
    (Payload.mk (t.podSpec side (payload t side script :: ks) (t.claimVolumes side ++ [Control.volume]) restart)
      (payload t side script)).Reaches c (Device.ofClaim i c).path := by
  have hothers : ∀ v ∈ [Control.volume] ++ t.sidecarVolumes side, v.claim = none := by
    intro v hv
    rcases List.mem_append.1 hv with hv | hv
    · rw [List.mem_singleton.1 hv]
      rfl
    · exact hsidecars v hv
  have hvolume : (Payload.mk (t.podSpec side (payload t side script :: ks) (t.claimVolumes side ++ [Control.volume])
      restart) (payload t side script)).volumesOf c.name = [volumeName i] :=
    Payload.volumesOf_of_mem (congrArg some (List.append_assoc ..)) hothers (t.nodup_claims side) hc
  have hdevice := mem_devices hc
  unfold Payload.Reaches
  by_cases hblock : c.isBlock = true
  · rw [if_pos hblock]
    rw [Device.ofClaim, if_pos hblock] at hdevice ⊢
    have hmine := filter_eq_singleton (pairwise_volumeDevices t side) (List.mem_filterMap.2 ⟨_, hdevice, rfl⟩)
    refine Payload.devicePaths_of_filter (d := { name := volumeName i, devicePath := s!"/dev/block-{i}" }) hvolume ?_
    rw [volumeDevices_payload]
    exact hmine
  · rw [if_neg hblock]
    rw [Device.ofClaim, if_neg hblock] at hdevice ⊢
    have hmine := filter_eq_singleton (pairwise_mounts t side) (List.mem_filterMap.2 ⟨_, hdevice, rfl⟩)
    refine ⟨_, Payload.mountPaths_of_filter (m := { name := volumeName i, mountPath := s!"{mountRoot}/{i}" }) hvolume ?_
      rfl, rfl⟩
    have hothers : ∀ m ∈ [Control.mount Control.file], IsOther m.name := isOther_of_all rfl
    refine Eq.trans ?_ hmine
    exact filter_volumeName [] _ _ (by simp) hothers

/-! ## Scripts -/

/-- The words of the command that receives a device, without the sign that leaves it running. -/
def receiveWords (options : BlockrsyncOptions) (i : Nat) (device : Device) (identity : String) : List String :=
  [binary, device.path, "--target", "--identifier", identity, "--port", Nat.repr (basePort + i), "--block-size",
    Nat.repr options.blockSize]

def sendWords (options : BlockrsyncOptions) (device : Device) (identity : String) : List String :=
  [binary, device.path, "--source", "--target-address", "localhost", "--port", Nat.repr proxyPort, "--identifier",
    identity, "--block-size", Nat.repr options.blockSize]

/-- The devices of a side with the identities of their pairs. -/
def identified (t : Transfer) (side : Side) : List (Device × String) := (devices t side).zip (identities t)

theorem legible_repr (n : Nat) : (ShellWord.bare (Nat.repr n)).Legible := by
  refine ⟨fun he => ?_, fun c hc => ?_⟩
  · have h := Text.digits?_repr n
    rw [he] at h
    cases h
  · have hdigit := Text.isDigit_of_mem_repr hc
    simp [Shell.Reader.isLiteral, Char.isAlphanum, hdigit]

theorem legible_md5Hex (s : String) : (ShellWord.bare (Text.md5Hex s)).Legible := by
  refine ⟨fun he => ?_, fun c hc => ?_⟩
  · have h := Text.length_md5Hex s
    rw [he] at h
    cases h
  · have hname := Text.isAlphanum_of_isHexDigit (Text.isHexDigit_of_mem_md5Hex hc)
    simp [Shell.Reader.isLiteral, hname]

theorem legible_of_mem_identities {id : String} (h : id ∈ identities t) : (ShellWord.bare id).Legible := by
  obtain ⟨p, -, rfl⟩ := List.mem_map.1 h
  exact legible_md5Hex _

theorem legible_sendCommand (options : BlockrsyncOptions) (device : Device) {identity : String}
    (hid : (ShellWord.bare identity).Legible) : ∀ w ∈ sendCommand options device identity, w.Legible := by
  intro w hw
  simp only [sendCommand, List.mem_cons, List.not_mem_nil, or_false] at hw
  rcases hw with rfl | rfl | rfl | rfl | rfl | rfl | rfl | rfl | rfl | rfl | rfl
  case inr.inl => exact True.intro
  all_goals first | exact hid | exact legible_repr _ | exact ⟨by decide, List.all_eq_true.1 rfl⟩

theorem invocations_clientScript (t : Transfer) (options : BlockrsyncOptions) :
    Shell.invocations binary (clientScript t options) =
      (identified t .client).map fun p => sendWords options p.1 p.2 := by
  have hlegible : ∀ ws ∈ (identified t .client).map fun p => sendCommand options p.1 p.2,
      ws.head? = some (.bare binary) ∧ ∀ w ∈ ws, w.Legible := by
    intro ws hws
    obtain ⟨p, hp, rfl⟩ := List.mem_map.1 hws
    exact ⟨rfl, legible_sendCommand options p.1 (legible_of_mem_identities (List.of_mem_zip hp).2)⟩
  unfold clientScript
  rw [show (devices t .client).zip (identities t) = identified t .client from rfl,
    Shell.invocations_copyScript hlegible rfl, List.map_map]
  rfl

/-- What stands before the processes in the server's script, and what stands after them. -/
def opening : String := Control.trap ++ "pids=\"\"\n"

def closing : String := "status=0\nfor pid in $pids; do wait $pid || status=1; done\nexit $status\n"

/-- The commands that the opening and the closing are read as. -/
def openingCommands : List (List String) := [["trap", "touch " ++ Control.file, "EXIT"], ["pids="]]

def closingCommands : List (List String) :=
  [["status=0"], ["for", "pid", "in", "$pids"], ["do", "wait", "$pid"], ["status=1"], ["done"], ["exit", "$status"]]

/-- The line that keeps the number of a process. -/
def keepLine : String := "pids=\"$pids $!\"\n"

/-- What a process and the line after it are read as. -/
theorem run_process (options : BlockrsyncOptions) (i : Nat) (device : Device) {identity : String}
    (hid : (ShellWord.bare identity).Legible) (cmds : List (List String)) :
    (Shell.Reader.after cmds).run (commandLine (receiveCommand options i device identity) ++ keepLine).toList =
      Shell.Reader.after (cmds ++ [receiveWords options i device identity, ["pids=$pids $!"]]) := by
  have hwords : ∀ w ∈ (receiveCommand options i device identity).dropLast, w.Legible := by
    intro w hw
    simp only [receiveCommand, List.dropLast_cons_cons, List.dropLast_singleton, List.mem_cons, List.not_mem_nil,
      or_false] at hw
    rcases hw with rfl | rfl | rfl | rfl | rfl | rfl | rfl | rfl | rfl
    case inr.inl => exact True.intro
    all_goals first | exact hid | exact legible_repr _ | exact ⟨by decide, List.all_eq_true.1 rfl⟩
  have hprocess := Shell.Reader.run_background (by simp [receiveCommand]) hwords cmds
  have hkeep : Shell.Reader.run {} keepLine.toList = Shell.Reader.after [["pids=$pids $!"]] := rfl
  rw [String.toList_append, Shell.Reader.run_append]
  refine (congrArg (Shell.Reader.run · keepLine.toList) hprocess).trans ?_
  rw [Shell.Reader.run_after hkeep, List.append_assoc]
  rfl

theorem commands_serverScript (t : Transfer) (options : BlockrsyncOptions) :
    Shell.commands (serverScript t options) = openingCommands ++ ((identified t .server).zipIdx.flatMap fun x =>
      [receiveWords options x.2 x.1.1 x.1.2, ["pids=$pids $!"]]) ++ closingCommands := by
  have hscript : serverScript t options = opening ++ String.join ((identified t .server).zipIdx.map fun x =>
      commandLine (receiveCommand options x.2 x.1.1 x.1.2) ++ keepLine) ++ closing := by
    rw [serverScript, List.mapIdx_eq_zipIdx_map]
    rfl
  have hopening : Shell.Reader.run {} opening.toList = Shell.Reader.after openingCommands := rfl
  have hclosing : Shell.Reader.run {} closing.toList = Shell.Reader.after closingCommands := rfl
  have hprocesses := Shell.Reader.run_join (identified t .server).zipIdx _ _ fun x hx =>
    run_process options x.2 x.1.1 (legible_of_mem_identities (List.of_mem_zip (List.fst_mem_of_mem_zipIdx hx)).2)
  rw [Shell.commands, hscript, String.toList_append, String.toList_append, Shell.Reader.run_append,
    Shell.Reader.run_append, hopening, hprocesses, Shell.Reader.run_after hclosing]
  rfl

theorem invocations_serverScript (t : Transfer) (options : BlockrsyncOptions) :
    Shell.invocations binary (serverScript t options) =
      (identified t .server).mapIdx fun i p => receiveWords options i p.1 p.2 := by
  have hopening : openingCommands.filter (fun words => words.head? == some binary) = [] := rfl
  have hclosing : closingCommands.filter (fun words => words.head? == some binary) = [] := rfl
  have hprocess : ∀ x : (Device × String) × Nat,
      [receiveWords options x.2 x.1.1 x.1.2, ["pids=$pids $!"]].filter (fun words => words.head? == some binary) =
        [receiveWords options x.2 x.1.1 x.1.2] := fun _ => rfl
  rw [Shell.invocations, commands_serverScript, List.filter_append, List.filter_append, hopening, hclosing,
    List.filter_flatMap, List.nil_append, List.append_nil, List.mapIdx_eq_zipIdx_map, List.map_eq_flatMap]
  exact congrArg (List.flatMap · _) (funext hprocess)

/-! ## Arguments -/

/-- What has no dash in it is no flag. -/
theorem ne_flag {s flag : String} (hs : '-' ∉ s.toList) (hflag : flag.toList.head? = some '-') : s ≠ flag := by
  rintro rfl
  exact hs (List.mem_of_mem_head? hflag)

theorem dash_not_mem_repr (n : Nat) : '-' ∉ (Nat.repr n).toList := by
  intro h
  cases Text.isDigit_of_mem_repr h

theorem dash_not_mem_identity {id : String} (h : id ∈ identities t) : '-' ∉ id.toList := by
  obtain ⟨p, -, rfl⟩ := List.mem_map.1 h
  intro hdash
  cases Text.isHexDigit_of_mem_md5Hex hdash

/-- Arguments that give each identity after the flag for it. -/
def identifierArguments (ids : List String) : List String := ids.flatMap fun id => ["--identifier", id]

theorem flagValues_identifier (ids rest : List String) :
    flagValues "--identifier" (identifierArguments ids ++ rest) = ids ++ flagValues "--identifier" rest := by
  induction ids with
  | nil => rfl
  | cons id ids ih =>
    show flagValues "--identifier" ("--identifier" :: id :: (identifierArguments ids ++ rest)) = _
    rw [flagValues_cons_cons, ih, List.cons_append]

/-- The arguments give nothing to another flag. -/
theorem flagValues_skip {flag : String} {ids : List String} (rest : List String) (hflag : "--identifier" ≠ flag)
    (hids : ∀ id ∈ ids, id ≠ flag) : flagValues flag (identifierArguments ids ++ rest) = flagValues flag rest := by
  induction ids with
  | nil => rfl
  | cons id ids ih =>
    show flagValues flag ("--identifier" :: id :: (identifierArguments ids ++ rest)) = _
    rw [flagValues_cons_of_ne hflag, flagValues_cons_of_ne (hids id List.mem_cons_self),
      ih fun x hx => hids x (List.mem_cons_of_mem id hx)]

/-- The arguments of the server's proxy, with those that every proxy has. -/
def serverProxyOptions (t : Transfer) : List String := serverProxyArguments t ++ ["--control-file", Control.file]

theorem flagValues_serverProxy (t : Transfer) :
    flagValues "--identifier" (serverProxyOptions t) = identities t ∧
      flagValues "--target-port" (serverProxyOptions t) = [Nat.repr basePort] := by
  have hlisten : ∀ flag : String, flag.toList.head? = some '-' → Nat.repr (t.listenPort proxyPort) ≠ flag :=
    fun flag => ne_flag (dash_not_mem_repr _)
  have hoptions : serverProxyOptions t = "--target" :: "--listen-port" :: Nat.repr (t.listenPort proxyPort) ::
      "--target-address" :: "localhost" :: "--target-port" :: Nat.repr basePort ::
        (identifierArguments (identities t) ++ ["--control-file", Control.file]) :=
    List.append_assoc ..
  rw [hoptions]
  constructor
  · rw [flagValues_cons_of_ne (by decide), flagValues_cons_of_ne (by decide),
      flagValues_cons_of_ne (hlisten _ (by decide)), flagValues_cons_of_ne (by decide),
      flagValues_cons_of_ne (by decide), flagValues_cons_of_ne (by decide), flagValues_cons_of_ne (by decide),
      flagValues_identifier]
    exact List.append_nil _
  · rw [flagValues_cons_of_ne (by decide), flagValues_cons_of_ne (by decide),
      flagValues_cons_of_ne (hlisten _ (by decide)), flagValues_cons_of_ne (by decide),
      flagValues_cons_of_ne (by decide), flagValues_cons_cons,
      flagValues_skip _ (by decide) fun id hid => ne_flag (dash_not_mem_identity hid) (by decide)]
    rfl

theorem flagValues_send (options : BlockrsyncOptions) (device : Device) (id : String) :
    flagValues "--identifier" ((sendWords options device id).drop 2) = [id] := by
  rfl

theorem flagValues_receive (options : BlockrsyncOptions) (i : Nat) (device : Device) {id : String}
    (hid : '-' ∉ id.toList) :
    flagValues "--identifier" ((receiveWords options i device id).drop 2) = [id] ∧
      flagValues "--port" ((receiveWords options i device id).drop 2) = [Nat.repr (basePort + i)] := by
  have hport : Nat.repr (basePort + i) ≠ "--identifier" := ne_flag (dash_not_mem_repr _) (by decide)
  show flagValues "--identifier" ["--target", "--identifier", id, "--port", Nat.repr (basePort + i), "--block-size",
      Nat.repr options.blockSize] = _ ∧
    flagValues "--port" ["--target", "--identifier", id, "--port", Nat.repr (basePort + i), "--block-size",
      Nat.repr options.blockSize] = _
  constructor
  · rw [flagValues_cons_of_ne (by decide), flagValues_cons_cons, flagValues_cons_of_ne (by decide),
      flagValues_cons_of_ne hport]
    rfl
  · rw [flagValues_cons_of_ne (by decide), flagValues_cons_of_ne (by decide),
      flagValues_cons_of_ne (ne_flag hid (by decide)), flagValues_cons_cons]
    rfl

/-! ## Pairs -/

/-- The device and the identity of a pair stand at its place. -/
theorem getElem?_identified {p : Pair} (hc : (t.claims side)[i]? = some c) (hp : t.pairs.pairs[i]? = some p) :
    (identified t side)[i]? = some (Device.ofClaim i c, p.identity) := by
  refine List.getElem?_zip_eq_some.2 ⟨?_, ?_⟩
  · rw [devices, List.getElem?_mapIdx, hc]
    rfl
  · rw [identities, List.getElem?_map, hp]
    rfl

theorem length_identified (t : Transfer) (side : Side) : (identified t side).length = t.pairs.pairs.length := by
  cases side <;>
    simp [identified, devices, identities, claims, PairList.destinations, PairList.sources]

/-- What both sides of a transfer run goes together, the client's side maybe made from another
transfer of the same pairs. -/
theorem devicesPaired {t u : Transfer} (issued : TlsMaterial) (options options' : BlockrsyncOptions) (target : Address)
    (hpairs : u.pairs = t.pairs) (hdistinct : (identities t).Nodup) :
    ∃ client server proxy arguments, (Blockrsync.client u.asClient options' target).payload? = some client ∧
      (Blockrsync.server (t.asServer issued) options).payload? = some server ∧ proxy ∈ server.pod.containers ∧
      proxy.command = some (proxyBinary :: arguments) ∧ DevicesPaired t.pairs.pairs binary client server arguments := by
  refine ⟨_, _, _, serverProxyOptions (t.asServer issued), rfl, rfl, List.mem_cons_of_mem _ List.mem_cons_self, rfl, ?_⟩
  have hclient := invocations_clientScript u.asClient options'
  have hserver := invocations_serverScript (t.asServer issued) options
  obtain ⟨hidentifiers, hbase⟩ := flagValues_serverProxy (t.asServer issued)
  constructor
  case clientCount =>
    refine (congrArg List.length hclient).trans ?_
    rw [List.length_map, length_identified]
    exact congrArg (·.pairs.length) hpairs
  case serverCount =>
    refine (congrArg List.length hserver).trans ?_
    rw [List.length_mapIdx, length_identified]
    rfl
  case copies =>
    intro i p hp
    have hpu : u.pairs.pairs[i]? = some p := hpairs ▸ hp
    have hsource : (u.asClient.claims .client)[i]? = some p.source := by
      show (u.pairs.pairs.map (·.source))[i]? = _
      rw [List.getElem?_map, hpu]
      rfl
    have hdestination : ((t.asServer issued).claims .server)[i]? = some p.destination := by
      show (t.pairs.pairs.map (·.destination))[i]? = _
      rw [List.getElem?_map, hp]
      rfl
    have hid : p.identity ∈ identities t := List.mem_map_of_mem (List.mem_of_getElem? hp)
    have hplace : (identities t)[i]? = some p.identity := by
      rw [identities, List.getElem?_map, hp]
      rfl
    obtain ⟨hidentifier, hport⟩ :=
      flagValues_receive options i (Device.ofClaim i p.destination) (dash_not_mem_identity hid)
    refine ⟨(Device.ofClaim i p.source).path, (Device.ofClaim i p.destination).path,
      (sendWords options' (Device.ofClaim i p.source) p.identity).drop 2,
      (receiveWords options i (Device.ofClaim i p.destination) p.identity).drop 2, basePort, ?_, ?_,
      reaches_payload claim_sidecarVolumes_client hsource, reaches_payload claim_sidecarVolumes_server hdestination,
      flagValues_send _ _ _, hidentifier, hbase, ?_, fun n hn => ?_⟩
    · refine (congrArg (·[i]?) hclient).trans ?_
      rw [List.getElem?_map, getElem?_identified hsource hpu]
      rfl
    · refine (congrArg (·[i]?) hserver).trans ?_
      rw [List.getElem?_mapIdx, getElem?_identified hdestination hp]
      rfl
    · rw [hidentifiers]
      exact hplace
    -- The identity stands once in the list, so its place there is the pair's own.
    · rw [hidentifiers] at hn
      have hlt : i < (identities t).length := (List.getElem?_eq_some_iff.1 hplace).1
      rw [← (List.getElem?_inj hlt hdistinct).1 (hplace.trans hn.symm)]
      exact hport

end Transfer.Blockrsync

end VolumeMigration
