import VolumeMigration.Proofs.ConfigFiles
import VolumeMigration.Proofs.PairedDevices
import VolumeMigration.Proofs.PairedTrees
import VolumeMigration.Proofs.RsyncFlags
/-!
# Where servers listen and clients connect

The port of a server is in the arguments of its program, the address that a
client connects to in its scripts, its configuration and the arguments of its
proxy. They are read off what the pods run: a server listens on the exposed port
or on its own one behind a tunnel (`Transfer.listensOn_server`), and everything
in a client's pod leads to the one address that it was given
(`Transfer.ClientHeld.dials`).
-/

namespace VolumeMigration

open Text (ShellWord)

/-! ## The way to a server -/

/-- The ports of a service. -/
def Object.servicePorts (o : Object) : List ServicePort :=
  match o.content with
  | .service spec _ => (spec.bind (·.ports)).getD []
  | _ => []

/-- The service behind a path of an ingress, and the number of its port. -/
def IngressBackend.target? (b : IngressBackend) : Option (String × Int) := do
  let s ← b.service
  let n ← ((s.port.bind (·.get? "number")).bind Json.int?)
  return (s.name, n)

/-- The services that a route or an ingress leads to, and the numbers of their ports. -/
def Object.backends (o : Object) : List (Option (String × Int)) :=
  match o.content with
  | .route spec _ =>
    match spec.port with
    | some (.number n) => [some (spec.target.name, n)]
    | _ => [none]
  | .ingress spec _ =>
    (((spec.bind (·.rules)).getD []).flatMap fun r => r.paths.getD []).map fun p => p.backend.target?
  | _ => []

namespace Endpoint

/-- The service of the endpoint has one port, which leads to the given port of the pods, and what
stands in front of the service leads to that port of it. -/
def LeadsTo (e : Endpoint) (c : Cluster) (port : Nat) : Prop :=
  ∃ service p, c.objects.get? ⟨.service, e.name.ns, e.name.name⟩ = some service ∧ service.servicePorts = [p] ∧
    p.targetPort = some (.number port) ∧
    ∀ k ∈ e.kinds, k ≠ .service → ∃ router, c.objects.get? ⟨k, e.name.ns, e.name.name⟩ = some router ∧
      router.backends = [some (e.name.name, p.port)]

/-- The one port of the service of an endpoint. -/
def servicePort : ServicePort where
  port := exposedPort
  name := some servicePortName
  protocol := some "TCP"
  targetPort := some (.number exposedPort)

theorem Held.leadsTo {e : Endpoint} {c : Cluster} (h : e.Held c) : e.LeadsTo c exposedPort := by
  obtain ⟨⟨service, hservice, hsalike⟩, hrouters⟩ := h
  refine ⟨service, servicePort, hservice, ?_, rfl, ?_⟩
  · rw [Object.servicePorts, hsalike.content_eq]
    rfl
  cases hentry : e.entry with
  | route termination subdomain hostname =>
    rw [hentry] at hrouters
    obtain ⟨host, route, hroute, halike⟩ := hrouters
    simp only [kinds, type, hentry, List.forall_mem_cons, ne_eq, not_true, false_implies, true_and]
    refine ⟨fun _ => ⟨route, hroute, ?_⟩, by simp⟩
    rw [Object.backends, halike.content_eq]
    rfl
  | ingress className hostname =>
    rw [hentry] at hrouters
    obtain ⟨ingress, hingress, halike⟩ := hrouters
    simp only [kinds, type, hentry, List.forall_mem_cons, ne_eq, not_true, false_implies, true_and]
    refine ⟨fun _ => ⟨ingress, hingress, ?_⟩, by simp⟩
    rw [Object.backends, halike.content_eq]
    rfl
  | clusterIP | nodePort _ _ | loadBalancer _ => simp [kinds, type, hentry]

end Endpoint

/-! ## Servers -/

/-- The containers of the pod that run a program of their own, without a shell. -/
def Payload.running (p : Payload) (program : String) : List Container :=
  p.pod.containers.filter fun k => (k.command.bind (·.head?)) == some program

/-- What the server's pod runs takes the connections of clients on a port. -/
def Method.ListensOn (m : Method) (server : Payload) (port : Nat) : Prop :=
  match m with
  | .rsync _ => ∃ options, server.container.command = some (Transfer.Rsync.binary :: "--daemon" :: options) ∧
      options.filterMap (RsyncOptions.flagValue? "--port=") = [Nat.repr port]
  | .rclone => ∃ root options,
      server.container.command = some (Transfer.Rclone.binary :: "serve" :: "webdav" :: root :: options) ∧
      flagValues "--addr" options = [":" ++ Nat.repr port]
  | .blockrsync _ => ∃ proxy options, server.running Transfer.Blockrsync.proxyBinary = [proxy] ∧
      proxy.command = some (Transfer.Blockrsync.proxyBinary :: "--target" :: options) ∧
      flagValues "--listen-port" options = [Nat.repr port]

namespace Transfer

variable {t : Transfer} {issued : TlsMaterial}

theorem isDirect_asServer (t : Transfer) (issued : TlsMaterial) :
    (t.asServer issued).transport.isDirect = t.transport.isDirect := by
  unfold asServer
  cases t.transport <;> rfl

theorem listenPort_asServer (t : Transfer) (issued : TlsMaterial) (port : Nat) :
    (t.asServer issued).listenPort port = t.listenPort port := by
  unfold listenPort
  rw [isDirect_asServer]

theorem flagValues_listenPort (t : Transfer) :
    flagValues "--listen-port" ((Blockrsync.serverProxyOptions t).drop 1) =
      [Nat.repr (t.listenPort Blockrsync.proxyPort)] := by
  have hoptions : (Blockrsync.serverProxyOptions t).drop 1 = "--listen-port" ::
      Nat.repr (t.listenPort Blockrsync.proxyPort) :: "--target-address" :: "localhost" :: "--target-port" ::
        Nat.repr Blockrsync.basePort ::
          (Blockrsync.identifierArguments (Blockrsync.identities t) ++ ["--control-file", Control.file]) :=
    congrArg (List.drop 1) (List.append_assoc ..)
  rw [hoptions, flagValues_cons_cons, flagValues_cons_of_ne (by decide), flagValues_cons_of_ne (by decide),
    flagValues_cons_of_ne (by decide), flagValues_cons_of_ne (by decide),
    Blockrsync.flagValues_skip _ (by decide) fun id hid =>
      Blockrsync.ne_flag (Blockrsync.dash_not_mem_identity hid) (by decide)]
  rfl

/-- No side-car runs a program that is not its own. -/
theorem command_sidecar_server (t : Transfer) (issued : TlsMaterial) :
    ∀ k ∈ (t.asServer issued).sidecars .server, (k.command.bind (·.head?)) ≠ some Blockrsync.proxyBinary := by
  cases h : t.transport with
  | stunnel tunnel =>
    simp only [sidecars, asServer, h, Transport.asServer, Transport.serverContainers, Stunnel.asServer,
      List.mem_singleton, forall_eq, Stunnel.container]
    cases t.serverControlFile? <;> simp +decide [Stunnel.command]
  | direct port => simp [sidecars, asServer, h, Transport.asServer, Transport.serverContainers]

theorem command_sidecar_client (t : Transfer) :
    ∀ k ∈ t.asClient.sidecars .client, (k.command.bind (·.head?)) ≠ some Blockrsync.proxyBinary := by
  cases h : t.transport with
  | stunnel tunnel => simp +decide [sidecars, asClient, h, Transport.asClient, Transport.clientContainers,
      Stunnel.asClient, Stunnel.container, Stunnel.command]
  | direct port => simp [sidecars, asClient, h, Transport.asClient, Transport.clientContainers]

/-- The one proxy of a pod that runs a script over devices. -/
theorem running_proxy {side : Side} (script : String) (arguments : List String) {volumes : List Volume}
    {restart : Option String} {k : Container}
    (hsidecars : ∀ k ∈ t.sidecars side, (k.command.bind (·.head?)) ≠ some Blockrsync.proxyBinary) :
    (Payload.mk
      (t.podSpec side [Blockrsync.payload t side script, Blockrsync.proxy t arguments] volumes restart) k).running
      Blockrsync.proxyBinary = [Blockrsync.proxy t arguments] := by
  have hnone : (t.sidecars side).filter (fun k => (k.command.bind (·.head?)) == some Blockrsync.proxyBinary) = [] :=
    List.filter_eq_nil_iff.2 fun k hk => by simpa using hsidecars k hk
  have hmine : [Blockrsync.payload t side script, Blockrsync.proxy t arguments].filter
      (fun k => (k.command.bind (·.head?)) == some Blockrsync.proxyBinary) = [Blockrsync.proxy t arguments] := rfl
  show ([Blockrsync.payload t side script, Blockrsync.proxy t arguments] ++ t.sidecars side).filter _ = _
  rw [List.filter_append, hmine, hnone, List.append_nil]

/-- The server listens on the exposed port, or on its own one behind a tunnel. -/
theorem listensOn_server (t : Transfer) (issued : TlsMaterial) :
    ∃ server, (t.asServer issued).server.payload? = some server ∧
      t.method.ListensOn server (t.listenPort t.backendPort) := by
  unfold backendPort
  cases hm : t.method with
  | rsync options =>
    rw [server_eq_rsync (t := t.asServer issued) hm]
    have hport : ["--no-detach", "--port=" ++ Nat.repr (t.listenPort Rsync.port),
        "--config=" ++ Rsync.configDir ++ "/" ++ Rsync.configKey].filterMap (RsyncOptions.flagValue? "--port=") =
        [Nat.repr (t.listenPort Rsync.port)] := by
      simp only [List.filterMap_cons, RsyncOptions.flagValue?_append]
      rfl
    refine ⟨_, rfl, _, rfl, ?_⟩
    rw [listenPort_asServer]
    exact hport
  | rclone =>
    rw [server_eq_rclone (t := t.asServer issued) hm]
    refine ⟨_, rfl, _, _, rfl, ?_⟩
    rw [listenPort_asServer]
    rfl
  | blockrsync options =>
    rw [server_eq_blockrsync (t := t.asServer issued) hm]
    refine ⟨_, rfl, Blockrsync.proxy (t.asServer issued) (Blockrsync.serverProxyArguments (t.asServer issued)),
      (Blockrsync.serverProxyOptions (t.asServer issued)).drop 1, ?_, rfl, ?_⟩
    · exact running_proxy _ _ (command_sidecar_server t issued)
    · rw [← listenPort_asServer t issued]
      exact flagValues_listenPort (t.asServer issued)

end Transfer

/-! ## What containers know -/

/-- The container finds what a Secret holds under a key in a file. -/
def Payload.Finds (p : Payload) (path secret key : String) : Prop :=
  ∃ m ∈ p.container.volumeMounts.getD [], ∃ v ∈ p.pod.volumes.getD [], v.name = m.name ∧ m.subPath = none ∧
    ∃ s, v.secret = some s ∧ s.secretName = some secret ∧ match s.items with
      | none => path = m.mountPath ++ "/" ++ key
      | some items => ∃ i ∈ items, i.key = key ∧ path = m.mountPath ++ "/" ++ i.path

/-- The value of a container's environment variable that comes from a Secret. -/
def Cluster.env? (c : Cluster) (ns : String) (p : Payload) (name : String) : Option (List UInt8) := do
  let v ← (p.container.env.getD []).find? (·.name == name)
  let s ← v.secretKey
  c.secretBytes? ⟨ns, s.name⟩ s.key

namespace Transfer

/-- The server lets in one user. -/
def Admits (t : Transfer) (c : Cluster) (server : Payload) (user : Credentials) : Prop :=
  match t.method with
  -- The file of users that the daemon is configured with.
  | .rsync _ => ∃ file users,
      c.configText? (Rsync.configName t) Rsync.configKey = some file ∧
      ConfigFile.Says file Rsync.moduleName (Rsync.configTexts t)
        [("auth users", [user.username]), ("secrets file", [users])] ∧
      server.Finds users (Rsync.secretName t).name Rsync.credentialsKey ∧
      c.secretBytes? (Rsync.secretName t) Rsync.credentialsKey =
        some (Text.utf8Bytes (user.username ++ ":" ++ user.password))
  -- The variables that the arguments name.
  | .rclone => ∃ root options name password,
      server.container.command = some (Rclone.binary :: "serve" :: "webdav" :: root :: options) ∧
      flagValues "--user" options = ["$(" ++ name ++ ")"] ∧ flagValues "--pass" options = ["$(" ++ password ++ ")"] ∧
      c.env? t.serverNamespace server name = some (Text.utf8Bytes user.username) ∧
      c.env? t.serverNamespace server password = some (Text.utf8Bytes user.password)
  | .blockrsync _ => True

/-- Every command and every file of the client leads to one address, as one user. -/
def Dials (t : Transfer) (c : Cluster) (client : Payload) (target : Address) (user : Credentials) : Prop :=
  match t.method with
  -- Each command names the address and the user, and takes the password from a variable.
  | .rsync _ =>
      c.env? t.clientNamespace client Rsync.passwordVariable = some (Text.utf8Bytes user.password) ∧
      (client.invocations Rsync.binary).length = t.pairs.pairs.length ∧
      ∀ words ∈ client.invocations Rsync.binary, ∃ path,
        words.getLast? = some ("rsync://" ++ user.username ++ "@" ++ target.display ++ "/" ++ path)
  -- Each command reads the configuration, which names the address, the user and the password.
  | .rclone => ∃ file path,
      client.Finds path (Rclone.clientConfigName t).name Rclone.configKey ∧
      c.secretBytes? (Rclone.clientConfigName t) Rclone.configKey = some (Text.utf8Bytes file) ∧
      ConfigFile.Says file Rclone.remote (Rclone.configTexts t target)
        [("url",
          [(if t.transport.isDirect && t.endpoint.terminatesTls then "https" else "http") ++ "://" ++
            user.username ++ ":" ++ user.password ++ "@" ++ target.display ++ "/"])] ∧
      (client.invocations Rclone.binary).length = t.pairs.pairs.length ∧
      ∀ words ∈ client.invocations Rclone.binary, words.take 4 = [Rclone.binary, "sync", "--config", path] ∧
        ∃ destination, words.getLast? = some (Rclone.remote ++ ":" ++ destination)
  -- Each command goes to the proxy in its own pod, which goes to the address.
  | .blockrsync _ => ∃ port proxy,
      (client.invocations Blockrsync.binary).length = t.pairs.pairs.length ∧
      (∀ words ∈ client.invocations Blockrsync.binary,
        flagValues "--target-address" (words.drop 2) = ["localhost"] ∧
        flagValues "--port" (words.drop 2) = [Nat.repr port]) ∧
      client.running Blockrsync.proxyBinary = [proxy] ∧
      proxy.command = some [Blockrsync.proxyBinary, "--source", "--listen-port", Nat.repr port, "--target-address",
        target.hostname, "--target-port", Nat.repr target.port, "--control-file", Control.file]

variable {t u : Transfer} {issued : TlsMaterial} {target : Address} {c d : Cluster}

/-- The server lets in the user of the transfer. -/
theorem ServerHeld.admits (h : t.ServerHeld issued d) :
    ∃ server, (t.asServer issued).server.payload? = some server ∧ t.Admits d server t.credentials := by
  unfold Admits
  cases hm : t.method with
  | rsync options =>
    rw [server_eq_rsync (t := t.asServer issued) hm]
    refine ⟨_, rfl, _, _, h.configText?_rsync hm, (Rsync.config_says t).subset (List.subset_cons_self ..), ?_,
      h.secretBytes?_rsync hm⟩
    refine ⟨{ name := Rsync.secretVolume, mountPath := Rsync.secretDir }, List.mem_cons_of_mem _ List.mem_cons_self,
      Rsync.usersVolume t, ?_, rfl, rfl, _, rfl, rfl, _, List.mem_cons_self, rfl, rfl⟩
    refine List.mem_append_left _ (List.mem_append_right _ ?_)
    exact List.mem_cons_of_mem _ List.mem_cons_self
  | rclone =>
    obtain ⟨huser, hpassword⟩ := h.secretBytes?_rclone hm
    rw [server_eq_rclone (t := t.asServer issued) hm]
    exact ⟨_, rfl, _, _, Rclone.userVariable, Rclone.passwordVariable, rfl, rfl, rfl, huser, hpassword⟩
  | blockrsync options =>
    rw [server_eq_blockrsync (t := t.asServer issued) hm]
    exact ⟨_, rfl, True.intro⟩

/-- A client's command goes to the proxy in its own pod. -/
theorem flagValues_sendWords (options : BlockrsyncOptions) (device : Blockrsync.Device) {id : String}
    (hid : '-' ∉ id.toList) :
    flagValues "--target-address" ((Blockrsync.sendWords options device id).drop 2) = ["localhost"] ∧
      flagValues "--port" ((Blockrsync.sendWords options device id).drop 2) = [Nat.repr Blockrsync.proxyPort] := by
  have hne : ∀ flag : String, flag.toList.head? = some '-' → id ≠ flag := fun flag => Blockrsync.ne_flag hid
  show flagValues "--target-address" ("--source" :: "--target-address" :: "localhost" :: "--port" ::
      Nat.repr Blockrsync.proxyPort :: "--identifier" :: id :: ["--block-size", Nat.repr options.blockSize]) = _ ∧
    flagValues "--port" ("--source" :: "--target-address" :: "localhost" :: "--port" ::
      Nat.repr Blockrsync.proxyPort :: "--identifier" :: id :: ["--block-size", Nat.repr options.blockSize]) = _
  constructor
  · rw [flagValues_cons_of_ne (by decide), flagValues_cons_cons, flagValues_cons_of_ne (by decide),
      flagValues_cons_of_ne (by decide), flagValues_cons_of_ne (by decide), flagValues_cons_of_ne (hne _ (by decide)),
      flagValues_cons_of_ne (by decide)]
    rfl
  · rw [flagValues_cons_of_ne (by decide), flagValues_cons_of_ne (by decide), flagValues_cons_of_ne (by decide),
      flagValues_cons_cons, flagValues_cons_of_ne (by decide), flagValues_cons_of_ne (hne _ (by decide)),
      flagValues_cons_of_ne (by decide)]
    rfl

/-- The client dials the address that it was given, as the user of the transfer. -/
theorem ClientHeld.dials (h : t.ClientHeld target c) :
    ∃ client, (t.asClient.client target).payload? = some client ∧ t.Dials c client target t.credentials := by
  unfold Dials
  cases hm : t.method with
  | rsync options =>
    have hcommands := Rsync.invocations_clientScript t.asClient options target
    rw [client_eq_rsync (t := t.asClient) hm]
    refine ⟨_, rfl, h.secretBytes?_rsync hm, (congrArg List.length hcommands).trans (List.length_map _),
      fun words hwords => ?_⟩
    obtain ⟨p, -, rfl⟩ := List.mem_map.1 (Eq.mp (congrArg (words ∈ ·) hcommands) hwords)
    refine ⟨Rsync.moduleName ++ ("/" ++ p.destination.name ++ "/"), ?_⟩
    rw [List.getLast?_append]
    exact congrArg some (String.append_assoc ..)
  | rclone =>
    have hcommands := Rclone.invocations_clientScript t.asClient
    rw [client_eq_rclone (t := t.asClient) hm]
    refine ⟨_, rfl, _, Rclone.configDir ++ "/" ++ Rclone.configKey, ?_, h.secretBytes?_rclone hm,
      (Rclone.config_says t target).subset ?_, (congrArg List.length hcommands).trans (List.length_map _),
      fun words hwords => ?_⟩
    · refine ⟨{ name := Rclone.configVolume, mountPath := Rclone.configDir, readOnly := some true },
        List.mem_append_right _ List.mem_cons_self,
        Manifest.secretVolume Rclone.configVolume (Rclone.clientConfigName t).name, ?_, rfl, rfl, _, rfl, rfl, rfl⟩
      exact List.mem_append_left _ (List.mem_append_right _ List.mem_cons_self)
    · intro s hs
      rw [List.mem_singleton.1 hs]
      exact List.mem_cons_of_mem _ List.mem_cons_self
    · obtain ⟨p, -, rfl⟩ := List.mem_map.1 (Eq.mp (congrArg (words ∈ ·) hcommands) hwords)
      exact ⟨rfl, _, rfl⟩
  | blockrsync options =>
    have hcommands := Blockrsync.invocations_clientScript t.asClient options
    rw [client_eq_blockrsync (t := t.asClient) hm]
    refine ⟨_, rfl, Blockrsync.proxyPort, Blockrsync.proxy t.asClient (Blockrsync.clientProxyArguments target),
      (congrArg List.length hcommands).trans ?_, fun words hwords => ?_, running_proxy _ _ (command_sidecar_client t),
        rfl⟩
    · rw [List.length_map, Blockrsync.length_identified]
      rfl
    · obtain ⟨x, hx, rfl⟩ := List.mem_map.1 (Eq.mp (congrArg (words ∈ ·) hcommands) hwords)
      exact flagValues_sendWords options x.1 (Blockrsync.dash_not_mem_identity (List.of_mem_zip hx).2)

end Transfer

end VolumeMigration
