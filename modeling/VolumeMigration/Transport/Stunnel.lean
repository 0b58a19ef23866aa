import VolumeMigration.Cluster.Store
import VolumeMigration.ConfigFile
import VolumeMigration.Endpoint.Basic
import VolumeMigration.Manifest
import VolumeMigration.Side
import VolumeMigration.Transport.Control
import VolumeMigration.Transport.Tls
/-!
# TLS tunnels

A tunnel has a side-car on both sides. The server's takes the traffic of the
endpoint and passes it to the payload; the client's takes the traffic of the
payload and passes it to the endpoint, maybe through a proxy. Each side has its
configuration in a ConfigMap and the TLS material in a Secret, which are created
or updated together.
-/

namespace VolumeMigration

structure StunnelOptions where
  /-- The image of the side-cars. -/
  image : String := "ghcr.io/ferry-dev/stunnel:latest"
  /-- How far the other side is checked, if it is. -/
  caVerifyLevel : String := "2"
  /-- Whether the other side is not checked. -/
  noVerifyCa : Bool := true
  /-- The proxy through which the client reaches the endpoint. -/
  proxyUrl : Option String := none
  proxyUsername : Option String := none
  proxyPassword : Option String := none
deriving DecidableEq, Repr

namespace StunnelOptions

/-- What is wrong with the options of a tunnel. -/
inductive Fault where
  | verifyLevel (level : String)
  | proxyUrl (url : String)
  | halfCredentials
  | credentialsWithoutProxy
deriving DecidableEq, Repr

def Fault.message : Fault → String
  | verifyLevel level => s!"stunnel verify level '{level}' must be 0 through 4"
  | proxyUrl url => s!"proxy url '{url}' must be host:port"
  | halfCredentials => "proxy username and password must be set together"
  | credentialsWithoutProxy => "proxy credentials given without a proxy url"

/-- A proxy's address as it is written in a URL, without schemes and final slashes. -/
def bareUrl (url : String) : List Char :=
  let host := Text.dropRepeated "https://".toList (Text.dropRepeated "http://".toList url.toList)
  (host.reverse.dropWhile (· == '/')).reverse

/-- The host and the port in the URL of a proxy. -/
def proxyHost? (url : String) : Option String :=
  match Text.cutLast? ':' (bareUrl url) with
  | none => none
  | some (host, port) =>
    if host.isEmpty then none
    else (Text.readUInt16? (String.ofList port)).map fun _ => String.ofList (bareUrl url)

/-- The host and the port of the proxy, if there is one. -/
def proxyHost (o : StunnelOptions) : Result (Option String) :=
  match o.proxyUrl with
  | none => .ok none
  | some url =>
    match proxyHost? url with
    | some host => .ok (some host)
    | none => .error (.validation [(Fault.proxyUrl url).message])

/-- Everything that is wrong with the options. -/
def faults (o : StunnelOptions) : List Fault :=
  (if ["0", "1", "2", "3", "4"].contains o.caVerifyLevel then [] else [.verifyLevel o.caVerifyLevel]) ++
  (match o.proxyUrl with
    | some url => if (proxyHost? url).isSome then [] else [.proxyUrl url]
    | none => []) ++
  (if o.proxyUsername.isSome != o.proxyPassword.isSome then [.halfCredentials] else []) ++
  (if o.proxyUsername.isSome && o.proxyUrl.isNone then [.credentialsWithoutProxy] else [])

/-- Passes if nothing is wrong with the options, and reports everything else. -/
def validate (o : StunnelOptions) : Result Unit :=
  Failure.checkValidation (o.faults.map (·.message))

end StunnelOptions

/-- A tunnel, with the side-cars and volumes of each side that was created. -/
structure Stunnel where
  options : StunnelOptions
  material : Option TlsMaterial := none
  serverContainers : List Container := []
  serverVolumes : List Volume := []
  clientContainers : List Container := []
  clientVolumes : List Volume := []
deriving BEq, Repr

namespace Stunnel

/-- The port that the client's side-car listens on. -/
def clientPort : Nat := 6443

def configPath : String := "/etc/stunnel/stunnel.conf"

/-- The directory of the TLS material. -/
def certsDir : String := "/etc/stunnel/certs"

def binary : String := "/bin/stunnel"

def configVolume : String := "stunnel-config"

def certsVolume : String := "stunnel-certs"

/-- The key of the ConfigMap that holds the configuration. -/
def configKey : String := "stunnel.conf"

/-- The names of one transfer's ConfigMap and Secret. -/
def configMapName (id : String) : String := "stunnel-config-" ++ id

def secretName (id : String) : String := "stunnel-creds-" ++ id

/-- The labels of the objects of one side. -/
def labels (id : String) (side : Side) : StringMap :=
  .ofList [(Label.transfer, id), (Label.component, s!"stunnel-{side}")]

/-- How a side checks the other one. -/
def verification (o : StunnelOptions) : ConfigFile.Bindings :=
  [("certs_dir", .str certsDir), ("verify", .bool (!o.noVerifyCa)), ("verify_level", .str o.caVerifyLevel)]

/-- The configuration of the server's side, which leads to a port of its own host. -/
def serverConfig (o : StunnelOptions) (backendPort : Nat) : String :=
  ConfigFile.render ConfigFile.stunnelServer
    ([("accept_port", .int Endpoint.exposedPort), ("connect_host", .str "localhost"),
      ("connect_port", .int backendPort)] ++ verification o)

/-- The configuration of the client's side, which leads to the endpoint. -/
def clientConfig (o : StunnelOptions) (e : Endpoint) : Result String := do
  let address ← Address.ofEndpoint e
  let proxy ← o.proxyHost
  return ConfigFile.render ConfigFile.stunnelClient
    ([("accept_port", .int clientPort), ("hostname", .str address.hostname), ("port", .int address.port),
      ("proxy_host", Json.ofOption .str proxy), ("proxy_username", Json.ofOption .str o.proxyUsername),
      ("proxy_password", Json.ofOption .str o.proxyPassword)] ++ verification o)

/-- The command of a side-car, which ends once the control file is there, if there is one. -/
def command (controlFile : Option String) : List String :=
  match controlFile with
  | some file =>
    ["/bin/bash", "-c", s!"{binary} {configPath} &\nwhile [ ! -f {file} ]; do sleep 1; done\nexit 0"]
  | none => [binary, configPath]

/-- The side-car that listens on a port. -/
def container (o : StunnelOptions) (port : Nat) (controlFile : Option String) : Container :=
  { name := "stunnel"
    image := some o.image
    command := some (command controlFile)
    ports := some [Manifest.tcpPort "stunnel" port]
    volumeMounts := some
      ([{ name := configVolume, mountPath := configPath, subPath := some configKey },
        { name := certsVolume, mountPath := certsDir, readOnly := some true }] ++
        (controlFile.map Control.mount).toList) }

/-- The volumes of a side-car. -/
def volumes (id : String) : List Volume :=
  [Manifest.configMapVolume configVolume (configMapName id), Manifest.secretVolume certsVolume (secretName id)]

/-- The ConfigMap and the Secret of a side. -/
def objects (ns id : String) (side : Side) (config : String) (material : TlsMaterial) : List Object :=
  [Manifest.configMap ⟨ns, configMapName id⟩ (labels id side) (.ofList [(configKey, config)]),
    Manifest.secret ⟨ns, secretName id⟩ (labels id side) material.toSecretData]

/-- Creates or updates objects in order. -/
def writeAll (objects : List Object) : Attempt Cluster Unit :=
  Attempt.inOrder (objects.map fun o => do let _ ← Cluster.createOrUpdate o)

/-- Creates or updates the server's side in the namespace of the endpoint. A tunnel without
material takes the issued one. -/
def createServer (issued : TlsMaterial) (id : String) (e : Endpoint) (backendPort : Nat)
    (controlFile : Option String) : Attempt (Stunnel × Cluster) Unit := do
  let (t, _) ← get
  Attempt.ofResult t.options.validate
  let material := t.material.getD issued
  modify fun s => ({ s.1 with material := some material }, s.2)
  let config := serverConfig t.options backendPort
  Attempt.onSecond (writeAll (objects e.name.ns id .server config material))
  modify fun s =>
    ({ s.1 with
        serverContainers := [container t.options Endpoint.exposedPort controlFile]
        serverVolumes := volumes id }, s.2)

/-- Creates or updates the client's side in a namespace. The tunnel needs its material. -/
def createClient (ns id : String) (e : Endpoint) (controlFile : Option String) :
    Attempt (Stunnel × Cluster) Unit := do
  let (t, _) ← get
  Attempt.ofResult t.options.validate
  match t.material with
  | none => throw (.configuration .clientWithoutMaterial)
  | some material =>
    let config ← Attempt.ofResult (clientConfig t.options e)
    Attempt.onSecond (writeAll (objects ns id .client config material))
    modify fun s =>
      ({ s.1 with
          clientContainers := [container t.options clientPort controlFile]
          clientVolumes := volumes id }, s.2)

/-- The tunnel whose server's side exists in a namespace. -/
def discover (ns id : String) (options : StunnelOptions) : Attempt Cluster Stunnel := do
  let secret ← Cluster.require .secret ⟨ns, secretName id⟩
  return { options, material := some (← Attempt.ofResult (TlsMaterial.ofSecret secret)) }

end Stunnel

end VolumeMigration
