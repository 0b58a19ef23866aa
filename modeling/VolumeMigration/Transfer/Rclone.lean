import VolumeMigration.Transfer.Basic
/-!
# Transfers by rclone

The server serves the destination claims over WebDAV. The client makes each
destination equal to its source, one claim after the other, and always names
the endpoint's host, so that a shared router knows where its requests go.
-/

namespace VolumeMigration.Transfer.Rclone

open Text (ShellWord)

/-- The server's port behind a tunnel. -/
def port : Nat := 8080

/-- The name of the server in the client's configuration. -/
def remote : String := "destination"

def binary : String := "/usr/local/bin/rclone"

def configDir : String := "/etc/rclone"

def configKey : String := "rclone.conf"

def configVolume : String := "rclone-config"

/-- The environment variables with the user of the server. -/
def userVariable : String := "RCLONE_USER"

def passwordVariable : String := "RCLONE_PASS"

def secretName (t : Transfer) : ObjectName := t.objectName .server "ferry-rclone-secret-"

def serverName (t : Transfer) : ObjectName := t.objectName .server "ferry-rclone-server-"

def clientConfigName (t : Transfer) : ObjectName := t.objectName .client "ferry-rclone-client-config-"

def clientName (t : Transfer) : ObjectName := t.objectName .client "ferry-rclone-client-"

def serverFiles (t : Transfer) : List Object :=
  [Manifest.secret (secretName t) t.serverLabels
    (Manifest.secretTexts
      [(userVariable, t.credentials.username), (passwordVariable, t.credentials.password)])]

def serverContainer (t : Transfer) : Container :=
  let port := t.listenPort port
  { name := "rclone"
    image := some t.workload.images.rclone
    command := some
      [binary, "serve", "webdav", mountRoot, "--addr", s!":{port}", "--user", "$(" ++ userVariable ++ ")",
        "--pass", "$(" ++ passwordVariable ++ ")"]
    ports := some [Manifest.tcpPort "webdav" port]
    env := some
      [Manifest.secretEnv userVariable (secretName t).name userVariable,
        Manifest.secretEnv passwordVariable (secretName t).name passwordVariable]
    volumeMounts := some (t.claimMounts .server) }

def server (t : Transfer) : Object :=
  Manifest.deployment (serverName t) t.serverLabels
    (t.podSpec .server [serverContainer t] (t.claimVolumes .server) none)

/-- The client's configuration. It speaks TLS only to an endpoint that ends it. -/
def config (t : Transfer) (target : Address) : String :=
  let scheme := if t.transport.isDirect && t.endpoint.terminatesTls then "https" else "http"
  ConfigFile.render ConfigFile.rcloneRemote
    [("remote", .str remote), ("scheme", .str scheme), ("username", .str t.credentials.username),
      ("password", .str t.credentials.password), ("hostname", .str target.hostname), ("port", .int target.port),
      ("host_header", .str (t.endpoint.hostname?.getD target.hostname))]

/-- The command that copies the files of one pair. -/
def copyCommand (p : Pair) : List ShellWord :=
  [.bare binary, .bare "sync", .bare "--config", .bare s!"{configDir}/{configKey}",
    .quoted (mountPath p.source ++ "/"), .quoted s!"{remote}:/{p.destination.name}/"]

def clientScript (t : Transfer) : String := copyScript (t.pairs.pairs.map copyCommand)

def clientFiles (t : Transfer) (target : Address) : List Object :=
  [Manifest.secret (clientConfigName t) t.clientLabels (Manifest.secretTexts [(configKey, config t target)])]

def clientContainer (t : Transfer) : Container :=
  { name := "rclone"
    image := some t.workload.images.rclone
    command := some ["/bin/sh", "-c", clientScript t]
    volumeMounts := some
      (t.claimMounts .client ++
        [{ name := configVolume, mountPath := configDir, readOnly := some true }, Control.mount Control.file]) }

def client (t : Transfer) : Object :=
  Manifest.pod (clientName t) t.clientLabels
    (t.podSpec .client [clientContainer t]
      (t.claimVolumes .client ++
        [Manifest.secretVolume configVolume (clientConfigName t).name, Control.volume])
      (some "Never"))

end VolumeMigration.Transfer.Rclone
