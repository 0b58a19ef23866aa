import VolumeMigration.Transfer.Basic
/-!
# Transfers by rsync

The server is a daemon with one module, whose directories are the destination
claims. The client pushes the files of each source claim to the directory of its
destination, one claim after the other.
-/

namespace VolumeMigration.Transfer.Rsync

open Text (ShellWord)

/-- The daemon's port behind a tunnel. -/
def port : Nat := 8873

/-- The module of the daemon. -/
def moduleName : String := "mnt"

def binary : String := "/usr/bin/rsync"

def configDir : String := "/etc/rsyncd"

def secretDir : String := "/etc/rsync-secret"

/-- The file with the users of the daemon, and the key of the Secret that holds it. -/
def secretsFile : String := "rsyncd.secrets"

def credentialsKey : String := "credentials"

def configKey : String := "rsyncd.conf"

def configVolume : String := "rsyncd-config"

def secretVolume : String := "rsync-secret"

/-- The environment variable that the client takes the password from. -/
def passwordVariable : String := "RSYNC_PASSWORD"

def configName (t : Transfer) : ObjectName := t.objectName .server "ferry-rsync-config-"

def secretName (t : Transfer) : ObjectName := t.objectName .server "ferry-rsync-secret-"

def serverName (t : Transfer) : ObjectName := t.objectName .server "ferry-rsync-server-"

def clientSecretName (t : Transfer) : ObjectName := t.objectName .client "ferry-rsync-client-secret-"

def clientName (t : Transfer) : ObjectName := t.objectName .client "ferry-rsync-client-"

/-- The daemon's configuration, with a connection for every claim. -/
def config (t : Transfer) : String :=
  ConfigFile.render ConfigFile.rsyncDaemon
    [("max_connections", .int (max 10 t.pairs.length)), ("direct", .bool t.transport.isDirect),
      ("module", .str moduleName), ("path", .str mountRoot), ("username", .str t.credentials.username),
      ("secrets_file", .str s!"{secretDir}/{secretsFile}")]

def serverFiles (t : Transfer) : List Object :=
  [Manifest.configMap (configName t) t.serverLabels (.ofList [(configKey, config t)]),
    Manifest.secret (secretName t) t.serverLabels
      (Manifest.secretTexts [(credentialsKey, s!"{t.credentials.username}:{t.credentials.password}")])]

def serverContainer (t : Transfer) : Container :=
  let port := t.listenPort port
  { name := "rsync"
    image := some t.workload.images.rsync
    command := some [binary, "--daemon", "--no-detach", s!"--port={port}", s!"--config={configDir}/{configKey}"]
    ports := some [Manifest.tcpPort "rsyncd" port]
    volumeMounts := some
      ([{ name := configVolume, mountPath := configDir }, { name := secretVolume, mountPath := secretDir }] ++
        t.claimMounts .server) }

/-- The volume of the daemon's users, which only its owner may read. -/
def usersVolume (t : Transfer) : Volume :=
  { name := secretVolume
    secret := some {
      secretName := some (secretName t).name
      defaultMode := some 0o600
      items := some [{ key := credentialsKey, path := secretsFile }] } }

def server (t : Transfer) : Object :=
  Manifest.deployment (serverName t) t.serverLabels
    (t.podSpec .server [serverContainer t]
      (t.claimVolumes .server ++ [Manifest.configMapVolume configVolume (configName t).name, usersVolume t]) none)

/-- The command that copies the files of one pair. -/
def copyCommand (t : Transfer) (options : RsyncOptions) (target : Address) (p : Pair) : List ShellWord :=
  .bare binary :: options.toFlags.map .quoted ++
    [.quoted (mountPath p.source ++ "/"),
      .quoted s!"rsync://{t.credentials.username}@{target.display}/{moduleName}/{p.destination.name}/"]

def clientScript (t : Transfer) (options : RsyncOptions) (target : Address) : String :=
  copyScript (t.pairs.pairs.map (copyCommand t options target))

def clientFiles (t : Transfer) : List Object :=
  [Manifest.secret (clientSecretName t) t.clientLabels
    (Manifest.secretTexts [(passwordVariable, t.credentials.password)])]

def clientContainer (t : Transfer) (options : RsyncOptions) (target : Address) : Container :=
  { name := "rsync"
    image := some t.workload.images.rsync
    command := some ["/bin/bash", "-c", clientScript t options target]
    env := some [Manifest.secretEnv passwordVariable (clientSecretName t).name passwordVariable]
    volumeMounts := some (t.claimMounts .client ++ [Control.mount Control.file]) }

def client (t : Transfer) (options : RsyncOptions) (target : Address) : Object :=
  Manifest.pod (clientName t) t.clientLabels
    (t.podSpec .client [clientContainer t options target] (t.claimVolumes .client ++ [Control.volume])
      (some "Never"))

end VolumeMigration.Transfer.Rsync
