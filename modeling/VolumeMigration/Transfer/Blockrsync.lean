import VolumeMigration.Transfer.Basic
/-!
# Transfers by blockrsync

Each pair has a process of its own on both sides. A proxy on each side carries
all of them over one connection: it knows a process by the identity of its pair,
and the server's proxy leads the pairs to consecutive ports in their order.
-/

namespace VolumeMigration.Transfer.Blockrsync

open Text (ShellWord)

/-- The port of the first pair's process in the server pod. -/
def basePort : Nat := 3000

/-- The port of a proxy behind a tunnel, and of every proxy in the client pod. -/
def proxyPort : Nat := 3222

def binary : String := "/blockrsync"

def proxyBinary : String := "/proxy"

/-- The file with the disk of a virtual machine. -/
def diskImage : String := "disk.img"

def serverName (t : Transfer) : ObjectName := t.objectName .server "ferry-blockrsync-server-"

def clientName (t : Transfer) : ObjectName := t.objectName .client "ferry-blockrsync-client-"

/-- How a pod reaches a volume as a device. -/
inductive Device where
  /-- The raw device at a path. -/
  | raw (volume path : String)
  /-- The disk image in a mounted directory. -/
  | image (volume directory : String)
deriving DecidableEq, Repr

namespace Device

/-- The device for the claim with the given index. -/
def ofClaim (i : Nat) (c : Claim) : Device :=
  if c.isBlock then .raw (volumeName i) s!"/dev/block-{i}" else .image (volumeName i) s!"{mountRoot}/{i}"

/-- The path that is read or written. -/
def path : Device → String
  | raw _ path => path
  | image _ directory => directory ++ "/" ++ diskImage

def mount? : Device → Option VolumeMount
  | raw .. => none
  | image volume directory => some { name := volume, mountPath := directory }

def volumeDevice? : Device → Option VolumeDevice
  | raw volume path => some { name := volume, devicePath := path }
  | image .. => none

end Device

/-- The devices of a side's claims. -/
def devices (t : Transfer) (side : Side) : List Device := (t.claims side).mapIdx Device.ofClaim

/-- The identities of the pairs. -/
def identities (t : Transfer) : List String := t.pairs.pairs.map (·.identity)

/-- The container that runs a script over the devices of a side. -/
def payload (t : Transfer) (side : Side) (script : String) : Container :=
  let raw := (devices t side).filterMap Device.volumeDevice?
  { name := "blockrsync"
    image := some t.workload.images.blockrsync
    command := some ["/bin/bash", "-c", script]
    volumeMounts := some ((devices t side).filterMap Device.mount? ++ [Control.mount Control.file])
    volumeDevices := if raw.isEmpty then none else some raw }

def proxy (t : Transfer) (arguments : List String) : Container :=
  { name := "proxy"
    image := some t.workload.images.blockrsync
    command := some (proxyBinary :: arguments ++ ["--control-file", Control.file])
    volumeMounts := some [Control.mount Control.file] }

/-- The command that receives the device of the pair with the given index. -/
def receiveCommand (options : BlockrsyncOptions) (i : Nat) (device : Device) (identity : String) : List ShellWord :=
  [.bare binary, .quoted device.path, .bare "--target", .bare "--identifier", .bare identity, .bare "--port",
    .bare (Nat.repr (basePort + i)), .bare "--block-size", .bare (Nat.repr options.blockSize), .bare "&"]

/-- The command that sends the device of a pair. -/
def sendCommand (options : BlockrsyncOptions) (device : Device) (identity : String) : List ShellWord :=
  [.bare binary, .quoted device.path, .bare "--source", .bare "--target-address", .bare "localhost",
    .bare "--port", .bare (Nat.repr proxyPort), .bare "--identifier", .bare identity, .bare "--block-size",
    .bare (Nat.repr options.blockSize)]

/-- A script that starts a process for each pair and fails if any of them does. -/
def serverScript (t : Transfer) (options : BlockrsyncOptions) : String :=
  let processes := ((devices t .server).zip (identities t)).mapIdx fun i p =>
    commandLine (receiveCommand options i p.1 p.2) ++ "pids=\"$pids $!\"\n"
  Control.trap ++ "pids=\"\"\n" ++ String.join processes ++
    "status=0\nfor pid in $pids; do wait $pid || status=1; done\nexit $status\n"

def clientScript (t : Transfer) (options : BlockrsyncOptions) : String :=
  copyScript (((devices t .client).zip (identities t)).map fun p => sendCommand options p.1 p.2)

/-- The arguments of the server's proxy, with the identities in the order of their ports. -/
def serverProxyArguments (t : Transfer) : List String :=
  ["--target", "--listen-port", Nat.repr (t.listenPort proxyPort), "--target-address", "localhost",
    "--target-port", Nat.repr basePort] ++
  (identities t).flatMap fun identity => ["--identifier", identity]

def clientProxyArguments (target : Address) : List String :=
  ["--source", "--listen-port", Nat.repr proxyPort, "--target-address", target.hostname, "--target-port",
    Nat.repr target.port]

def server (t : Transfer) (options : BlockrsyncOptions) : Object :=
  Manifest.pod (serverName t) t.serverLabels
    (t.podSpec .server
      [payload t .server (serverScript t options), proxy t (serverProxyArguments t)]
      (t.claimVolumes .server ++ [Control.volume]) (some "Never"))

def client (t : Transfer) (options : BlockrsyncOptions) (target : Address) : Object :=
  Manifest.pod (clientName t) t.clientLabels
    (t.podSpec .client
      [payload t .client (clientScript t options), proxy t (clientProxyArguments target)]
      (t.claimVolumes .client ++ [Control.volume]) (some "Never"))

end VolumeMigration.Transfer.Blockrsync
