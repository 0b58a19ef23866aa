import VolumeMigration.Claim.PairList
import VolumeMigration.Endpoint.Lifecycle
import VolumeMigration.Side
import VolumeMigration.Text.ShellWord
import VolumeMigration.Transfer.RsyncOptions
import VolumeMigration.Transport.Basic
/-!
# Transfers

A transfer copies the volumes of a list of pairs from a client next to the
source claims to a server next to the destination claims. Whether its parts go
together is checked when they are put together.
-/

namespace VolumeMigration

inductive TransferType where
  | rsync
  | rclone
  | blockrsync
deriving DecidableEq, Repr

namespace TransferType

def name : TransferType → String
  | rsync => "rsync"
  | rclone => "rclone"
  | blockrsync => "blockrsync"

instance : ToString TransferType := ⟨name⟩

def ofName (s : String) : Result TransferType :=
  match [rsync, rclone, blockrsync].find? (·.name == s) with
  | some t => .ok t
  | none => .error (.configuration (.unknownTransferType s))

end TransferType

/-- The user that a client is known to the server by. -/
structure Credentials where
  username : String
  password : String
deriving DecidableEq, Repr

namespace Credentials

/-- The user of every transfer. -/
def transferUser : String := "ferry"

/-- The number of characters of a password. -/
def passwordLength : Nat := 24

/-- The characters of a password. -/
def passwordChars : List Char :=
  "ABCDEFGHIJKLMNOPQRSTUVWXYZabcdefghijklmnopqrstuvwxyz0123456789".toList

/-- A password from random draws. -/
def passwordOfDraws (draws : List Nat) : String :=
  String.ofList ((draws.take passwordLength).map fun n => passwordChars.getD (n % passwordChars.length) 'A')

def ofPassword (password : String) : Credentials := ⟨transferUser, password⟩

/-- A description without the password. -/
def describe (c : Credentials) : String :=
  s!"Credentials \x7b username: \"{c.username}\", password: \"<redacted>\" \x7d"

end Credentials

/-- The images of the pods. -/
structure Images where
  rsync : String := "ghcr.io/ferry-dev/rsync-transfer:latest"
  rclone : String := "docker.io/rclone/rclone:1.66"
  blockrsync : String := "ghcr.io/ferry-dev/blockrsync:latest"
deriving DecidableEq, Repr

/-- What the pods of a transfer have in common. -/
structure WorkloadOptions where
  images : Images := {}
  /-- The node of the server pods. -/
  nodeName : Option String := none
  /-- Labels of every pod, which give way to those of the endpoint. -/
  labels : StringMap := .empty
  serviceAccountName : Option String := none
deriving DecidableEq, Repr

structure BlockrsyncOptions where
  /-- The size of a block in bytes. -/
  blockSize : Nat := 131072
deriving DecidableEq, Repr

def BlockrsyncOptions.validate (o : BlockrsyncOptions) : Result Unit :=
  Failure.checkValidation (if o.blockSize = 0 then ["blockrsync block size must be positive"] else [])

/-- The program that copies, and its options. -/
inductive Method where
  /-- Copies trees of files to an rsync daemon. -/
  | rsync (options : RsyncOptions)
  /-- Copies trees of files to a WebDAV server. -/
  | rclone
  /-- Copies devices block by block. -/
  | blockrsync (options : BlockrsyncOptions)

namespace Method

def type : Method → TransferType
  | rsync _ => .rsync
  | rclone => .rclone
  | blockrsync _ => .blockrsync

def validate : Method → Result Unit
  | rsync options => options.validate
  | rclone => .ok ()
  | blockrsync options => options.validate

end Method

structure Transfer where
  method : Method
  pairs : PairList
  endpoint : Endpoint
  transport : Transport
  credentials : Credentials
  workload : WorkloadOptions

namespace Transfer

/-- Whether a way of copying, volumes, an endpoint and a transport go together: the endpoint lies
with the destination claims, TLS is ended by the right party, and the volumes are of the right
kind. -/
def checkCompatible (type : TransferType) (pairs : PairList) (e : Endpoint) (t : Transport) : Result Unit :=
  if e.name.ns ≠ pairs.destinationNamespace then
    .error (.configuration (.endpointOutsideDestination e.name pairs.destinationNamespace))
  else if t.isDirect ∧ e.requiresTls then .error (.configuration (.endpointNeedsTunnel e.type.name e.name))
  else if e.terminatesTls ∧ ¬(t.isDirect ∧ type = .rclone) then
    .error (.configuration (.endpointTerminatesTls e.name))
  else match type, pairs.isDevice with
    | .blockrsync, false => .error (.configuration .filesystemVolumes)
    | .rsync, true | .rclone, true => .error (.configuration (.blockVolumes type.name))
    | _, _ => .ok ()

/-- A transfer of the pairs under a new password, if its parts go together. -/
def new (method : Method) (pairs : PairList) (endpoint : Endpoint) (transport : Transport)
    (workload : WorkloadOptions) (password : String) : Result Transfer := do
  method.validate
  checkCompatible method.type pairs endpoint transport
  return { method, pairs, endpoint, transport, credentials := .ofPassword password, workload }

/-- The transfer over another endpoint and transport, if they go with its other parts. -/
def withConnection (t : Transfer) (endpoint : Endpoint) (transport : Transport) : Result Transfer := do
  checkCompatible t.method.type t.pairs endpoint transport
  return { t with endpoint, transport }

def type (t : Transfer) : TransferType := t.method.type

/-- What everything that the transfer creates is named after. -/
def id (t : Transfer) : String := t.pairs.transferId

def serverNamespace (t : Transfer) : String := t.endpoint.name.ns

def clientNamespace (t : Transfer) : String := t.pairs.sourceNamespace

/-- The port that the server listens on: the exposed one, or its own behind a tunnel. -/
def listenPort (t : Transfer) (backendPort : Nat) : Nat :=
  if t.transport.isDirect then Endpoint.exposedPort else backendPort

/-- Where the client connects to. -/
def target (t : Transfer) : Result Address := t.transport.target t.endpoint

/-- The part of a side's pods in the transfer. -/
def component (t : Transfer) (side : Side) : String := s!"{t.type}-{side}"

/-- The labels of the server pods, among them those of the endpoint. -/
def serverLabels (t : Transfer) : StringMap :=
  (t.workload.labels.merge t.endpoint.labels).insert Label.component (t.component .server)

def clientLabels (t : Transfer) : StringMap :=
  (t.workload.labels.insert Label.transfer t.id).insert Label.component (t.component .client)

/-- The labels that server pods are found by. -/
def healthLabels (t : Transfer) : StringMap := t.endpoint.labels.insert Label.component (t.component .server)

/-- The claims of a side, in order. -/
def claims (t : Transfer) : Side → List Claim
  | .server => t.pairs.destinations
  | .client => t.pairs.sources

/-- The directory that volumes are mounted in. -/
def mountRoot : String := "/mnt"

def volumeName (i : Nat) : String := s!"pvc-{i}"

/-- The directory of a claim's files. -/
def mountPath (c : Claim) : String := mountRoot ++ "/" ++ c.name

/-- The volumes of a side's claims. -/
def claimVolumes (t : Transfer) (side : Side) : List Volume :=
  (t.claims side).mapIdx fun i c => Manifest.claimVolume (volumeName i) c.name

/-- The mounts of a side's claims as trees of files. -/
def claimMounts (t : Transfer) (side : Side) : List VolumeMount :=
  (t.claims side).mapIdx fun i c => { name := volumeName i, mountPath := mountPath c }

/-- The side-cars of a side. -/
def sidecars (t : Transfer) : Side → List Container
  | .server => t.transport.serverContainers
  | .client => t.transport.clientContainers

def sidecarVolumes (t : Transfer) : Side → List Volume
  | .server => t.transport.serverVolumes
  | .client => t.transport.clientVolumes

/-- The pod of a side, with the side-cars of the transport. -/
def podSpec (t : Transfer) (side : Side) (containers : List Container) (volumes : List Volume)
    (restartPolicy : Option String) : PodSpec :=
  { containers := containers ++ t.sidecars side
    volumes := some (volumes ++ t.sidecarVolumes side)
    nodeName := if side = .server then t.workload.nodeName else none
    serviceAccountName := t.workload.serviceAccountName
    restartPolicy }

/-- The name of an object in the namespace of a side. -/
def objectName (t : Transfer) (side : Side) (stem : String) : ObjectName :=
  match side with
  | .server => ⟨t.serverNamespace, stem ++ t.id⟩
  | .client => ⟨t.clientNamespace, stem ++ t.id⟩

/-- A command on a line of a script. -/
def commandLine (words : List Text.ShellWord) : String := Text.join " " (words.map (·.render)) ++ "\n"

/-- A script that runs commands in order up to the first that fails. -/
def copyScript (commands : List (List Text.ShellWord)) : String :=
  Control.trap ++ "set -e\n" ++ String.join (commands.map commandLine)

end Transfer

end VolumeMigration
