import VolumeMigration.Transfer.Blockrsync
import VolumeMigration.Transfer.Rclone
import VolumeMigration.Transfer.Rsync
/-!
# Life of a transfer

Both sides are created in the same order: the files that the pods read, the
transport, the pods, and for the server the endpoint. The first failure ends
the creation and leaves what was created.
-/

namespace VolumeMigration

namespace Transfer

/-- An attempt on the transport of a transfer. -/
def onTransport (a : Attempt (Transport × Cluster) Unit) : Attempt (Transfer × Cluster) Unit :=
  Attempt.within (fun s => (s.1.transport, s.2)) (fun r s => ({ s.1 with transport := r.1 }, r.2)) a

/-- Creates objects in order. -/
def createObjects (objects : List Object) : Attempt (Transfer × Cluster) Unit :=
  Attempt.onSecond (Attempt.inOrder (objects.map Endpoint.createObject))

/-- The server's port behind a tunnel. -/
def backendPort (t : Transfer) : Nat :=
  match t.method with
  | .rsync _ => Rsync.port
  | .rclone => Rclone.port
  | .blockrsync _ => Blockrsync.proxyPort

/-- The control file of the server pod, if it ends on its own. -/
def serverControlFile? (t : Transfer) : Option String :=
  match t.method with
  | .blockrsync _ => some Control.file
  | .rsync _ | .rclone => none

/-- The files that the server pod reads. -/
def serverFiles (t : Transfer) : List Object :=
  match t.method with
  | .rsync _ => Rsync.serverFiles t
  | .rclone => Rclone.serverFiles t
  | .blockrsync _ => []

/-- What runs the server. -/
def server (t : Transfer) : Object :=
  match t.method with
  | .rsync _ => Rsync.server t
  | .rclone => Rclone.server t
  | .blockrsync options => Blockrsync.server t options

/-- The files that the client pod reads. -/
def clientFiles (t : Transfer) (target : Address) : List Object :=
  match t.method with
  | .rsync _ => Rsync.clientFiles t
  | .rclone => Rclone.clientFiles t target
  | .blockrsync _ => []

/-- What runs the client. -/
def client (t : Transfer) (target : Address) : Object :=
  match t.method with
  | .rsync options => Rsync.client t options target
  | .rclone => Rclone.client t
  | .blockrsync options => Blockrsync.client t options target

/-- Creates the server's side in the namespace of the endpoint. A tunnel without material takes
the issued one. -/
def createServer (issued : TlsMaterial) : Attempt (Transfer × Cluster) Unit := do
  let (t, _) ← get
  createObjects t.serverFiles
  onTransport (Transport.createServer issued t.id t.endpoint t.backendPort t.serverControlFile?)
  let (t, _) ← get
  createObjects [t.server]
  Attempt.onSecond t.endpoint.create

/-- Creates the client's side in the namespace of the source claims. The address that the client
connects to has to be known. -/
def createClient : Attempt (Transfer × Cluster) Unit := do
  let (t, _) ← get
  let target ← Attempt.ofResult t.target
  createObjects (t.clientFiles target)
  onTransport (Transport.createClient t.clientNamespace t.id t.endpoint (some Control.file))
  let (t, _) ← get
  createObjects [t.client target]

/-- Whether there are server pods and all of them run. -/
def isServerHealthy (t : Transfer) : Attempt Cluster Bool := do
  let pods ← Cluster.list .pod t.serverNamespace (some (Label.selector t.healthLabels))
  return !pods.isEmpty && pods.all fun p => p.podPhase? == some "Running"

/-- Whether the client is done. A client that failed is a failure, and only blockrsync can tell. -/
def isClientComplete (t : Transfer) : Attempt Cluster Bool :=
  match t.method with
  | .blockrsync _ => do
    match ← Cluster.find? .pod (Blockrsync.clientName t) with
    | none => return false
    | some pod =>
      match pod.podPhase? with
      | some "Succeeded" => return true
      | some "Failed" => throw (.internal "blockrsync" s!"client pod {Blockrsync.clientName t} failed")
      | _ => return false
  | _ => throw (.configuration (.noCompletionReport t.type.name))

end Transfer

end VolumeMigration
