import VolumeMigration.Command.Basic
import VolumeMigration.Config.Plan
/-!
# Running a transfer

The server's side is created in the destination cluster first. Once its endpoint
has an address and its pods run, the client's side is created in the source
cluster, over the endpoint and the transport as the destination cluster has
them. The source cluster is the first of the two clusters.
-/

namespace VolumeMigration

/-- Whether an endpoint of the destination cluster can be reached, learning its address. -/
def destinationHealthy : Attempt (Endpoint × Cluster × Cluster) Bool :=
  Attempt.within (fun s => (s.1, s.2.2)) (fun r s => (r.1, s.2.1, r.2)) Endpoint.isHealthy

/-- Creates both sides of the transfer that a configuration describes, and waits for the end of a
block transfer if asked to. -/
def runTransfer (c : MigrationConfig) (password : String) (issued : TlsMaterial) (p : Patience)
    (waitForClient : Bool) : Command (Cluster × Cluster) Transfer := do
  let planned ← Command.attempt (c.plan password)
  let server ← Command.attempt (Attempt.onSecond (Attempt.changing planned (Transfer.createServer issued)))
  let endpoint ← Command.awaitLearning p "endpoint address" server.endpoint destinationHealthy
  Command.await p "server pods" (Attempt.onSecond server.isServerHealthy)
  let transport ← Command.attempt (Attempt.onSecond
    (Transport.discover server.transport.type server.serverNamespace server.id c.transport.stunnelOptions))
  let connected ← Command.attempt (Attempt.ofResult (server.withConnection endpoint transport))
  let client ← Command.attempt (Attempt.onFirst (Attempt.changing connected Transfer.createClient))
  if waitForClient && client.type == .blockrsync then
    Command.await p "block transfer" (Attempt.onFirst client.isClientComplete)
  return client

/-- The configuration in a file with the given text, if the file could be read. -/
def loadConfig (path : String) (text : Option String) : Except CommandFailure MigrationConfig :=
  match text.map MigrationConfig.ofYaml? with
  | none => .error (.unreadable path)
  | some none => .error (.invalidConfig path "the text holds no migration config")
  | some (some config) => .ok config

end VolumeMigration
