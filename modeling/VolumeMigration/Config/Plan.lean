import VolumeMigration.Config.Migration
import VolumeMigration.Transfer.Lifecycle
/-!
# Planning a migration

A plan is the transfer that a configuration describes. To make it the claims are
read from both clusters, and nothing is written. A destination claim that does
not exist yet is taken to be like its source.
-/

namespace VolumeMigration

namespace PairConfig

/-- Whether the source is named in full. -/
def isComplete (p : PairConfig) : Bool := !p.source.ns.isEmpty && !p.source.name.isEmpty

def sourceName (p : PairConfig) : ObjectName := ⟨p.source.ns, p.source.name⟩

/-- A text, or another one in place of an empty one. -/
def orElse (s other : String) : String := if s.isEmpty then other else s

/-- The name of the destination, of which the source gives the parts that are missing. -/
def destinationName (p : PairConfig) : ObjectName :=
  let d := p.destination.getD {}
  ⟨orElse d.ns p.source.ns, orElse d.name p.source.name⟩

end PairConfig

namespace MigrationConfig

/-- The name of a transfer's endpoint and of its service. -/
def endpointName (id : String) : String := "ferry-" ++ id

/-- What is missing of the names of the sources. -/
def sourceFaults (c : MigrationConfig) : List String :=
  (c.pairs.mapIdx fun i p =>
    if p.isComplete then none else some s!"pvcs[{i}]: source needs a namespace and a name").filterMap id

/-- A claim of a cluster, if it exists. -/
def findClaim? (n : ObjectName) : Attempt Cluster (Option Claim) := do
  return (← Cluster.find? .persistentVolumeClaim n).bind Claim.ofObject?

/-- The pair that an entry describes, from the source cluster and the destination cluster. -/
def readPair (p : PairConfig) : Attempt (Cluster × Cluster) Pair := do
  match ← Attempt.onFirst (findClaim? p.sourceName) with
  | none => throw (.notFound Kind.persistentVolumeClaim.name p.sourceName)
  | some source =>
    let destination ← Attempt.onSecond (findClaim? p.destinationName)
    return Pair.ofClaims source (some (destination.getD (source.renamed p.destinationName)))

/-- The pairs that entries describe, in order. -/
def readPairs : List PairConfig → Attempt (Cluster × Cluster) (List Pair)
  | [] => pure []
  | p :: ps => do
    let pair ← readPair p
    let pairs ← readPairs ps
    return pair :: pairs

/-- The pairs of claims to copy. -/
def pairList (c : MigrationConfig) : Attempt (Cluster × Cluster) PairList := do
  Attempt.ofResult (Failure.checkValidation c.sourceFaults)
  Attempt.ofResult (PairList.ofPairs (← readPairs c.pairs))

/-- The endpoint of the pairs, in the namespace of the destination claims. -/
def buildEndpoint (c : MigrationConfig) (pairs : PairList) : Result Endpoint :=
  let name : ObjectName := ⟨pairs.destinationNamespace, endpointName pairs.transferId⟩
  let labels := Label.withManager (.ofList [(Label.transfer, pairs.transferId)])
  match c.endpoint with
  | .route termination subdomain => .ok (.ofRoute name labels termination subdomain)
  | .ingress subdomain className => .ok (.ofIngress name labels subdomain className)
  | .service .clusterIP _ => .ok (.ofClusterIP name labels)
  | .service .loadBalancer _ => .ok (.ofLoadBalancer name labels)
  | .service .nodePort (some address) => .ok (.ofNodePort name labels address)
  | .service .nodePort none => .error (.configuration .nodePortWithoutAddress)

def buildTransport (c : MigrationConfig) : Result Transport :=
  match c.transport with
  | .stunnel options => do
    options.validate
    return .stunnel { options }
  | .none => .ok (.direct none)

/-- The way of copying. -/
def buildMethod (c : MigrationConfig) : Result Method :=
  match c.transfer with
  | .rsync none => .ok (.rsync .archive)
  | .rsync (some flags) => (RsyncOptions.ofFlags flags).map .rsync
  | .rclone => .ok .rclone
  | .blockrsync options => .ok (.blockrsync options)

/-- The transfer that the configuration describes, under a new password. The first cluster is the
source and the second the destination. -/
def plan (c : MigrationConfig) (password : String) : Attempt (Cluster × Cluster) Transfer := do
  let pairs ← c.pairList
  let endpoint ← Attempt.ofResult (c.buildEndpoint pairs)
  let transport ← Attempt.ofResult c.buildTransport
  let method ← Attempt.ofResult c.buildMethod
  Attempt.ofResult (Transfer.new method pairs endpoint transport c.workload password)

end MigrationConfig

end VolumeMigration
