import VolumeMigration.Config.Options
/-!
# Configuration of a migration

Which claims are copied, and through what. Only the claims and the endpoint have
to be given. The type of an endpoint, a transport or a transfer decides which
other fields it has.
-/

namespace VolumeMigration

/-- A claim by name. Empty parts of a destination's name are those of its source. -/
structure ClaimRef where
  ns : String := ""
  name : String := ""
deriving DecidableEq, Repr

structure PairConfig where
  source : ClaimRef
  destination : Option ClaimRef := none
deriving DecidableEq, Repr

inductive EndpointConfig where
  | route (termination : Termination) (subdomain : Option String)
  | ingress (subdomain : String) (className : Option String)
  | service (type : ServiceType) (nodeAddress : Option String)
deriving DecidableEq, Repr

inductive TransportConfig where
  | stunnel (options : StunnelOptions)
  | none
deriving DecidableEq, Repr

inductive TransferConfig where
  | rsync (flags : Option (List String))
  | rclone
  | blockrsync (options : BlockrsyncOptions)
deriving DecidableEq, Repr

structure MigrationConfig where
  pairs : List PairConfig
  endpoint : EndpointConfig
  transport : TransportConfig := .stunnel {}
  transfer : TransferConfig := .rsync none
  workload : WorkloadOptions := {}
  quiesce : QuiesceOptions := {}
deriving DecidableEq, Repr

namespace EndpointConfig

def type : EndpointConfig → EndpointType
  | route .. => .route
  | ingress .. => .ingress
  | service .. => .service

end EndpointConfig

namespace TransportConfig

def type : TransportConfig → TransportType
  | stunnel _ => .stunnel
  | none => .none

/-- The options of a tunnel; the defaults if there is none. -/
def stunnelOptions : TransportConfig → StunnelOptions
  | stunnel options => options
  | none => {}

end TransportConfig

namespace TransferConfig

def type : TransferConfig → TransferType
  | rsync _ => .rsync
  | rclone => .rclone
  | blockrsync _ => .blockrsync

end TransferConfig

namespace Document

/-- The name of the field that says of what type a value is. -/
def typeField : String := "type"

/-- The members of a record without its type, and the type if it was read. -/
def splitType? : List (Document × Document) → Option (Option String × List (Document × Document))
  | [] => some (none, [])
  | (k, v) :: r => do
    let (type, members) ← splitType? r
    let key ← k.strict?
    if key.text? == some typeField then
      if type.isSome then none else some (some (← v.text?), members)
    else some (type, (key, ← v.strict?) :: members)

/-- The most lists and records within each other in a value that has a type. -/
def maxDepth : Nat := 127

/-- The type of a value and its other fields. In a list the type comes first. -/
def typed? (d : Document) : Option (String × Document) :=
  if maxDepth < d.depth then none
  else match d with
    | list (d :: ds) => do some (← d.text?, list (← strictItems? ds))
    | record members => do
      let (type, members) ← splitType? members
      some (← type, record members)
    | _ => none

/-- One of several choices by its name, which may be the key of a record that holds nothing. -/
def choice? {α : Type} (options : List (String × α)) (d : Document) : Option α :=
  let named (name : Option String) : Option α := name.bind fun s => (options.find? (·.1 == s)).map (·.2)
  match d with
  | record [(k, v)] =>
    let empty := match v with
      | record [] => true
      | v => v.isNull
    if empty then (fieldOf? (options.map (·.1)) k).bind named else none
  | d => named d.text?

end Document

namespace ClaimRef

def ofDocument? (d : Document) : Option ClaimRef := do
  let ms ← d.fields? ["namespace", "name"]
  some { ns := ← ms.valueOr? "namespace" "" Document.text?, name := ← ms.valueOr? "name" "" Document.text? }

def toJson (c : ClaimRef) : Json := .obj [("namespace", .str c.ns), ("name", .str c.name)]

end ClaimRef

namespace PairConfig

def ofDocument? (d : Document) : Option PairConfig := do
  let ms ← d.fields? ["source", "destination"]
  some {
    source := ← ms.value? "source" ClaimRef.ofDocument?
    destination := ← ms.valueOr? "destination" none (Document.optional? ClaimRef.ofDocument?) }

end PairConfig

namespace EndpointConfig

def terminations : List (String × Termination) := [("edge", .edge), ("passthrough", .passthrough)]

def serviceTypes : List (String × ServiceType) :=
  [("clusterip", .clusterIP), ("nodeport", .nodePort), ("loadbalancer", .loadBalancer)]

def ofDocument? (d : Document) : Option EndpointConfig := do
  match ← d.typed? with
  | ("route", d) =>
    let ms ← d.fields? ["termination", "subdomain"]
    some (.route (← ms.valueOr? "termination" .passthrough (Document.choice? terminations))
      (← ms.valueOr? "subdomain" none (Document.optional? Document.text?)))
  | ("ingress", d) =>
    let ms ← d.fields? ["subdomain", "ingressClass"]
    some (.ingress (← ms.value? "subdomain" Document.text?)
      (← ms.valueOr? "ingressClass" none (Document.optional? Document.text?)))
  | ("service", d) =>
    let ms ← d.fields? ["serviceType", "nodeAddress"]
    some (.service (← ms.valueOr? "serviceType" .clusterIP (Document.choice? serviceTypes))
      (← ms.valueOr? "nodeAddress" none (Document.optional? Document.text?)))
  | _ => none

end EndpointConfig

namespace TransportConfig

def ofDocument? (d : Document) : Option TransportConfig := do
  match ← d.typed? with
  | ("stunnel", d) => (StunnelOptions.ofDocument? d).map stunnel
  | ("none", _) => some none
  | ("null", _) => some none
  | _ => Option.none

end TransportConfig

namespace TransferConfig

def ofDocument? (d : Document) : Option TransferConfig := do
  match ← d.typed? with
  | ("rsync", d) =>
    let ms ← d.fields? ["flags"]
    some (.rsync (← ms.valueOr? "flags" none (Document.optional? (Document.list? Document.text?))))
  | ("rclone", _) => some .rclone
  | ("blockrsync", d) => (BlockrsyncOptions.ofDocument? d).map blockrsync
  | _ => none

end TransferConfig

namespace MigrationConfig

def ofDocument? (d : Document) : Option MigrationConfig := do
  let ms ← d.fields? ["pvcs", "endpoint", "transport", "transfer", "workload", "quiesce"]
  some {
    pairs := ← ms.value? "pvcs" (Document.list? PairConfig.ofDocument?)
    endpoint := ← ms.value? "endpoint" EndpointConfig.ofDocument?
    transport := ← ms.valueOr? "transport" (.stunnel {}) TransportConfig.ofDocument?
    transfer := ← ms.valueOr? "transfer" (.rsync none) TransferConfig.ofDocument?
    workload := ← ms.valueOr? "workload" {} WorkloadOptions.ofDocument?
    quiesce := ← ms.valueOr? "quiesce" {} QuiesceOptions.ofDocument? }

/-- The configuration that a YAML text of one document holds. -/
def ofYaml? (text : String) : Option MigrationConfig := do
  match ← Yaml.documents? text with
  | [node] => ofDocument? (Document.ofNode node)
  | _ => none

end MigrationConfig

end VolumeMigration
