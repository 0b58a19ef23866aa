import VolumeMigration.Cluster.Network
import VolumeMigration.Cluster.Schema
import VolumeMigration.Cluster.Workload
/-!
# Objects of a cluster

An object is its metadata and the content of its kind. `Object.ofJson?` reads
an object as a cluster reads it, and `Object.toJson` writes it.
-/

namespace VolumeMigration

/-- The bytes under the keys of a Secret. -/
abbrev SecretData := SortedMap String (List UInt8)

/-- A claim of storage. -/
structure ClaimSpec where
  volumeMode : Option String := none
  rest : Fields := []
deriving BEq, Repr

/-- What an object of a kind holds. -/
inductive Content where
  | configMap (data : Option StringMap)
  | cronJob (spec : Option CronJobSpec)
  | daemonSet (spec : Option DaemonSetSpec)
  | deployment (spec : Option DeploymentSpec)
  | deploymentConfig (spec : ReplicaSpec)
  | ingress (spec : Option IngressSpec) (status : Option BalancedStatus)
  | clusterIngress (spec : ClusterIngressSpec)
  | job (spec : Option JobSpec)
  | claim (spec : Option ClaimSpec)
  | pod (spec : Option PodSpec) (status : Option PodStatus)
  | replicaSet (spec : Option ReplicaSpec)
  | route (spec : RouteSpec) (status : Option RouteStatus)
  | secret (data : Option SecretData) (type : Option String)
  | service (spec : Option ServiceSpec) (status : Option BalancedStatus)
  | statefulSet (spec : Option ReplicaSpec)
deriving BEq, Repr

/-- An object, with the top-level fields that a migration does not look at in `rest`. -/
structure Object where
  metadata : Metadata
  content : Content
  rest : Fields := []
deriving BEq, Repr

namespace Content

def kind : Content → Kind
  | configMap _ => .configMap
  | cronJob _ => .cronJob
  | daemonSet _ => .daemonSet
  | deployment _ => .deployment
  | deploymentConfig _ => .deploymentConfig
  | ingress .. => .ingress
  | clusterIngress _ => .ingress
  | job _ => .job
  | claim _ => .persistentVolumeClaim
  | pod .. => .pod
  | replicaSet _ => .replicaSet
  | route .. => .route
  | secret .. => .secret
  | service .. => .service
  | statefulSet _ => .statefulSet

/-- The version of the API that serves the content. -/
def apiVersion : Content → String
  | clusterIngress _ => "config.openshift.io/v1"
  | c => c.kind.apiVersion

end Content

instance : JsonForm ClaimSpec where
  toJson s := .obj (Fields.present "volumeMode" s.volumeMode ++ s.rest)
  ofJson? j := do
    let fs ← j.obj?
    some { volumeMode := ← fs.optional? "volumeMode", rest := fs.without ["volumeMode"] }

/-- Bytes are written in base64. -/
instance : JsonForm (List UInt8) where
  toJson b := .str (String.ofList (Text.Base64.encode b))
  ofJson? j := j.str?.bind fun s => Text.Base64.decode? s.toList

namespace Object

def kind (o : Object) : Kind := o.content.kind

/-- The name that the object is looked up by. -/
def lookupName (o : Object) : String := o.metadata.lookupName

/-- The namespace, empty if none is set, and the name. -/
def objectName (o : Object) : ObjectName := ⟨o.metadata.ns.getD "", o.lookupName⟩

def labelMap (o : Object) : StringMap := o.metadata.labelMap

/-- What a pod reports of its state. -/
def podPhase? (o : Object) : Option String :=
  match o.content with
  | .pod _ status => status.bind (·.phase)
  | _ => none

/-- The specification and the state of an object. -/
def contentFields : Content → Fields
  | .configMap data => Fields.present "data" data
  | .cronJob spec => Fields.present "spec" spec
  | .daemonSet spec => Fields.present "spec" spec
  | .deployment spec => Fields.present "spec" spec
  | .deploymentConfig spec => Fields.member "spec" spec
  | .ingress spec status => Fields.present "spec" spec ++ Fields.present "status" status
  | .clusterIngress spec => [("spec", spec.toJson)]
  | .job spec => Fields.present "spec" spec
  | .claim spec => Fields.present "spec" spec
  | .pod spec status => Fields.present "spec" spec ++ Fields.present "status" status
  | .replicaSet spec => Fields.present "spec" spec
  | .route spec status => Fields.member "spec" spec ++ Fields.present "status" status
  | .secret data type => Fields.present "data" data ++ Fields.present "type" type
  | .service spec status => Fields.present "spec" spec ++ Fields.present "status" status
  | .statefulSet spec => Fields.present "spec" spec

def toJson (o : Object) : Json := .obj
  (Fields.member "apiVersion" o.content.apiVersion ++ Fields.member "kind" o.kind.name ++
    Fields.member "metadata" o.metadata ++ contentFields o.content ++ o.rest)

/-- The content of a kind, from fields that conform to its schema. -/
def contentOf? (fs : Fields) : Kind → Option Content
  | .configMap => (fs.optional? "data").map .configMap
  | .cronJob => (fs.optional? "spec").map .cronJob
  | .daemonSet => (fs.optional? "spec").map .daemonSet
  | .deployment => (fs.optional? "spec").map .deployment
  | .deploymentConfig => ((fs.get? "spec").bind ReplicaSpec.ofVerbatim?).map .deploymentConfig
  | .ingress => do some (.ingress (← fs.optional? "spec") (← fs.optional? "status"))
  | .job => (fs.optional? "spec").map .job
  | .persistentVolumeClaim => (fs.optional? "spec").map .claim
  | .pod => do some (.pod (← fs.optional? "spec") (← fs.optional? "status"))
  | .replicaSet => (fs.optional? "spec").map .replicaSet
  | .route => do some (.route (← fs.value? "spec") (← fs.optional? "status"))
  | .secret => do some (.secret (← fs.optional? "data") (← fs.optional? "type"))
  | .service => do some (.service (← fs.optional? "spec") (← fs.optional? "status"))
  | .statefulSet => (fs.optional? "spec").map .statefulSet

/-- The top-level fields that the content of a kind is read from. -/
def contentKeys : Kind → List String
  | .configMap => ["metadata", "data"]
  | .ingress | .pod | .route | .service => ["metadata", "spec", "status"]
  | .secret => ["metadata", "data", "type"]
  | _ => ["metadata", "spec"]

/-- Whether a kind is part of the cluster's own API, which checks what an object says it is. -/
def isCoreKind : Kind → Bool
  | .route | .deploymentConfig => false
  | _ => true

/-- Whether a member is absent or has the expected text. -/
def agrees (fs : Fields) (key expected : String) : Bool :=
  match fs.get? key with
  | none => true
  | some j => j.str? == some expected

/-- The object of a kind that a JSON value holds. -/
def ofJson? (k : Kind) (j : Json) : Option Object := do
  let given ← j.obj?
  if isCoreKind k && !(agrees given "apiVersion" k.apiVersion && agrees given "kind" k.name) then none
  else
    let fs ← Shape.conformFields? (Schema.topFields k) given
    some {
      metadata := ← fs.value? "metadata"
      content := ← contentOf? fs k
      rest := fs.without (contentKeys k) }

/-- The cluster's ingress configuration that a JSON value holds. -/
def clusterIngressOfJson? (j : Json) : Option Object := do
  let fs ← Shape.conformFields? Schema.clusterIngressFields (← j.obj?)
  some {
    metadata := ← fs.value? "metadata"
    content := .clusterIngress (← (fs.get? "spec").bind ClusterIngressSpec.ofVerbatim?) }

end Object

end VolumeMigration
