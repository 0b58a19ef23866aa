import VolumeMigration.ObjectName
import VolumeMigration.Text.Cut
/-!
# Failures

What can go wrong, grouped by how a caller should react. A validation failure
lists every problem found in the input before anything was created; a partial
creation lists every part of an object group that failed while the other parts
were created. The wording is in `Failure.message` alone.
-/

namespace VolumeMigration

/-- An unsupported or inconsistent configuration. -/
inductive Misconfiguration where
  | noNamespace (kind name : String)
  | noAppsDomain
  | routeWithoutTermination (route : ObjectName)
  | ingressWithoutHost (ingress : ObjectName)
  | nodePortOutOfRange (service : ObjectName) (port : Int)
  | unsupportedServiceType (service : ObjectName) (type : String)
  | serviceWithoutKey (service : ObjectName) (key : String)
  | nodePortWithoutAddress
  | endpointWithoutHostname (endpoint : ObjectName)
  | endpointWithoutPort (endpoint : ObjectName)
  | transportWithoutPort (transport : String)
  | clientWithoutMaterial
  | secretWithoutKey (secret key : String)
  | endpointOutsideDestination (endpoint : ObjectName) (ns : String)
  | endpointNeedsTunnel (type : String) (endpoint : ObjectName)
  | endpointTerminatesTls (endpoint : ObjectName)
  | filesystemVolumes
  | blockVolumes (transfer : String)
  | noCompletionReport (transfer : String)
  | unknownEndpointType (name : String)
  | unknownTransportType (name : String)
  | unknownTransferType (name : String)
  | other (message : String)
deriving DecidableEq, Repr

namespace Misconfiguration

def message : Misconfiguration → String
  | noNamespace kind name => s!"{kind} {name} has no namespace"
  | noAppsDomain => "cluster ingress config has no apps domain"
  | routeWithoutTermination route => s!"route {route} has no edge or passthrough TLS termination"
  | ingressWithoutHost ingress => s!"ingress {ingress} has no host rule"
  | nodePortOutOfRange service port => s!"service {service} reports node port {port} out of range"
  | unsupportedServiceType service type => s!"service {service} has unsupported type {type}"
  | serviceWithoutKey service key => s!"node port service {service} has no {key} annotation"
  | nodePortWithoutAddress => "nodeport service endpoint needs nodeAddress"
  | endpointWithoutHostname endpoint => s!"endpoint {endpoint} has no hostname yet"
  | endpointWithoutPort endpoint => s!"endpoint {endpoint} has no port yet"
  | transportWithoutPort transport => s!"{transport} transport has no port"
  | clientWithoutMaterial =>
    "stunnel client needs TLS material: create the server side or discover it first"
  | secretWithoutKey secret key => s!"secret {secret} is missing key {key}"
  | endpointOutsideDestination endpoint ns => s!"endpoint {endpoint} is not in destination namespace {ns}"
  | endpointNeedsTunnel type endpoint =>
    s!"{type} endpoint {endpoint} only passes TLS traffic and needs a tunnelling transport"
  | endpointTerminatesTls endpoint =>
    s!"endpoint {endpoint} terminates TLS; only rclone over a direct transport can use it"
  | filesystemVolumes => "blockrsync copies block or VM-disk volumes, not filesystem volumes"
  | blockVolumes transfer => s!"{transfer} copies filesystem volumes; use blockrsync for block or VM-disk volumes"
  | noCompletionReport transfer => s!"{transfer} transfers do not report client completion"
  | unknownEndpointType name => s!"unknown endpoint type '{name}', expected route, ingress or service"
  | unknownTransportType name => s!"unknown transport type '{name}', expected stunnel or null"
  | unknownTransferType name => s!"unknown transfer type '{name}', expected rsync, rclone or blockrsync"
  | other message => message

end Misconfiguration

inductive Failure where
  /-- The cluster's API answered with an error status. -/
  | api (status : Nat) (detail : String)
  /-- The cluster could not be asked. -/
  | connection (detail : String)
  /-- The object to be created exists already. -/
  | conflict (kind : String) (object : ObjectName)
  /-- The object does not exist. -/
  | notFound (kind : String) (object : ObjectName)
  /-- Every problem found in the input, in the order of detection. -/
  | validation (errors : List String)
  | configuration (cause : Misconfiguration)
  /-- The parts of `resource` that could not be created. -/
  | partialCreation (resource : String) (failures : List Failure)
  /-- Text or data that does not hold a value of its kind. -/
  | serialization (kind : Option String) (message : String)
  | certificate (message : String)
  | template (message : String)
  | internal (context message : String)
deriving Repr, Inhabited

/-- A value, or why there is none. -/
abbrev Result (α : Type) := Except Failure α

namespace Failure

mutual

def message : Failure → String
  | api _ detail => "kubernetes error: " ++ detail
  | connection detail => "kubernetes error: " ++ detail
  | conflict kind object => s!"{kind} {object} already exists"
  | notFound kind object => s!"{kind} {object} not found"
  | validation errors => "validation failed: " ++ Text.join "; " errors
  | configuration cause => "configuration error: " ++ cause.message
  | partialCreation resource failures =>
    s!"failed to create {resource}: " ++ Text.join "; " (messages failures)
  | serialization _ message => "serialization error: " ++ message
  | certificate message => "certificate error: " ++ message
  | template message => "template error: " ++ message
  | internal context message => s!"internal error [{context}]: {message}"

def messages : List Failure → List String
  | [] => []
  | f :: fs => message f :: messages fs

end

/-- The name of the group that a failure belongs to. -/
def category : Failure → String
  | api .. | connection _ => "Kube"
  | conflict .. => "Conflict"
  | notFound .. => "NotFound"
  | validation _ => "Validation"
  | configuration _ => "Configuration"
  | partialCreation .. => "PartialCreation"
  | serialization .. => "Serialization"
  | certificate _ => "Certificate"
  | template _ => "Template"
  | internal .. => "Internal"

/-- A failure of the cluster, passed on as it came. -/
def isClusterApi : Failure → Bool
  | api .. | connection .. | conflict .. | notFound .. => true
  | _ => false

def isNotFound : Failure → Bool
  | notFound .. => true
  | api status _ => status == 404
  | _ => false

def isConflict : Failure → Bool
  | conflict .. => true
  | api status _ => status == 409
  | _ => false

/-- The place of an internal failure that names none. -/
def unknownContext : String := "unknown"

/-- Where an internal failure happened. -/
def context? : Failure → Option String
  | internal context _ => some context
  | _ => none

/-- Passes if there are no problems, and reports them all if there are any. -/
def checkValidation (errors : List String) : Result Unit :=
  if errors.isEmpty then .ok () else .error (.validation errors)

/-- Passes if every part of `resource` was created, and reports every failed part else. -/
def checkPartial (resource : String) (failures : List Failure) : Result Unit :=
  if failures.isEmpty then .ok () else .error (.partialCreation resource failures)

theorem checkValidation_eq_ok {errors : List String} : checkValidation errors = .ok () ↔ errors = [] := by
  cases errors <;> simp [checkValidation]

theorem checkPartial_eq_ok {resource : String} {failures : List Failure} :
    checkPartial resource failures = .ok () ↔ failures = [] := by
  cases failures <;> simp [checkPartial]

end Failure

end VolumeMigration
