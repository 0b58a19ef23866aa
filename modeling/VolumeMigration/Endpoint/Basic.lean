import VolumeMigration.Cluster.Object
import VolumeMigration.Failure
import VolumeMigration.Label
/-!
# Endpoints

An endpoint is where clients reach the server pods of a transfer: a Service that
selects the pods by the endpoint's labels, alone or behind a Route or an Ingress.
Its address is known from the start, or is found out from the cluster later.
-/

namespace VolumeMigration

inductive EndpointType where
  | route
  | ingress
  | service
deriving DecidableEq, Repr

namespace EndpointType

def name : EndpointType → String
  | route => "route"
  | ingress => "ingress"
  | service => "service"

instance : ToString EndpointType := ⟨name⟩

def ofName (s : String) : Result EndpointType :=
  match [route, ingress, service].find? (·.name == s) with
  | some t => .ok t
  | none => .error (.configuration (.unknownEndpointType s))

end EndpointType

/-- Where a route ends TLS. -/
inductive Termination where
  /-- At the router, which forwards plain traffic. -/
  | edge
  /-- Behind the router, which forwards by the name the client asks for. -/
  | passthrough
deriving DecidableEq, Repr

namespace Termination

def name : Termination → String
  | edge => "edge"
  | passthrough => "passthrough"

def ofName? (s : String) : Option Termination := [edge, passthrough].find? (·.name == s)

end Termination

inductive ServiceType where
  | clusterIP
  | nodePort
  | loadBalancer
deriving DecidableEq, Repr

namespace ServiceType

def name : ServiceType → String
  | clusterIP => "ClusterIP"
  | nodePort => "NodePort"
  | loadBalancer => "LoadBalancer"

def ofName? (s : String) : Option ServiceType := [clusterIP, nodePort, loadBalancer].find? (·.name == s)

end ServiceType

/-- The way into a cluster, with what is known of its address. -/
inductive Entry where
  /-- A route, whose host the router decides on. A subdomain stands for the domain of the
  cluster's apps where the host has to be chosen. -/
  | route (termination : Termination) (subdomain hostname : Option String)
  /-- An ingress that passes TLS on, under a host that is known from the start. -/
  | ingress (className : Option String) (hostname : String)
  /-- A service reached from within the cluster. -/
  | clusterIP
  /-- A service on an address of a node and a port that the cluster assigns. -/
  | nodePort (address : String) (port : Option Nat)
  /-- A service on the address of a load balancer. -/
  | loadBalancer (address : Option String)
deriving DecidableEq, Repr

structure Endpoint where
  /-- The namespace and the name of every object of the endpoint. -/
  name : ObjectName
  /-- The labels of the server pods. -/
  labels : StringMap
  entry : Entry
deriving DecidableEq, Repr

namespace Endpoint

/-- The port on which server pods take the traffic of an endpoint. -/
def exposedPort : Nat := 6443

/-- The port on which clients reach routes and ingresses. -/
def routedPort : Nat := 443

def ofRoute (name : ObjectName) (labels : StringMap) (termination : Termination) (subdomain : Option String) :
    Endpoint :=
  { name, labels, entry := .route termination subdomain none }

def ofIngress (name : ObjectName) (labels : StringMap) (subdomain : String) (className : Option String) :
    Endpoint :=
  { name, labels, entry := .ingress className s!"{name.name}-{name.ns}.{subdomain}" }

def ofClusterIP (name : ObjectName) (labels : StringMap) : Endpoint := { name, labels, entry := .clusterIP }

def ofNodePort (name : ObjectName) (labels : StringMap) (address : String) : Endpoint :=
  { name, labels, entry := .nodePort address none }

def ofLoadBalancer (name : ObjectName) (labels : StringMap) : Endpoint :=
  { name, labels, entry := .loadBalancer none }

def type (e : Endpoint) : EndpointType :=
  match e.entry with
  | .route .. => .route
  | .ingress .. => .ingress
  | .clusterIP | .nodePort .. | .loadBalancer _ => .service

/-- What kind of service an endpoint without a router is. -/
def serviceType? (e : Endpoint) : Option ServiceType :=
  match e.entry with
  | .clusterIP => some .clusterIP
  | .nodePort .. => some .nodePort
  | .loadBalancer _ => some .loadBalancer
  | .route .. | .ingress .. => none

/-- Where a routed endpoint ends TLS. -/
def termination? (e : Endpoint) : Option Termination :=
  match e.entry with
  | .route termination _ _ => some termination
  | _ => none

/-- The selector of the server pods. -/
def selector (e : Endpoint) : String := Label.selector e.labels

/-- The host that clients connect to, once it is known. -/
def hostname? (e : Endpoint) : Option String :=
  match e.entry with
  | .route _ _ hostname => hostname
  | .ingress _ hostname => some hostname
  | .clusterIP => some s!"{e.name.name}.{e.name.ns}.svc.cluster.local"
  | .nodePort address _ => some address
  | .loadBalancer address => address

/-- The port that clients connect to, once it is known. -/
def port? (e : Endpoint) : Option Nat :=
  match e.entry with
  | .route .. | .ingress .. => some routedPort
  | .clusterIP | .loadBalancer _ => some exposedPort
  | .nodePort _ port => port

/-- Whether the endpoint ends TLS, so that clients speak TLS to it and the server does not. -/
def terminatesTls (e : Endpoint) : Bool := e.termination? == some .edge

/-- Whether traffic has to be TLS when it reaches the endpoint. -/
def requiresTls (e : Endpoint) : Bool :=
  match e.entry with
  | .route termination _ _ => termination == .passthrough
  | .ingress .. => true
  | _ => false

end Endpoint

/-- A host and a port to connect to. -/
structure Address where
  hostname : String
  port : Nat
deriving DecidableEq, Repr

namespace Address

def display (a : Address) : String := s!"{a.hostname}:{a.port}"

/-- The address of an endpoint, which has to be known. -/
def ofEndpoint (e : Endpoint) : Result Address :=
  match e.hostname?, e.port? with
  | none, _ => .error (.configuration (.endpointWithoutHostname e.name))
  | some _, none => .error (.configuration (.endpointWithoutPort e.name))
  | some hostname, some port => .ok ⟨hostname, port⟩

end Address

end VolumeMigration
