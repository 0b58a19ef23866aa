import VolumeMigration.Cluster.Store
import VolumeMigration.Endpoint.Manifest
/-!
# Life of an endpoint

Creation and labelling attempt every object of an endpoint and report all that
fail together; nothing is taken back. `isHealthy` reads the address that a
cluster assigned, and `discover` finds an endpoint that was created before.
-/

namespace VolumeMigration.Endpoint

/-- The kinds of an endpoint's objects, the service first. -/
def kinds (e : Endpoint) : List Kind :=
  match e.type with
  | .route => [.service, .route]
  | .ingress => [.service, .ingress]
  | .service => [.service]

/-- The cluster's configuration of its ingress. -/
def clusterIngressName : String := "cluster"

/-- The domain of the cluster's apps. -/
def appsDomain : Attempt Cluster String := do
  match ← Cluster.clusterIngress? clusterIngressName with
  | none => throw (.notFound "Ingress.config.openshift.io" ⟨"", clusterIngressName⟩)
  | some o =>
    match o.content with
    | .clusterIngress spec =>
      if spec.domain.isEmpty then throw (.configuration .noAppsDomain) else return spec.domain
    | _ => throw (.configuration .noAppsDomain)

/-- The host of a route, if it has to be chosen. -/
def routeHost (e : Endpoint) (subdomain : Option String) : Attempt Cluster (Option String) :=
  match e.hostLabel? with
  | none => pure none
  | some label => do
    let domain ← match subdomain with
      | some domain => pure domain
      | none => appsDomain
    return some s!"{label}.{domain}"

/-- Creates an object, whatever the cluster makes of it. -/
def createObject (o : Object) : Attempt Cluster Unit := do
  let _ ← Cluster.create o

/-- Creates the route or the ingress in front of the service, if there is one. -/
def createRouters (e : Endpoint) : List (Attempt Cluster Unit) :=
  match e.entry with
  | .route termination subdomain _ => [do createObject (e.route termination (← e.routeHost subdomain))]
  | .ingress className hostname => [createObject (e.ingress className hostname)]
  | _ => []

/-- Creates the objects of an endpoint, none of which may exist. -/
def create (e : Endpoint) : Attempt Cluster Unit :=
  Attempt.all s!"{e.type} endpoint {e.name}" (createObject e.service :: e.createRouters)

/-- Adds a label to an object of the endpoint. -/
def labelObject (e : Endpoint) (key value : String) (k : Kind) : Attempt Cluster Unit := do
  let o ← Cluster.require k e.name
  let _ ← Cluster.update { o with metadata := o.metadata.label key value }

/-- Labels every object of an endpoint, so that others find what they have to remove. -/
def markForCleanup (e : Endpoint) (key value : String) : Attempt Cluster Unit :=
  Attempt.all s!"cleanup labels for {e.type} endpoint {e.name}" (e.kinds.map (e.labelObject key value))

/-- A text that is there and not empty. -/
def filled (s : Option String) : Option String := s.filter (!·.isEmpty)

/-- The address of a point of a load balancer, its host before its number. -/
def pointAddress? (p : LoadBalancerPoint) : Option String :=
  (filled p.hostname).orElse fun _ => filled p.ip

/-- The points of a service's or an ingress' load balancer. -/
def points (status : Option BalancedStatus) : List LoadBalancerPoint :=
  ((status.bind (·.loadBalancer)).bind (·.points)).getD []

/-- The kind of the object that shows whether the endpoint can be reached. -/
def watchedKind (e : Endpoint) : Kind :=
  match e.type with
  | .route => .route
  | .ingress => .ingress
  | .service => .service

/-- The endpoint with what the watched object says of its address, and whether it can be reached. -/
def observe (e : Endpoint) (o : Object) : Result (Endpoint × Bool) :=
  match e.entry, o.content with
  | .route termination subdomain _, .route _ status =>
    match (status.bind (·.points.head?)).bind fun p => filled p.host with
    | some host => .ok ({ e with entry := .route termination subdomain (some host) }, true)
    | none => .ok (e, false)
  | .ingress .., .ingress _ status => .ok (e, (points status).any fun p => (pointAddress? p).isSome)
  | .clusterIP, .service spec _ =>
    .ok (e, ((spec.bind fun s => filled s.clusterIP).any (· != "None")))
  | .nodePort address _, .service spec _ =>
    match ((spec.bind (·.ports)).bind (·.head?)).bind (·.nodePort) with
    | none => .ok (e, false)
    | some port =>
      if 0 ≤ port ∧ port ≤ Text.maxUInt16 then
        .ok ({ e with entry := .nodePort address (some port.toNat) }, true)
      else .error (.configuration (.nodePortOutOfRange e.name port))
  | .loadBalancer _, .service _ status =>
    match (points status).head?.bind pointAddress? with
    | some address => .ok ({ e with entry := .loadBalancer (some address) }, true)
    | none => .ok (e, false)
  | _, _ => .ok (e, false)

/-- Whether the endpoint can be reached, learning its address on the way. -/
def isHealthy : Attempt (Endpoint × Cluster) Bool := do
  let (e, _) ← get
  let o ← Attempt.onSecond (Cluster.require e.watchedKind e.name)
  let (e, healthy) ← Attempt.ofResult (e.observe o)
  modify fun s => (e, s.2)
  return healthy

/-- The labels of the pods that a service selects. -/
def labelsOf (service : Object) : StringMap :=
  match service.content with
  | .service spec _ => (spec.bind (·.selector)).getD .empty
  | _ => .empty

/-- The route endpoint that a route belongs to. -/
def ofRouteObject (name : ObjectName) (labels : StringMap) (o : Object) : Result Endpoint :=
  let termination := match o.content with
    | .route spec _ => spec.tls.bind fun tls => Termination.ofName? tls.termination
    | _ => none
  match termination with
  | some t => .ok (ofRoute name labels t none)
  | none => .error (.configuration (.routeWithoutTermination name))

/-- The ingress endpoint that an ingress belongs to. -/
def ofIngressObject (name : ObjectName) (labels : StringMap) (o : Object) : Result Endpoint :=
  let spec := match o.content with
    | .ingress spec _ => spec.getD {}
    | _ => {}
  match (spec.rules.bind (·.head?)).bind (·.host) with
  | some host => .ok { name, labels, entry := .ingress spec.className host }
  | none => .error (.configuration (.ingressWithoutHost name))

/-- The endpoint that is a service of its own. -/
def ofServiceObject (name : ObjectName) (o : Object) : Result Endpoint :=
  let typeName := match o.content with
    | .service spec _ => (spec.bind (·.type)).getD ServiceType.clusterIP.name
    | _ => ServiceType.clusterIP.name
  match ServiceType.ofName? typeName with
  | none => .error (.configuration (.unsupportedServiceType name typeName))
  | some .clusterIP => .ok (ofClusterIP name (labelsOf o))
  | some .loadBalancer => .ok (ofLoadBalancer name (labelsOf o))
  | some .nodePort =>
    match o.metadata.annotation? nodeAddressKey with
    | some address => .ok (ofNodePort name (labelsOf o) address)
    | none => .error (.configuration (.serviceWithoutKey name nodeAddressKey))

/-- The endpoint that the objects of a name make up. -/
def ofObjects (type : EndpointType) (name : ObjectName) : Attempt Cluster Endpoint := do
  let service ← Cluster.require .service name
  match type with
  | .route => Attempt.ofResult (ofRouteObject name (labelsOf service) (← Cluster.require .route name))
  | .ingress => Attempt.ofResult (ofIngressObject name (labelsOf service) (← Cluster.require .ingress name))
  | .service => Attempt.ofResult (ofServiceObject name service)

/-- Finds an endpoint that exists, with as much of its address as is known. -/
def discover (type : EndpointType) (name : ObjectName) : Attempt Cluster Endpoint := do
  let e ← ofObjects type name
  let (outcome, e, c) := Attempt.outcome isHealthy (e, ← get)
  set c
  let _ ← Attempt.ofResult outcome
  return e

end VolumeMigration.Endpoint
