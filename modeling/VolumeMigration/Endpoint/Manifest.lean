import VolumeMigration.Endpoint.Basic
import VolumeMigration.Manifest
/-!
# The objects of an endpoint

Every endpoint has a Service with one port, which leads to the exposed port of
the pods that carry the endpoint's labels. A route or an ingress leads to it.
-/

namespace VolumeMigration.Endpoint

/-- The name of the one port of every service. -/
def servicePortName : String := "ferry"

/-- The annotation that keeps the node's address of a service on a node port. -/
def nodeAddressKey : String := "ferry.dev/node-address"

/-- The annotation that has the ingress controller pass TLS on. -/
def passthroughKey : String := "nginx.ingress.kubernetes.io/ssl-passthrough"

/-- The annotation that says what the ingress controller speaks to the service. -/
def backendProtocolKey : String := "nginx.ingress.kubernetes.io/backend-protocol"

def metadata (e : Endpoint) : Metadata := Manifest.metadata e.name e.labels

/-- The type of the endpoint's service; routers lead to one within the cluster. -/
def serviceType (e : Endpoint) : ServiceType := e.serviceType?.getD .clusterIP

/-- The annotations of the endpoint's service. -/
def serviceAnnotations (e : Endpoint) : Option StringMap :=
  match e.entry with
  | .nodePort address _ => some (.ofList [(nodeAddressKey, address)])
  | _ => none

def service (e : Endpoint) : Object :=
  { metadata := { e.metadata with annotations := e.serviceAnnotations }
    content := .service
      (some {
        type := some e.serviceType.name
        selector := some e.labels
        ports := some [{
          port := exposedPort
          name := some servicePortName
          protocol := some "TCP"
          targetPort := some (.number exposedPort) }] })
      none }

/-- The route to the endpoint's service, with a host if it has to be chosen. -/
def route (e : Endpoint) (termination : Termination) (host : Option String) : Object :=
  { metadata := e.metadata
    content := .route
      { host
        target := { kind := "Service", name := e.name.name }
        port := some (.number exposedPort)
        tls := some { termination := termination.name } }
      none }

/-- The ingress that leads a host to the endpoint's service. -/
def ingress (e : Endpoint) (className : Option String) (hostname : String) : Object :=
  let path : IngressPath :=
    { path := some "/"
      pathType := "Prefix"
      backend := { service := some { name := e.name.name, port := some [("number", .int exposedPort)] } } }
  { metadata := { e.metadata with
      annotations := some (.ofList [(passthroughKey, "true"), (backendProtocolKey, "HTTPS")]) }
    content := .ingress
      (some { className, rules := some [{ host := some hostname, paths := some [path] }] })
      none }

/-- The most characters of a host's first label. -/
def maxHostLabel : Nat := 62

/-- The first label of the host of a route, if the route's name and namespace are too long for
the router to make it. -/
def hostLabel? (e : Endpoint) : Option String :=
  let label := s!"{e.name.name}-{e.name.ns}"
  if label.utf8ByteSize ≤ maxHostLabel then none
  else
    let kept := ((label.toList.take maxHostLabel).reverse.dropWhile fun c => c == '-' || c == '.').reverse
    some (String.ofList kept)

end VolumeMigration.Endpoint
