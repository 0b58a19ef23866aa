import VolumeMigration.Cluster.Metadata
/-!
# Services, routes and ingresses

How pods are reached. Fields that a migration does not look at are kept in
`rest`; a route keeps only the fields listed here.
-/

namespace VolumeMigration

/-- A port, by its number or by the name that it has elsewhere. -/
inductive PortRef where
  | number (n : Int)
  | name (s : String)
deriving DecidableEq, Repr

structure ServicePort where
  port : Int
  name : Option String := none
  protocol : Option String := none
  targetPort : Option PortRef := none
  nodePort : Option Int := none
  rest : Fields := []
deriving BEq, Repr

structure ServiceSpec where
  type : Option String := none
  clusterIP : Option String := none
  selector : Option StringMap := none
  ports : Option (List ServicePort) := none
  rest : Fields := []
deriving BEq, Repr, Inhabited

/-- An address of a load balancer. -/
structure LoadBalancerPoint where
  hostname : Option String := none
  ip : Option String := none
  rest : Fields := []
deriving BEq, Repr

structure LoadBalancer where
  points : Option (List LoadBalancerPoint) := none
deriving BEq, Repr

/-- The state of a service or an ingress. -/
structure BalancedStatus where
  loadBalancer : Option LoadBalancer := none
  rest : Fields := []
deriving BEq, Repr

/-- What a route leads to. -/
structure RouteTarget where
  kind : String
  name : String
  weight : Option Int := none
deriving DecidableEq, Repr

/-- How a route treats TLS. -/
structure RouteTls where
  termination : String
  insecurePolicy : Option String := none
deriving DecidableEq, Repr

structure RouteSpec where
  target : RouteTarget
  host : Option String := none
  port : Option PortRef := none
  tls : Option RouteTls := none
deriving DecidableEq, Repr

/-- A route as a router admitted it. -/
structure RoutePoint where
  host : Option String := none
  routerName : Option String := none
deriving DecidableEq, Repr

structure RouteStatus where
  points : List RoutePoint := []
deriving DecidableEq, Repr

/-- A service behind an ingress path. -/
structure BackendService where
  name : String
  port : Option Fields := none
deriving BEq, Repr

structure IngressBackend where
  service : Option BackendService := none
  rest : Fields := []
deriving BEq, Repr

structure IngressPath where
  backend : IngressBackend
  path : Option String := none
  pathType : String
deriving BEq, Repr

structure IngressRule where
  host : Option String := none
  paths : Option (List IngressPath) := none
deriving BEq, Repr

structure IngressSpec where
  className : Option String := none
  rules : Option (List IngressRule) := none
  rest : Fields := []
deriving BEq, Repr, Inhabited

/-- The cluster's own ingress configuration, with the domain of its apps. -/
structure ClusterIngressSpec where
  domain : String := ""
  rest : Fields := []
deriving BEq, Repr, Inhabited

/-! ## JSON forms -/

instance : JsonForm PortRef where
  toJson
    | .number n => .int n
    | .name s => .str s
  ofJson?
    | .int n => some (.number n)
    | .str s => some (.name s)
    | _ => none

instance : JsonForm ServicePort where
  toJson p := .obj
    (Fields.member "port" p.port ++ Fields.present "name" p.name ++ Fields.present "protocol" p.protocol ++
      Fields.present "targetPort" p.targetPort ++ Fields.present "nodePort" p.nodePort ++ p.rest)
  ofJson? j := do
    let fs ← j.obj?
    some {
      port := ← fs.value? "port"
      name := ← fs.optional? "name"
      protocol := ← fs.optional? "protocol"
      targetPort := ← fs.optional? "targetPort"
      nodePort := ← fs.optional? "nodePort"
      rest := fs.without ["port", "name", "protocol", "targetPort", "nodePort"] }

instance : JsonForm ServiceSpec where
  toJson s := .obj
    (Fields.present "type" s.type ++ Fields.present "clusterIP" s.clusterIP ++
      Fields.present "selector" s.selector ++ Fields.present "ports" s.ports ++ s.rest)
  ofJson? j := do
    let fs ← j.obj?
    some {
      type := ← fs.optional? "type"
      clusterIP := ← fs.optional? "clusterIP"
      selector := ← fs.optional? "selector"
      ports := ← fs.optional? "ports"
      rest := fs.without ["type", "clusterIP", "selector", "ports"] }

instance : JsonForm LoadBalancerPoint where
  toJson p := .obj (Fields.present "hostname" p.hostname ++ Fields.present "ip" p.ip ++ p.rest)
  ofJson? j := do
    let fs ← j.obj?
    some { hostname := ← fs.optional? "hostname", ip := ← fs.optional? "ip", rest := fs.without ["hostname", "ip"] }

instance : JsonForm LoadBalancer where
  toJson b := .obj (Fields.present "ingress" b.points)
  ofJson? j := do
    let fs ← j.obj?
    some { points := ← fs.optional? "ingress" }

instance : JsonForm BalancedStatus where
  toJson s := .obj (Fields.present "loadBalancer" s.loadBalancer ++ s.rest)
  ofJson? j := do
    let fs ← j.obj?
    some { loadBalancer := ← fs.optional? "loadBalancer", rest := fs.without ["loadBalancer"] }

instance : JsonForm RouteTarget where
  toJson t := .obj (Fields.member "kind" t.kind ++ Fields.member "name" t.name ++ Fields.present "weight" t.weight)
  ofJson? j := do
    let fs ← j.obj?
    some { kind := ← fs.value? "kind", name := ← fs.value? "name", weight := ← fs.optional? "weight" }

instance : JsonForm RouteTls where
  toJson t := .obj
    (Fields.member "termination" t.termination ++
      Fields.present "insecureEdgeTerminationPolicy" t.insecurePolicy)
  ofJson? j := do
    let fs ← j.obj?
    some {
      termination := ← fs.value? "termination"
      insecurePolicy := ← fs.optional? "insecureEdgeTerminationPolicy" }

instance : JsonForm RouteSpec where
  toJson s := .obj
    (Fields.present "host" s.host ++ Fields.member "to" s.target ++
      Fields.opt "port" (fun p => .obj (Fields.member "targetPort" p)) s.port ++ Fields.present "tls" s.tls)
  ofJson? j := do
    let fs ← j.obj?
    some {
      target := ← fs.value? "to"
      host := ← fs.optional? "host"
      port := ← ((fs.get? "port").bind Json.obj?).getD [] |>.optional? "targetPort"
      tls := ← fs.optional? "tls" }

instance : JsonForm RoutePoint where
  toJson p := .obj (Fields.present "host" p.host ++ Fields.present "routerName" p.routerName)
  ofJson? j := do
    let fs ← j.obj?
    some { host := ← fs.optional? "host", routerName := ← fs.optional? "routerName" }

/-- An empty list of routers is not written. -/
instance : JsonForm RouteStatus where
  toJson s := .obj (if s.points.isEmpty then [] else Fields.member "ingress" s.points)
  ofJson? j := do
    let fs ← j.obj?
    some { points := (← fs.optional? "ingress").getD [] }

instance : JsonForm BackendService where
  toJson s := .obj (Fields.member "name" s.name ++ Fields.opt "port" .obj s.port)
  ofJson? j := do
    let fs ← j.obj?
    some { name := ← fs.value? "name", port := (fs.get? "port").bind Json.obj? }

instance : JsonForm IngressBackend where
  toJson b := .obj (Fields.present "service" b.service ++ b.rest)
  ofJson? j := do
    let fs ← j.obj?
    some { service := ← fs.optional? "service", rest := fs.without ["service"] }

instance : JsonForm IngressPath where
  toJson p := .obj
    (Fields.member "backend" p.backend ++ Fields.present "path" p.path ++ Fields.member "pathType" p.pathType)
  ofJson? j := do
    let fs ← j.obj?
    some { backend := ← fs.value? "backend", path := ← fs.optional? "path", pathType := ← fs.value? "pathType" }

instance : JsonForm IngressRule where
  toJson r := .obj
    (Fields.present "host" r.host ++ Fields.opt "http" (fun ps => .obj (Fields.member "paths" ps)) r.paths)
  ofJson? j := do
    let fs ← j.obj?
    some {
      host := ← fs.optional? "host"
      paths := ← ((fs.get? "http").bind Json.obj?).getD [] |>.optional? "paths" }

instance : JsonForm IngressSpec where
  toJson s := .obj
    (Fields.present "ingressClassName" s.className ++ Fields.present "rules" s.rules ++ s.rest)
  ofJson? j := do
    let fs ← j.obj?
    some {
      className := ← fs.optional? "ingressClassName"
      rules := ← fs.optional? "rules"
      rest := fs.without ["ingressClassName", "rules"] }

namespace ClusterIngressSpec

def toJson (s : ClusterIngressSpec) : Json := .obj (Fields.member "domain" s.domain ++ s.rest)

/-- All fields besides the domain are kept as they are; the domain may be missing but not null. -/
def ofVerbatim? (j : Json) : Option ClusterIngressSpec := do
  let fs ← j.obj?
  let domain : Option String ← fs.optional? "domain"
  some { domain := domain.getD "", rest := fs.without ["domain"] }

end ClusterIngressSpec

end VolumeMigration
