import VolumeMigration.Transport.Stunnel
/-!
# Transports

What lies between the client and the server of a transfer: a tunnel, or nothing.
`Transport.target` is where a client connects to.
-/

namespace VolumeMigration

inductive TransportType where
  | stunnel
  | none
deriving DecidableEq, Repr

namespace TransportType

def name : TransportType → String
  | stunnel => "stunnel"
  | none => "null"

instance : ToString TransportType := ⟨name⟩

def ofName (s : String) : Result TransportType :=
  if s == "stunnel" then .ok stunnel
  else if s == "null" || s == "none" then .ok none
  else .error (.configuration (.unknownTransportType s))

end TransportType

inductive Transport where
  | stunnel (tunnel : Stunnel)
  /-- No tunnel, with the port of the endpoint once a side was created. -/
  | direct (port : Option Nat)
deriving BEq, Repr

namespace Transport

def type : Transport → TransportType
  | stunnel _ => .stunnel
  | direct _ => .none

/-- Whether clients talk to the endpoint without a tunnel. -/
def isDirect : Transport → Bool
  | stunnel _ => false
  | direct _ => true

/-- The port of the transport in the client's pod, or of the endpoint without a tunnel. -/
def port? : Transport → Option Nat
  | stunnel _ => some Stunnel.clientPort
  | direct port => port

def serverContainers : Transport → List Container
  | stunnel t => t.serverContainers
  | direct _ => []

def serverVolumes : Transport → List Volume
  | stunnel t => t.serverVolumes
  | direct _ => []

def clientContainers : Transport → List Container
  | stunnel t => t.clientContainers
  | direct _ => []

def clientVolumes : Transport → List Volume
  | stunnel t => t.clientVolumes
  | direct _ => []

/-- Where a client connects to: the endpoint itself, or the tunnel in its own pod. -/
def target (e : Endpoint) (t : Transport) : Result Address :=
  if t.isDirect then Address.ofEndpoint e
  else match t.port? with
    | some port => .ok ⟨"localhost", port⟩
    | none => .error (.configuration (.transportWithoutPort t.type.name))

/-- Changes the tunnel, if the transport is one. -/
def onTunnel (t : Stunnel) (a : Attempt (Stunnel × Cluster) Unit) : Attempt (Transport × Cluster) Unit :=
  Attempt.within (fun s => (t, s.2)) (fun s _ => (.stunnel s.1, s.2)) a

/-- Creates or updates the server's side, which leads to a port of its own host. Side-cars end
once the control file is there. -/
def createServer (issued : TlsMaterial) (id : String) (e : Endpoint) (backendPort : Nat)
    (controlFile : Option String) : Attempt (Transport × Cluster) Unit := do
  match (← get).1 with
  | .stunnel t => onTunnel t (Stunnel.createServer issued id e backendPort controlFile)
  | .direct _ => modify fun s => (.direct e.port?, s.2)

/-- Creates or updates the client's side in a namespace. -/
def createClient (ns id : String) (e : Endpoint) (controlFile : Option String) :
    Attempt (Transport × Cluster) Unit := do
  match (← get).1 with
  | .stunnel t => onTunnel t (Stunnel.createClient ns id e controlFile)
  | .direct _ => modify fun s => (.direct e.port?, s.2)

/-- The transport whose server's side exists in a namespace. -/
def discover (type : TransportType) (ns id : String) (options : StunnelOptions) : Attempt Cluster Transport :=
  match type with
  | .stunnel => do return .stunnel (← Stunnel.discover ns id options)
  | .none => return .direct none

end Transport

end VolumeMigration
