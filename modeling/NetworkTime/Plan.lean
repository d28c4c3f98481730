import NetworkTime.Address.Parser
import NetworkTime.ServerError
import NetworkTime.Service

/-! What a server is to be: its address, what it says about itself, whom it serves and how often. -/

namespace NetworkTime

/-- A server before it starts. -/
structure Plan where
  listen : String := "0.0.0.0:123"
  state : SystemState := {}
  access : AccessControl := {}
  rateLimit : Option RateLimit := none
  maxClients : Nat := 100000
  workers : Nat := 4

namespace Plan
variable {κ σ : Type}

/-- Serves one more network, and from then on only the networks named in this way. -/
def allowing (p : Plan) (net : Network) : Plan :=
  { p with access.allow := some (p.access.allow.getD [] ++ [net]) }

/-- Serves one network less. -/
def denying (p : Plan) (net : Network) : Plan :=
  { p with access.deny := some (p.access.deny.getD [] ++ [net]) }

/-- The endpoint to listen on, if nothing stands against the plan. -/
def endpoint (p : Plan) : Except SetupFault Endpoint :=
  match p.state.fault? with
  | some fault => .error fault
  | none =>
    if p.workers = 0 then .error .noWorkers
    else match Endpoint.parse? p.listen.toList with
      | some e => .ok e
      | none => .error (.invalidListenAddress p.listen Endpoint.malformed)

/-- Starts to listen. Whether that is possible, and what is then listened with, is for the system
to say. -/
def bind (p : Plan) (listen : Endpoint → Except SystemFailure σ) :
    Except ServerError (Endpoint × σ) := do
  let e ← p.endpoint.mapError .setup
  return (e, ← (listen e).mapError .system)

/-- The service that the plan describes, before its first datagram. -/
def service (p : Plan) (clock : κ) (metrics : Option Metrics) : Service κ where
  state := p.state
  access := p.access
  rateLimit := p.rateLimit
  clients := .empty p.maxClients
  clock := clock
  metrics := metrics

end Plan
end NetworkTime
