import NetworkTime.Config.Check

/-! The server that a configuration asks for. -/

namespace NetworkTime.Config

/-- Why a configuration asks for no server. None of it happens once the configuration has no
problems. -/
inductive ServingFault
  | listenAddress (problem : Problem)
  | network (fault : SetupFault)
deriving DecidableEq, Repr

def ServingFault.message : ServingFault → String
  | listenAddress problem => invalidMessage [problem]
  | network fault => fault.message

/-- Changes a plan by each of the networks that a list names. -/
def withNetworks (change : Plan → Network → Plan) (p : Plan) :
    List String → Except ServingFault Plan
  | [] => .ok p
  | text :: texts =>
    match Network.parse text.toList with
    | .error fault => .error (.network (Problem.networkFault text fault))
    | .ok net => withNetworks change (change p net) texts

/-- At most so many requests of one client in a minute, with no gap asked for between them. -/
def perMinute (count : UInt32) : Option RateLimit :=
  if 0 < count then some { maxRequests := count, window := 60000000000, minInterval := 0 }
  else none

/-- The server that the configuration asks for. -/
def plan (c : Config) : Except ServingFault Plan := do
  let endpoint ← c.endpoint.mapError .listenAddress
  let base : Plan :=
    { listen := endpoint.text
      state :=
        { leap := c.server.leap
          stratum := c.server.stratum
          poll := c.server.poll
          precision := c.server.precision
          referenceId := .ofText c.server.referenceId }
      maxClients := c.performance.maxClients.toNat
      workers := c.performance.workerThreads.toNat }
  let allowed := if c.security.restrictQueries then c.security.allowedClients else []
  let open' ← withNetworks .allowing base allowed
  let closed ← withNetworks .denying open' c.security.deniedClients
  return { closed with rateLimit := perMinute c.security.rateLimit }

end NetworkTime.Config
