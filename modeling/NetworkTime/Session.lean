import NetworkTime.Service

/-! A server at work: datagrams one after another, with changes of its settings between them. -/

namespace NetworkTime

/-- The bytes of a datagram that are read. -/
def receiveLimit : Nat := 2048

/-- What happens to a server at work. -/
inductive Session.Event (κ : Type)
  /-- A datagram arrives. `failure` tells why an answer to it cannot be sent, if it cannot. -/
  | datagram (bytes : Bytes) (sender : Endpoint) (moment : Nat) (failure : Option SystemFailure)
  | setState (state : SystemState)
  | setClock (clock : κ)
  | setAccess (access : AccessControl)
  | setRateLimit (limit : Option RateLimit)

namespace Service
variable {κ : Type} [Clock κ]

/-- Something that happened with a datagram beside its handling. -/
def receiveEvent (level : Log.Level) (message : String) (sender : Endpoint) (name value : String) :
    Log.Event :=
  { level, source := "ntp_server::server", message
    fields := [("client", sender.text), (name, value)] }

/-- Takes a datagram from the network: the clock is read on arrival, what is longer than the limit
is cut off, and an answer counts as sent if it gets away. -/
def receive (s : Service κ) (bytes : Bytes) (sender : Endpoint) (moment : Nat)
    (failure : Option SystemFailure) : Handled κ :=
  let bytes := bytes.take receiveLimit
  let (received, clock) := Clock.now s.clock
  let s := { s with clock }.count (·.countBytesReceived bytes.length)
  let handled := s.handle ⟨bytes, sender.address, received, moment⟩
  match handled.outcome, failure with
  | .drop reason, _ =>
    { handled with
      log := handled.log ++ [receiveEvent .debug "no response" sender "reason" reason.name] }
  | .respond answer, none =>
    { handled with service := handled.service.count (·.countResponse answer.length) }
  | .respond _, some failure =>
    { handled with
      service := handled.service.count (·.countSendError)
      log := handled.log ++ [receiveEvent .warn "send failed" sender "error" failure.message] }

/-- One event, and what a datagram comes to. -/
def step (s : Service κ) : Session.Event κ → Option Outcome × Service κ
  | .datagram bytes sender moment failure =>
    let handled := s.receive bytes sender moment failure
    (some handled.outcome, handled.service)
  | .setState state => (none, { s with state })
  | .setClock clock => (none, { s with clock })
  | .setAccess access => (none, { s with access })
  | .setRateLimit limit => (none, { s with rateLimit := limit })

/-- A whole session: what its datagrams come to, and the service after it. -/
def run (s : Service κ) : List (Session.Event κ) → List Outcome × Service κ
  | [] => ([], s)
  | e :: es =>
    let (outcome, s) := s.step e
    let (outcomes, s) := s.run es
    (outcome.toList ++ outcomes, s)

end Service
end NetworkTime
