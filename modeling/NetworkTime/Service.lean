import NetworkTime.Access
import NetworkTime.ClientTable
import NetworkTime.Log
import NetworkTime.Metrics
import NetworkTime.Request
import NetworkTime.Response

/-! What becomes of a datagram: it is dropped, or answered as its sender may be answered. -/

namespace NetworkTime

/-- What a datagram comes to. -/
inductive Outcome
  | respond (bytes : Bytes)
  | drop (reason : DropReason)
deriving DecidableEq, Repr

/-- Everything that the answer to a datagram depends on, or changes. -/
structure Service (κ : Type) where
  state : SystemState := {}
  access : AccessControl := {}
  rateLimit : Option RateLimit := none
  clients : ClientTable
  clock : κ
  metrics : Option Metrics := none

/-- A datagram as it arrives: its bytes, its sender, the timestamp of its arrival, and the moment
of it on the clock that runs on its own. -/
structure Arrival where
  bytes : Bytes
  client : Address
  received : Timestamp
  moment : Nat
deriving DecidableEq, Repr

namespace RequestFault

def dropReason : RequestFault → DropReason
  | tooShort _ => .tooShort
  | invalid _ => .invalid
  | unexpectedMode _ => .notClientRequest

end RequestFault

namespace Service
variable {κ : Type} [Clock κ]

/-- A datagram that was handled, and the service after it. -/
structure Handled (κ : Type) where
  outcome : Outcome
  service : Service κ
  log : List Log.Event

/-- Changes the counters, if there are any. -/
def count (s : Service κ) (f : Metrics → Metrics) : Service κ :=
  { s with metrics := s.metrics.map f }

def event (level : Log.Level) (message : String) (client : Address)
    (fields : List (String × String)) : Log.Event :=
  { level, source := "ntp_server::server_common::pipeline", message
    fields := ("client", client.text) :: fields }

/-- Leaves a datagram without an answer. -/
def dropped (s : Service κ) (client : Address) (fault : RequestFault) : Handled κ where
  outcome := .drop fault.dropReason
  service := s.count (·.countDrop fault.dropReason)
  log :=
    let detail := [("error", fault.message)]
    match fault with
    | .unexpectedMode _ => [event .debug "ignoring non-client packet" client detail]
    | _ => [event .warn "dropping datagram" client detail]

/-- Sends an answer. -/
def responded (s : Service κ) (response : Packet) (log : List Log.Event) : Handled κ :=
  let (bytes, clock) := Response.send response s.clock
  { outcome := .respond bytes, service := { s with clock }, log }

/-- Turns a client away. -/
def kissed (s : Service κ) (request : Packet) (k : Kiss) (log : List Log.Event) : Handled κ :=
  (s.count (·.countKiss k)).responded (Response.kiss request k) log

/-- Records the request of a client in the table, if the rate is limited. -/
def judged (s : Service κ) (client : Address) (moment : Nat) : Verdict × Service κ :=
  match s.rateLimit with
  | none => (.allow, s)
  | some limit =>
    let (verdict, clients) := s.clients.judge client moment limit
    (verdict, { s with clients }.count (·.setActiveClients clients.size))

/-- Handles a request: a client that has no access or asks too often is turned away, and any other
is answered. -/
def answered (s : Service κ) (request : Packet) (a : Arrival) : Handled κ :=
  match (s.access.check a.client).kiss? with
  | some k => s.kissed request k [event .debug "refusing client" a.client [("code", k.code)]]
  | none =>
    match s.judged a.client a.moment with
    | (.rateExceeded, s) => s.kissed request .rate [event .debug "rate limit exceeded" a.client []]
    | (.allow, s) => s.responded (Response.answer request s.state a.received) []

/-- Handles a datagram. -/
def handle (s : Service κ) (a : Arrival) : Handled κ :=
  let s := s.count (·.countRequest)
  match Request.ofDatagram a.bytes with
  | .error fault => s.dropped a.client fault
  | .ok request => s.answered request a

end Service
end NetworkTime
