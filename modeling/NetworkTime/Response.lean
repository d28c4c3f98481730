import NetworkTime.Clock
import NetworkTime.Packet.Codec
import NetworkTime.SystemState

/-! Answers to requests. The time at which a request left the client comes back in the answer, so
that the client can tell what is answered. -/

namespace NetworkTime.Response
open Wire
variable {κ : Type} [Clock κ]

/-- The usual answer, of which the transmit time is still open. -/
def answer (request : Packet) (state : SystemState) (received : Timestamp) : Packet where
  leap := state.leap
  version := .v4
  mode := .server
  stratum := state.stratum
  poll := state.poll
  precision := state.precision
  rootDelay := state.rootDelay
  rootDispersion := state.rootDispersion
  referenceId := state.referenceId
  referenceTime := received
  originTime := request.transmitTime
  receiveTime := received
  transmitTime := .zero

/-- The usual answer of a server in the usual state, with all its times. -/
def complete (request : Packet) (stratum : UInt8) (reference : String) (clock : κ) :
    Packet × κ :=
  let (received, clock) := Clock.now clock
  let packet := answer request (.named stratum reference) received
  let (sent, clock) := Clock.now clock
  ({ packet with transmitTime := sent }, clock)

/-- The answer that turns a client away. -/
def kiss (request : Packet) (k : Kiss) : Packet where
  leap := .unsynchronized
  version := .v4
  mode := .server
  stratum := 0
  poll := request.poll
  precision := 0
  rootDelay := {}
  rootDispersion := {}
  referenceId := .ofKiss k
  referenceTime := .zero
  originTime := request.transmitTime
  receiveTime := .zero
  transmitTime := .zero

/-- The bytes of an answer, with the time of the clock as its transmit time. -/
def send (response : Packet) (clock : κ) : Bytes × κ :=
  let bytes := response.serialize
  let (sent, clock) := Clock.now clock
  (Packet.stamp bytes sent, clock)

end NetworkTime.Response
