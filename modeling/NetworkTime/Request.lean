import NetworkTime.Packet.Codec
import NetworkTime.Packet.Validity
import NetworkTime.ServerError

/-! Requests: the datagrams that a server answers. -/

namespace NetworkTime.Request
open Wire

/-- The request in a datagram. A datagram that is too short is judged by that alone, and a header
that breaks rules by these before its mode. -/
def ofDatagram (datagram : Bytes) : Except RequestFault Packet :=
  match Packet.parse datagram with
  | .error short => .error (.tooShort short.available)
  | .ok packet =>
    match packet.violations with
    | v :: vs => .error (.invalid (v :: vs))
    | [] =>
      match packet.kind with
      | .clientRequest => .ok packet
      | .serverResponse | .other => .error (.unexpectedMode packet.mode.code)

end NetworkTime.Request
