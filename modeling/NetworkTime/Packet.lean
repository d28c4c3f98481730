import NetworkTime.ReferenceId
import NetworkTime.Timestamp

/-! The packet header: its fields and what their values mean. -/

namespace NetworkTime

/-- Warning of a leap second at the end of the month. -/
inductive Leap
  | none
  | addSecond
  | deleteSecond
  | unsynchronized
deriving DecidableEq, Repr, Inhabited

namespace Leap

def code : Leap → UInt8
  | none => 0
  | addSecond => 1
  | deleteSecond => 2
  | unsynchronized => 3

/-- The leap warning in the low two bits. -/
def ofBits (w : UInt8) : Leap :=
  if w &&& 3 = 0 then none else if w &&& 3 = 1 then addSecond
  else if w &&& 3 = 2 then deleteSecond else unsynchronized

def ofCode? (w : UInt8) : Option Leap := if w ≤ 3 then some (ofBits w) else .none

end Leap

/-- The part that the sender of a packet plays. -/
inductive Mode
  | reserved
  | symmetricActive
  | symmetricPassive
  | client
  | server
  | broadcast
  | control
  | reservedForPrivateUse
deriving DecidableEq, Repr, Inhabited

namespace Mode

def code : Mode → UInt8
  | reserved => 0
  | symmetricActive => 1
  | symmetricPassive => 2
  | client => 3
  | server => 4
  | broadcast => 5
  | control => 6
  | reservedForPrivateUse => 7

/-- The mode in the low three bits. -/
def ofBits (w : UInt8) : Mode :=
  let m := w &&& 7
  if m = 0 then reserved else if m = 1 then symmetricActive else if m = 2 then symmetricPassive
  else if m = 3 then client else if m = 4 then server else if m = 5 then broadcast
  else if m = 6 then control else reservedForPrivateUse

def ofCode? (w : UInt8) : Option Mode := if w ≤ 7 then some (ofBits w) else none

end Mode

/-- A protocol version, as the three bits of the header can hold it. -/
structure Version where
  number : Fin 8
deriving DecidableEq, Repr

namespace Version

def v3 : Version := ⟨3⟩

def v4 : Version := ⟨4⟩

instance : Inhabited Version := ⟨v4⟩

def code (v : Version) : UInt8 := UInt8.ofNat v.number.val

/-- The version in the low three bits. -/
def ofBits (w : UInt8) : Version := ⟨⟨w.toNat % 8, Nat.mod_lt _ (by decide)⟩⟩

def ofCode? (w : UInt8) : Option Version := if w ≤ 7 then some (ofBits w) else none

/-- Whether a server answers requests of the version. -/
def isSupported (v : Version) : Bool := v == v3 || v == v4

end Version

namespace Stratum

/-- Strata of servers that get their time from other servers. -/
def isSecondary (stratum : UInt8) : Bool := 2 ≤ stratum && stratum ≤ 15

/-- Strata that a server may advertise. -/
def isServer (stratum : UInt8) : Bool := 1 ≤ stratum && stratum ≤ 15

end Stratum

namespace Poll

/-- The poll exponents in use, from 16 seconds to 36 hours. -/
def isAllowed (poll : Int8) : Bool := 4 ≤ poll && poll ≤ 17

end Poll

/-- The header of 48 bytes. What follows it in a datagram is not looked at. -/
structure Packet where
  leap : Leap := .none
  version : Version := .v4
  mode : Mode := .client
  stratum : UInt8 := 0
  /-- The longest interval between messages, as a power of two of seconds. -/
  poll : Int8 := 4
  /-- The precision of the sender's clock, as a power of two of seconds. -/
  precision : Int8 := 0
  rootDelay : ShortTime := {}
  rootDispersion : ShortTime := {}
  referenceId : ReferenceId := {}
  /-- When the sender's clock was last set. -/
  referenceTime : Timestamp := {}
  /-- When the request left the client. -/
  originTime : Timestamp := {}
  /-- When the request reached the server. -/
  receiveTime : Timestamp := {}
  /-- When this packet left its sender. -/
  transmitTime : Timestamp := {}
deriving DecidableEq, Repr, Inhabited

/-- What a server makes of a packet, by its mode alone. -/
inductive Packet.Kind
  | clientRequest
  | serverResponse
  | other
deriving DecidableEq, Repr

def Packet.kind (p : Packet) : Packet.Kind :=
  match p.mode with
  | .client => .clientRequest
  | .server => .serverResponse
  | _ => .other

end NetworkTime
