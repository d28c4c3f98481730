import NetworkTime.Packet

/-! The header on the wire. It can be written field by field, or flat with each timestamp as one
word; reading takes every field from its place. -/

namespace NetworkTime
open Wire

/-- The fields that share the first byte. -/
structure LeadByte where
  leap : Leap
  version : Version
  mode : Mode
deriving DecidableEq, Repr

/-- Two bits of leap warning, three of version, three of mode. -/
def LeadByte.pack (b : LeadByte) : UInt8 :=
  (b.leap.code <<< 6) ||| (b.version.code <<< 3) ||| b.mode.code

def LeadByte.unpack (w : UInt8) : LeadByte :=
  ⟨.ofBits (w >>> 6), .ofBits (w >>> 3), .ofBits w⟩

instance : Layout LeadByte where
  size := 1
  encode b := [b.pack]
  decode bytes := .unpack (decode bytes)

instance : Layout Int8 where
  size := 1
  encode x := [x.toUInt8]
  decode bytes := UInt8.toInt8 (decode bytes)

namespace Packet

def leadByte (p : Packet) : LeadByte := ⟨p.leap, p.version, p.mode⟩

instance : Layout Packet where
  size := 48
  encode p :=
    encode p.leadByte ++ encode p.stratum ++ encode p.poll ++ encode p.precision ++
    encode p.rootDelay ++ encode p.rootDispersion ++ encode p.referenceId ++
    encode p.referenceTime ++ encode p.originTime ++ encode p.receiveTime ++
    encode p.transmitTime
  decode bytes :=
    let lead : LeadByte := decode bytes
    { leap := lead.leap
      version := lead.version
      mode := lead.mode
      stratum := decode (bytes.drop 1)
      poll := decode (bytes.drop 2)
      precision := decode (bytes.drop 3)
      rootDelay := decode (bytes.drop 4)
      rootDispersion := decode (bytes.drop 8)
      referenceId := decode (bytes.drop 12)
      referenceTime := decode (bytes.drop 16)
      originTime := decode (bytes.drop 24)
      receiveTime := decode (bytes.drop 32)
      transmitTime := decode (bytes.drop 40) }

/-- The packet at the front of a datagram. -/
def parse (bytes : Bytes) : Except TooShort Packet := (read Packet bytes).map Prod.fst

/-- The 48 bytes of a packet. -/
def serialize (p : Packet) : Bytes :=
  [p.leadByte.pack, p.stratum, p.poll.toUInt8, p.precision.toUInt8] ++
    bigEndian 2 p.rootDelay.seconds.toNat ++ bigEndian 2 p.rootDelay.fraction.toNat ++
    bigEndian 2 p.rootDispersion.seconds.toNat ++ bigEndian 2 p.rootDispersion.fraction.toNat ++
    p.referenceId.bytes ++
    [p.referenceTime, p.originTime, p.receiveTime, p.transmitTime].flatMap
      fun t => bigEndian 8 t.bits.toNat

/-- Writes all fields, each behind the one before. -/
def putFields (p : Packet) : Writer Unit := do
  put p.leadByte
  put p.stratum
  put p.poll
  put p.precision
  put p.rootDelay
  put p.rootDispersion
  put p.referenceId
  put p.referenceTime
  put p.originTime
  put p.receiveTime
  put p.transmitTime

/-- Writes a header over the front of a buffer, field by field. No field is written if there is not
room for all of them. -/
def writeFields (p : Packet) (buffer : Bytes) : Except TooShort Nat × Bytes :=
  if buffer.length < size Packet then (.error ⟨size Packet, buffer.length⟩, buffer)
  else
    let (result, cursor) := p.putFields ⟨0, buffer⟩
    (result.map fun _ => cursor.place, cursor.buffer)

/-- Writes a transmit time over the one in a serialized packet. -/
def stamp (bytes : Bytes) (t : Timestamp) : Bytes :=
  bytes.take 40 ++ bigEndian 8 t.bits.toNat ++ bytes.drop 48

end Packet
end NetworkTime
