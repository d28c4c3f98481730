import NetworkTime.Proofs.Packet.Roundtrip
import NetworkTime.Response

/-! A transmit time that is stamped on a written header, and one that is written with it. -/

namespace NetworkTime
open Wire
variable {bytes : Bytes}

namespace Packet

/-- The transmit time is the last field of a header, and the fields before it take 40 bytes. -/
theorem exists_serialize_eq_append (p : Packet) : ∃ front : Bytes, front.length = 40 ∧
    ∀ t, serialize { p with transmitTime := t } = front ++ bigEndian 8 t.bits.toNat := by
  refine ⟨encode p.leadByte ++ encode p.stratum ++ encode p.poll ++ encode p.precision ++
    encode p.rootDelay ++ encode p.rootDispersion ++ encode p.referenceId ++
    encode p.referenceTime ++ encode p.originTime ++ encode p.receiveTime, by simp, ?_⟩
  intro t
  rw [serialize_eq_encode, encode_eq, ← Timestamp.encode_eq_bigEndian]
  rfl

/-- Stamping a written header and writing a stamped one come to the same, whatever follows. -/
theorem stamp_serialize_append (p : Packet) (t : Timestamp) (rest : Bytes) :
    stamp (p.serialize ++ rest) t = serialize { p with transmitTime := t } ++ rest := by
  obtain ⟨front, hlength, hserialize⟩ := exists_serialize_eq_append p
  have hfront : (p.serialize ++ rest).take 40 = front := by
    rw [show p.serialize = _ from hserialize p.transmitTime, List.append_assoc]
    exact List.take_left' hlength
  have hrest : (p.serialize ++ rest).drop 48 = rest := List.drop_left' (length_serialize p)
  rw [stamp, hfront, hrest, hserialize]

theorem stamp_serialize (p : Packet) (t : Timestamp) :
    stamp p.serialize t = serialize { p with transmitTime := t } := by
  simpa using stamp_serialize_append p t []

/-- A stamped buffer is the header that was in it, with another transmit time. -/
theorem stamp_eq (h : 48 ≤ bytes.length) (t : Timestamp) :
    stamp bytes t =
      serialize { (decode bytes : Packet) with transmitTime := t } ++ bytes.drop 48 := by
  have hbytes : (decode bytes : Packet).serialize ++ bytes.drop 48 = bytes := by
    rw [serialize_decode h, List.take_append_drop]
  rw [← stamp_serialize_append, hbytes]

theorem parse_stamp (h : 48 ≤ bytes.length) (t : Timestamp) :
    parse (stamp bytes t) = .ok { (decode bytes : Packet) with transmitTime := t } := by
  rw [stamp_eq h, parse_serialize_append]

theorem stamp_stamp (h : 48 ≤ bytes.length) (t u : Timestamp) :
    stamp (stamp bytes t) u = stamp bytes u := by
  rw [stamp_eq h t, stamp_serialize_append, stamp_eq h u]

theorem take_stamp (h : 48 ≤ bytes.length) (t : Timestamp) :
    (stamp bytes t).take 40 = bytes.take 40 := by
  have hfront : (bytes.take 40).length = 40 := by
    rw [List.length_take]
    omega
  rw [stamp, List.append_assoc]
  exact List.take_left' hfront

theorem drop_stamp (h : 48 ≤ bytes.length) (t : Timestamp) :
    (stamp bytes t).drop 48 = bytes.drop 48 := by
  rw [stamp_eq h]
  exact List.drop_left' (length_serialize _)

theorem length_stamp (h : 48 ≤ bytes.length) (t : Timestamp) :
    (stamp bytes t).length = bytes.length := by
  rw [stamp_eq h, List.length_append, length_serialize, List.length_drop]
  omega

end Packet

namespace Response
variable {κ : Type} [Clock κ]

/-- What is sent is the answer with the time of the clock written into it. -/
theorem send_eq (p : Packet) (clock : κ) :
    send p clock =
      (Packet.serialize { p with transmitTime := (Clock.now clock).1 }, (Clock.now clock).2) := by
  rw [← Packet.stamp_serialize]
  rfl

/-- Stamping changes the transmit time and nothing else, and the last stamp counts. So an answer
goes out as if it had been written with the time of the clock, whatever transmit time it had, and is
read as the answer it was up to that time. -/
theorem send_stamps_transmitTime (h : 48 ≤ bytes.length) (t u : Timestamp) (p : Packet)
    (clock : κ) :
    (∃ q, Packet.parse bytes = .ok q ∧
      Packet.parse (Packet.stamp bytes t) = .ok { q with transmitTime := t }) ∧
    (Packet.stamp bytes t).take 40 = bytes.take 40 ∧
    (Packet.stamp bytes t).drop 48 = bytes.drop 48 ∧
    (Packet.stamp bytes t).length = bytes.length ∧
    Packet.stamp (Packet.stamp bytes t) u = Packet.stamp bytes u ∧
    send p clock =
      (Packet.serialize { p with transmitTime := (Clock.now clock).1 }, (Clock.now clock).2) ∧
    send { p with transmitTime := t } clock = send p clock ∧
    ∃ q, Packet.parse (send p clock).1 = .ok q ∧ q.transmitTime = (Clock.now clock).1 ∧
      { q with transmitTime := p.transmitTime } = p := by
  refine ⟨⟨decode bytes, Packet.parse_of_le h, Packet.parse_stamp h t⟩, Packet.take_stamp h t,
    Packet.drop_stamp h t, Packet.length_stamp h t, Packet.stamp_stamp h t u, send_eq p clock,
    ?_, ?_⟩
  · rw [send_eq, send_eq]
  · refine ⟨{ p with transmitTime := (Clock.now clock).1 }, ?_, rfl, rfl⟩
    rw [send_eq, Packet.parse_serialize]

/-- A buffer of ones is no sensible header, and is stamped all the same. -/
theorem send_stamps_transmitTime_ones :
    let ones : Bytes := List.replicate 48 0xFF
    let clock : ManualClock := ⟨0x100000002, 1⟩
    48 ≤ ones.length ∧
    (∃ q, Packet.parse ones = .ok q ∧ Packet.parse (ones.take 40 ++ [0, 0, 0, 1, 0, 0, 0, 2]) =
      .ok { q with transmitTime := ⟨1, 2⟩ }) ∧
    send { stratum := 3, transmitTime := ⟨7, 7⟩ } clock =
      (Packet.serialize { stratum := 3, transmitTime := ⟨1, 2⟩ }, ⟨0x100000003, 1⟩) := by
  intro ones clock
  have hroom : 48 ≤ ones.length := by decide
  have hstamp : Packet.stamp ones ⟨1, 2⟩ = ones.take 40 ++ [0, 0, 0, 1, 0, 0, 0, 2] := by
    decide +kernel
  have hnow : Clock.now clock = (⟨1, 2⟩, ⟨0x100000003, 1⟩) := by
    decide +kernel
  obtain ⟨hparse, -, -, -, -, hsend, -⟩ :=
    send_stamps_transmitTime hroom ⟨1, 2⟩ ⟨3, 4⟩ { stratum := 3, transmitTime := ⟨7, 7⟩ } clock
  rw [hstamp] at hparse
  rw [hnow] at hsend
  exact ⟨hroom, hparse, hsend⟩

end Response
end NetworkTime
