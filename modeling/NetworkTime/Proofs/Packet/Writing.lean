import NetworkTime.Proofs.Packet.Roundtrip
import NetworkTime.Proofs.Wire.Writing

/-! A header that is written field by field into a buffer, and the one that is written flat. -/

namespace NetworkTime.Packet
open Wire
variable {buffer : Bytes}

/-- The fields one behind the other are the whole header. -/
theorem emits_putFields (p : Packet) : Emits p.putFields (encode p) := by
  rw [encode_eq]
  simp only [List.append_assoc]
  apply (emits_put p.leadByte).bind
  apply (emits_put p.stratum).bind
  apply (emits_put p.poll).bind
  apply (emits_put p.precision).bind
  apply (emits_put p.rootDelay).bind
  apply (emits_put p.rootDispersion).bind
  apply (emits_put p.referenceId).bind
  apply (emits_put p.referenceTime).bind
  apply (emits_put p.originTime).bind
  apply (emits_put p.receiveTime).bind
  exact emits_put p.transmitTime

/-- No field runs out of room once there is room for the header, so that writing field by field
comes to writing it at once. -/
theorem writeFields_eq_write (p : Packet) (buffer : Bytes) :
    p.writeFields buffer = write p buffer := by
  by_cases h : buffer.length < size Packet
  · rw [write_of_lt p h, writeFields, if_pos h]
  · have hroom : ([] : Bytes).length + (encode p).length ≤ buffer.length := by
      rw [length_encode, List.length_nil]
      omega
    have hput := emits_putFields p [] buffer hroom
    rw [Cursor.behind_nil, List.nil_append, Cursor.behind, length_encode] at hput
    rw [write_of_le p (by omega), writeFields, if_neg h, hput]
    rfl

theorem writeFields_of_le (p : Packet) (h : 48 ≤ buffer.length) :
    p.writeFields buffer = (.ok 48, p.serialize ++ buffer.drop 48) := by
  rw [writeFields_eq_write, write_of_le p h, serialize_eq_encode, size_packet]

theorem writeFields_of_lt (p : Packet) (h : buffer.length < 48) :
    p.writeFields buffer = (.error ⟨48, buffer.length⟩, buffer) := by
  rw [writeFields_eq_write, write_of_lt p h, size_packet]

/-- Each part of a header and the header itself are written whole or not at all, over the bytes that
they take and no others, and are read off them again. A header written field by field has the bytes
of one written flat. -/
theorem writers_fill_and_agree :
    Fills 4 write (read ShortTime) ∧ Fills 8 write (read Timestamp) ∧
    Fills 4 write (read ReferenceId) ∧ Fills 1 write (read LeadByte) ∧
    Fills 48 writeFields (read Packet) ∧
    ∀ (p : Packet) (buffer : Bytes),
      (p.writeFields buffer).2 = p.serialize ++ buffer.drop 48 ↔ 48 ≤ buffer.length := by
  have hfields : (writeFields : Packet → Bytes → _) = write := by
    funext p buffer
    exact writeFields_eq_write p buffer
  refine ⟨fills_write, fills_write, fills_write, fills_write, ?_, ?_⟩
  · rw [hfields]
    exact fills_write
  · intro p buffer
    constructor
    · intro hafter
      by_contra hshort
      rw [writeFields_of_lt p (by omega)] at hafter
      have hlength : buffer.length = (p.serialize ++ buffer.drop 48).length :=
        congrArg List.length hafter
      rw [List.length_append, length_serialize] at hlength
      omega
    · intro hroom
      rw [writeFields_of_le p hroom]

/-- It takes the check of the whole length: the fields alone leave what was written before the first
one without room. -/
example : putFields { stratum := 1 } ⟨0, [255, 255, 255, 255, 255]⟩ =
    (.error ⟨4, 1⟩, ⟨4, [0x23, 1, 4, 0, 255]⟩) := rfl

end NetworkTime.Packet
