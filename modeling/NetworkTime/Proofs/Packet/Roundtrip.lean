import NetworkTime.Packet.Codec
import NetworkTime.Proofs.Wire.Roundtrip

/-! A header survives the wire, and both of its writers put the same bytes there. -/

namespace NetworkTime
open Wire
variable {bytes : Bytes}

@[simp] theorem size_uint8 : size UInt8 = 1 := rfl

@[simp] theorem size_int8 : size Int8 = 1 := rfl

@[simp] theorem size_leadByte : size LeadByte = 1 := rfl

@[simp] theorem size_shortTime : size ShortTime = 4 := rfl

@[simp] theorem size_referenceId : size ReferenceId = 4 := rfl

@[simp] theorem size_timestamp : size Timestamp = 8 := rfl

@[simp] theorem size_packet : size Packet = 48 := rfl

namespace Timestamp

theorem encode_eq (t : Timestamp) : encode t = encode t.seconds ++ encode t.fraction := rfl

instance : LawfulLayout Timestamp :=
  .of_fields (α := UInt32) rfl encode_eq (fun _ => rfl) (fun _ => rfl) (fun _ _ => rfl)
    fun _ _ => rfl

theorem bits_toNat (t : Timestamp) :
    t.bits.toNat = t.seconds.toNat * 256 ^ 4 + t.fraction.toNat := by
  have hs := t.seconds.toNat_lt
  have hf := t.fraction.toNat_lt
  have hbase : 256 ^ 4 = 2 ^ 32 := rfl
  have hw : t.seconds.toNat <<< 32 % 2 ^ 64 = t.seconds.toNat <<< 32 := by
    rw [Nat.shiftLeft_eq]
    exact Nat.mod_eq_of_lt (by omega)
  rw [bits, UInt64.toNat_or, UInt64.toNat_shiftLeft, UInt32.toNat_toUInt64, UInt32.toNat_toUInt64]
  change t.seconds.toNat <<< 32 % 2 ^ 64 ||| _ = _
  rw [hw, ← Nat.shiftLeft_add_eq_or_of_lt hf, Nat.shiftLeft_eq, hbase]

/-- A timestamp is written as one word or as two, which comes to the same. -/
theorem encode_eq_bigEndian (t : Timestamp) : encode t = bigEndian 8 t.bits.toNat := by
  refine eq_bigEndian (length_encode t) ?_
  have hs : t.seconds.toNat % 256 ^ 4 = t.seconds.toNat := Nat.mod_eq_of_lt t.seconds.toNat_lt
  have hf : t.fraction.toNat % 256 ^ 4 = t.fraction.toNat := Nat.mod_eq_of_lt t.fraction.toNat_lt
  rw [encode_eq, number_append, length_encode, bits_toNat]
  change number (bigEndian 4 _) * 256 ^ 4 + number (bigEndian 4 _) = _
  rw [number_bigEndian, number_bigEndian, hs, hf]

end Timestamp

namespace ShortTime

theorem encode_eq (t : ShortTime) : encode t = encode t.seconds ++ encode t.fraction := rfl

instance : LawfulLayout ShortTime :=
  .of_fields (α := UInt16) rfl encode_eq (fun _ => rfl) (fun _ => rfl) (fun _ _ => rfl)
    fun _ _ => rfl

end ShortTime

instance : LawfulLayout ReferenceId where
  length_encode _ := rfl
  decode_encode_append _ _ := rfl
  encode_decode {bytes} h := by
    match bytes with
    | _ :: _ :: _ :: _ :: _ => rfl

instance : LawfulLayout Int8 where
  length_encode _ := rfl
  decode_encode_append x _ := x.toInt8_toUInt8
  encode_decode {bytes} h := by
    cases bytes with
    | nil => simp at h
    | cons b bytes => rfl

namespace LeadByte

theorem unpack_pack (b : LeadByte) : unpack b.pack = b := by
  obtain ⟨leap, ⟨version⟩, mode⟩ := b
  revert version
  cases leap <;> cases mode <;> decide +kernel

theorem pack_unpack (w : UInt8) : (unpack w).pack = w := by
  have h : ∀ n : Fin 256, (unpack (UInt8.ofFin n)).pack = UInt8.ofFin n := by
    decide +kernel
  exact h w.toFin

instance : LawfulLayout LeadByte where
  length_encode _ := rfl
  decode_encode_append b _ := unpack_pack b
  encode_decode {bytes} h := by
    cases bytes with
    | nil => simp at h
    | cons w bytes => exact congrArg ([·]) (pack_unpack w)

end LeadByte

namespace Packet

theorem encode_eq (p : Packet) :
    encode p =
      encode p.leadByte ++ encode p.stratum ++ encode p.poll ++ encode p.precision ++
      encode p.rootDelay ++ encode p.rootDispersion ++ encode p.referenceId ++
      encode p.referenceTime ++ encode p.originTime ++ encode p.receiveTime ++
      encode p.transmitTime := rfl

theorem decode_eq (bytes : Bytes) :
    (decode bytes : Packet) =
      { leap := (decode bytes : LeadByte).leap
        version := (decode bytes : LeadByte).version
        mode := (decode bytes : LeadByte).mode
        stratum := decode (bytes.drop 1)
        poll := decode (bytes.drop 2)
        precision := decode (bytes.drop 3)
        rootDelay := decode (bytes.drop 4)
        rootDispersion := decode (bytes.drop 8)
        referenceId := decode (bytes.drop 12)
        referenceTime := decode (bytes.drop 16)
        originTime := decode (bytes.drop 24)
        receiveTime := decode (bytes.drop 32)
        transmitTime := decode (bytes.drop 40) } := rfl

instance : LawfulLayout Packet where
  length_encode p := by simp [encode_eq]
  decode_encode_append p rest := by
    rw [decode_eq, encode_eq]
    simp [List.drop_append, List.drop_eq_nil_of_le, leadByte]
  encode_decode {bytes} h := by
    rw [size_packet] at h ⊢
    have hl : encode (decode bytes : LeadByte) = bytes.take 1 := encode_decode (by simp; omega)
    rw [decode_eq, encode_eq]
    simp (disch := simp; omega) only [leadByte, hl, take_append_encode_decode, size_uint8,
      size_int8, size_shortTime, size_referenceId, size_timestamp, Nat.reduceAdd]

/-- The flat writer and the one that goes field by field agree. -/
theorem serialize_eq_encode (p : Packet) : p.serialize = encode p := by
  rw [serialize, encode_eq]
  simp only [List.flatMap_cons, List.flatMap_nil, Timestamp.encode_eq_bigEndian,
    ShortTime.encode_eq, List.append_assoc]
  rfl

@[simp] theorem length_serialize (p : Packet) : p.serialize.length = 48 := by
  rw [serialize_eq_encode, length_encode, size_packet]

theorem parse_of_le (h : 48 ≤ bytes.length) : parse bytes = .ok (decode bytes) := by
  rw [parse, read_eq_ok_of_le h]
  rfl

theorem parse_of_lt (h : bytes.length < 48) : parse bytes = .error ⟨48, bytes.length⟩ := by
  rw [parse, read_eq_error_of_lt h]
  rfl

theorem parse_serialize_append (p : Packet) (rest : Bytes) :
    parse (p.serialize ++ rest) = .ok p := by
  have h : 48 ≤ (p.serialize ++ rest).length := by simp
  rw [parse_of_le h, serialize_eq_encode, decode_encode_append]

theorem parse_serialize (p : Packet) : parse p.serialize = .ok p := by
  simpa using parse_serialize_append p []

/-- Nothing behind the header is read. -/
theorem parse_take {n : Nat} (h : 48 ≤ n) : parse (bytes.take n) = parse bytes := by
  by_cases hl : bytes.length < 48
  · rw [List.take_of_length_le (by omega)]
  · have hle : 48 ≤ (bytes.take n).length := by
      rw [List.length_take]
      omega
    have htake : (bytes.take n).take 48 = bytes.take 48 := by
      rw [List.take_take, Nat.min_eq_left h]
    rw [parse_of_le hle, parse_of_le (Nat.le_of_not_lt hl),
      decode_eq_of_take_eq hle (Nat.le_of_not_lt hl) htake]

theorem decode_transmitTime_eq {other : Bytes} (hl : 48 ≤ bytes.length) (hl' : 48 ≤ other.length)
    (h : (bytes.drop 40).take 8 = (other.drop 40).take 8) :
    (decode bytes : Packet).transmitTime = (decode other : Packet).transmitTime := by
  rw [decode_eq, decode_eq]
  refine decode_eq_of_take_eq ?_ ?_ h
  · rw [size_timestamp, List.length_drop]
    omega
  · rw [size_timestamp, List.length_drop]
    omega

theorem serialize_poll (p : Packet) (poll : Int8) :
    serialize { p with poll } = p.serialize.set 2 poll.toUInt8 := rfl

theorem read_serialize_append (p : Packet) (rest : Bytes) :
    read Packet (p.serialize ++ rest) = .ok (p, 48) := by
  rw [serialize_eq_encode, read_encode_append, size_packet]

/-- A header that is read writes the same bytes again, whatever they are. -/
theorem serialize_decode (h : 48 ≤ bytes.length) :
    (decode bytes : Packet).serialize = bytes.take 48 := by
  rw [serialize_eq_encode, encode_decode h, size_packet]

/-- Packets and the first 48 bytes of a datagram are the same thing. What follows them is not looked
at, and only a datagram without room for them cannot be read. -/
theorem parse_inverts_serialize (p : Packet) (bytes rest : Bytes) :
    parse (p.serialize ++ rest) = .ok p ∧ read Packet (p.serialize ++ rest) = .ok (p, 48) ∧
    (48 ≤ bytes.length ↔ ∃ q, parse bytes = .ok q ∧ q.serialize = bytes.take 48) ∧
    (bytes.length < 48 ↔ parse bytes = .error ⟨48, bytes.length⟩) := by
  refine ⟨parse_serialize_append p rest, read_serialize_append p rest, ?_, parse_of_lt, ?_⟩
  · constructor
    · intro hl
      exact ⟨decode bytes, parse_of_le hl, serialize_decode hl⟩
    · rintro ⟨q, hq, -⟩
      by_contra hl
      rw [parse_of_lt (Nat.lt_of_not_le hl)] at hq
      cases hq
  · intro herror
    by_contra hl
    rw [parse_of_le (Nat.le_of_not_lt hl)] at herror
    cases herror

end Packet
end NetworkTime
