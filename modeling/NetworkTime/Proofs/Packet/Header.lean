import NetworkTime.Proofs.Packet.Roundtrip
import NetworkTime.Request

/-! The rules on a header, read off the first four bytes of a datagram. -/

namespace NetworkTime
open Wire
variable {datagram : Bytes}

namespace Header

def versionBits (datagram : Bytes) : UInt8 := (datagram.getD 0 0 >>> 3) &&& 7

def modeBits (datagram : Bytes) : UInt8 := datagram.getD 0 0 &&& 7

def stratum (datagram : Bytes) : UInt8 := datagram.getD 1 0

def poll (datagram : Bytes) : Int8 := (datagram.getD 2 0).toInt8

def precision (datagram : Bytes) : Int8 := (datagram.getD 3 0).toInt8

/-- The rules on version, stratum, poll and precision. The mode is not one of them. -/
structure KeepsRules (datagram : Bytes) : Prop where
  version : versionBits datagram = 3 ∨ versionBits datagram = 4
  stratum : (stratum datagram).toNat ≤ 15
  poll : 4 ≤ (poll datagram).toInt ∧ (poll datagram).toInt ≤ 17
  precision : (precision datagram).toInt ≤ 0

end Header

open Header

theorem Version.isSupported_iff (v : Version) :
    v.isSupported = true ↔ v.number = 3 ∨ v.number = 4 := by
  obtain ⟨n⟩ := v
  simp [isSupported, v3, v4]

theorem toNat_and_seven (w : UInt8) : (w &&& 7).toNat = w.toNat % 8 := by
  rw [UInt8.toNat_and]
  exact Nat.and_two_pow_sub_one_eq_mod w.toNat 3

theorem Version.isSupported_ofBits_iff (w : UInt8) :
    (ofBits w).isSupported = true ↔ w &&& 7 = 3 ∨ w &&& 7 = 4 := by
  rw [isSupported_iff, ← UInt8.toNat_inj, ← UInt8.toNat_inj, toNat_and_seven, Fin.ext_iff,
    Fin.ext_iff]
  rfl

/-- The code of a version is what stands in the low three bits. -/
theorem Version.code_ofBits (w : UInt8) : (ofBits w).code = w &&& 7 := by
  have hw : w.toNat % 8 < UInt8.size := Nat.lt_of_lt_of_le (Nat.mod_lt _ (by decide)) (by decide)
  rw [← UInt8.toNat_inj, toNat_and_seven, code]
  exact UInt8.toNat_ofNat_of_lt' hw

/-- The code of a mode is what stands in the low three bits. -/
theorem Mode.code_ofBits (w : UInt8) : (ofBits w).code = w &&& 7 := by
  have h : ∀ n : Fin 256, (ofBits (UInt8.ofFin n)).code = UInt8.ofFin n &&& 7 := by
    decide +kernel
  exact h w.toFin

theorem Mode.ofBits_eq_client_iff (w : UInt8) : ofBits w = client ↔ w &&& 7 = 3 := by
  rw [← code_ofBits]
  constructor
  · intro h
    rw [h]
    rfl
  · intro h
    cases hm : ofBits w <;> simp_all [code]

theorem Stratum.isServer_iff (stratum : UInt8) :
    isServer stratum = true ↔ stratum.toNat ≤ 15 ∧ stratum ≠ 0 := by
  simp only [isServer, Bool.and_eq_true, decide_eq_true_eq, UInt8.le_iff_toNat_le, Ne,
    ← UInt8.toNat_inj]
  change 1 ≤ stratum.toNat ∧ stratum.toNat ≤ 15 ↔ stratum.toNat ≤ 15 ∧ ¬ stratum.toNat = 0
  omega

theorem Poll.isAllowed_iff (poll : Int8) :
    isAllowed poll = true ↔ 4 ≤ poll.toInt ∧ poll.toInt ≤ 17 := by
  simp only [isAllowed, Bool.and_eq_true, decide_eq_true_eq, Int8.le_iff_toInt_le]
  rfl

namespace Packet

theorem violations_eq_nil_iff (p : Packet) :
    p.violations = [] ↔ p.version.isSupported = true ∧ p.stratum.toNat ≤ 15 ∧
      Poll.isAllowed p.poll = true ∧ p.precision.toInt ≤ 0 := by
  have hs : p.stratum ≤ 15 ↔ p.stratum.toNat ≤ 15 := UInt8.le_iff_toNat_le
  have hp : p.precision ≤ 0 ↔ p.precision.toInt ≤ 0 := Int8.le_iff_toInt_le
  simp only [violations, List.append_eq_nil_iff, hs, hp]
  split <;> split <;> split <;> split <;> simp_all

theorem kind_eq_clientRequest_iff (p : Packet) : p.kind = .clientRequest ↔ p.mode = .client := by
  cases hm : p.mode <;> simp [kind, hm]

theorem decode_lead (datagram : Bytes) :
    (decode datagram : LeadByte) = LeadByte.unpack (datagram.getD 0 0) := by
  cases datagram <;> rfl

theorem decode_byte (datagram : Bytes) (place : Nat) :
    (decode (datagram.drop place) : UInt8) = datagram.getD place 0 := by
  change (datagram.drop place).headD 0 = _
  rw [List.headD_eq_head?_getD, List.head?_drop, List.getD_eq_getElem?_getD]

theorem isSupported_decode_iff (datagram : Bytes) :
    (decode datagram : Packet).version.isSupported = true ↔
      versionBits datagram = 3 ∨ versionBits datagram = 4 := by
  rw [decode_eq, decode_lead]
  exact Version.isSupported_ofBits_iff _

theorem code_decode_version (datagram : Bytes) :
    (decode datagram : Packet).version.code = versionBits datagram := by
  rw [decode_eq, decode_lead]
  exact Version.code_ofBits _

theorem decode_stratum (datagram : Bytes) :
    (decode datagram : Packet).stratum = Header.stratum datagram :=
  decode_byte datagram 1

theorem decode_poll (datagram : Bytes) :
    (decode datagram : Packet).poll = Header.poll datagram :=
  congrArg UInt8.toInt8 (decode_byte datagram 2)

theorem decode_precision (datagram : Bytes) :
    (decode datagram : Packet).precision = Header.precision datagram :=
  congrArg UInt8.toInt8 (decode_byte datagram 3)

theorem decode_mode (datagram : Bytes) :
    (decode datagram : Packet).mode = Mode.ofBits (datagram.getD 0 0) := by
  rw [decode_eq, decode_lead]
  rfl

theorem code_decode_mode (datagram : Bytes) :
    (decode datagram : Packet).mode.code = modeBits datagram := by
  rw [decode_mode, Mode.code_ofBits, modeBits]

theorem kind_decode_eq_clientRequest_iff (datagram : Bytes) :
    (decode datagram : Packet).kind = .clientRequest ↔ modeBits datagram = 3 := by
  rw [kind_eq_clientRequest_iff, decode_mode, Mode.ofBits_eq_client_iff, modeBits]

theorem violations_decode_eq_nil_iff (datagram : Bytes) :
    (decode datagram : Packet).violations = [] ↔ KeepsRules datagram := by
  rw [violations_eq_nil_iff, isSupported_decode_iff, decode_stratum, decode_poll,
    decode_precision, Poll.isAllowed_iff]
  constructor
  · rintro ⟨hv, hs, hp, hr⟩
    exact ⟨hv, hs, hp, hr⟩
  · intro h
    exact ⟨h.version, h.stratum, h.poll, h.precision⟩

end Packet

namespace Request

/-- What a datagram is taken for. Its length is judged first, then the rules on its fields, then its
mode. -/
theorem ofDatagram_eq_iff {result : Except RequestFault Packet} :
    ofDatagram datagram = result ↔
      (datagram.length < 48 ∧ result = .error (.tooShort datagram.length)) ∨
      (48 ≤ datagram.length ∧ (decode datagram : Packet).violations ≠ [] ∧
        result = .error (.invalid (decode datagram : Packet).violations)) ∨
      (48 ≤ datagram.length ∧ (decode datagram : Packet).violations = [] ∧
        modeBits datagram ≠ 3 ∧ result = .error (.unexpectedMode (modeBits datagram))) ∨
      (48 ≤ datagram.length ∧ (decode datagram : Packet).violations = [] ∧
        modeBits datagram = 3 ∧ result = .ok (decode datagram)) := by
  rw [ofDatagram, eq_comm]
  by_cases hl : datagram.length < 48
  · simp [hl, Nat.not_le.mpr hl, Packet.parse_of_lt hl]
  · have hroom : 48 ≤ datagram.length := Nat.le_of_not_lt hl
    have hkind := Packet.kind_decode_eq_clientRequest_iff datagram
    have hcode := Packet.code_decode_mode datagram
    rw [Packet.parse_of_le hroom]
    generalize (decode datagram : Packet) = p at hkind hcode ⊢
    cases hv : p.violations with
    | cons v vs => simp [hl, hroom, hv]
    | nil =>
      cases hk : p.kind with
      | clientRequest =>
        have hbits : modeBits datagram = 3 := hkind.mp hk
        simp [hl, hroom, hv, hk, hbits]
      | serverResponse | other =>
        have hbits : modeBits datagram ≠ 3 := by
          rw [Ne, ← hkind, hk]
          simp
        simp [hl, hroom, hv, hk, hcode, hbits]

/-- The bytes of a datagram alone tell what it is taken for: too short, in breach of a rule, of
another mode than a request, or a request. -/
theorem ofDatagram_cases (datagram : Bytes) :
    (datagram.length < 48 ∧ ofDatagram datagram = .error (.tooShort datagram.length)) ∨
    (48 ≤ datagram.length ∧ ¬ KeepsRules datagram ∧
      ∃ vs, vs ≠ [] ∧ ofDatagram datagram = .error (.invalid vs)) ∨
    (48 ≤ datagram.length ∧ KeepsRules datagram ∧ modeBits datagram ≠ 3 ∧
      ofDatagram datagram = .error (.unexpectedMode (modeBits datagram))) ∨
    (48 ≤ datagram.length ∧ KeepsRules datagram ∧ modeBits datagram = 3 ∧
      ofDatagram datagram = .ok (decode datagram)) := by
  rw [← Packet.violations_decode_eq_nil_iff]
  rcases ofDatagram_eq_iff.mp (Eq.refl (ofDatagram datagram)) with ⟨hl, h⟩ | ⟨hl, hv, h⟩ |
    ⟨hl, hv, hm, h⟩ | ⟨hl, hv, hm, h⟩
  · exact Or.inl ⟨hl, h⟩
  · exact Or.inr (Or.inl ⟨hl, hv, _, hv, h⟩)
  · exact Or.inr (Or.inr (Or.inl ⟨hl, hv, hm, h⟩))
  · exact Or.inr (Or.inr (Or.inr ⟨hl, hv, hm, h⟩))

end Request
end NetworkTime
