import Mathlib.Data.List.Perm.Basic
import NetworkTime.Proofs.Packet.Header

/-! What is wrong with a datagram, told by its bytes: all of it, once, and in the order of the
header. -/

namespace NetworkTime
open Wire Header
variable {datagram : Bytes} {us vs : List Violation}

/-- The place of the byte that a violation is about. -/
def Violation.place : Violation → Nat
  | unsupportedVersion _ => 0
  | stratumOutOfRange _ => 1
  | pollOutOfRange _ => 2
  | positivePrecision _ => 3

namespace Header

/-- The bytes of a datagram break a rule, with what stands in them. -/
inductive Breaks (datagram : Bytes) : Violation → Prop
  | version (h : versionBits datagram ≠ 3 ∧ versionBits datagram ≠ 4) :
      Breaks datagram (.unsupportedVersion (versionBits datagram))
  | stratum (h : 15 < (stratum datagram).toNat) :
      Breaks datagram (.stratumOutOfRange (stratum datagram))
  | poll (h : (poll datagram).toInt < 4 ∨ 17 < (poll datagram).toInt) :
      Breaks datagram (.pollOutOfRange (poll datagram))
  | precision (h : 0 < (precision datagram).toInt) :
      Breaks datagram (.positivePrecision (precision datagram))

/-- A list of all rules that a datagram breaks, each once and in the order of the header. -/
structure Diagnoses (datagram : Bytes) (vs : List Violation) : Prop where
  ordered : vs.Pairwise fun u v => u.place < v.place
  exact : ∀ v, v ∈ vs ↔ Breaks datagram v

theorem Diagnoses.nodup (h : Diagnoses datagram vs) : vs.Nodup := by
  apply h.ordered.imp
  intro u v hlt heq
  rw [heq] at hlt
  exact Nat.lt_irrefl _ hlt

/-- There is one way only to list what a datagram breaks. -/
theorem Diagnoses.unique (hu : Diagnoses datagram us) (hv : Diagnoses datagram vs) : us = vs := by
  have hperm : us.Perm vs := by
    apply (List.perm_ext_iff_of_nodup hu.nodup hv.nodup).mpr
    intro v
    rw [hu.exact, hv.exact]
  apply List.Perm.eq_of_pairwise ?_ hu.ordered hv.ordered hperm
  intro u v _ _ huv hvu
  omega

end Header

namespace Packet

/-- Whichever rules are broken, they are listed in one order. -/
theorem violations_sublist (p : Packet) : p.violations.Sublist
    [.unsupportedVersion p.version.code, .stratumOutOfRange p.stratum, .pollOutOfRange p.poll,
      .positivePrecision p.precision] := by
  have hpart : ∀ (c : Prop) [Decidable c] (v : Violation), (if c then [] else [v]).Sublist [v] := by
    intro c _ v
    split
    · exact List.nil_sublist _
    · exact List.Sublist.refl _
  exact (((hpart _ _).append (hpart _ _)).append (hpart _ _)).append (hpart _ _)

theorem pairwise_violations (p : Packet) :
    p.violations.Pairwise fun u v => u.place < v.place := by
  apply List.Pairwise.sublist p.violations_sublist
  simp [Violation.place]

theorem mem_violations_iff (p : Packet) (v : Violation) : v ∈ p.violations ↔
    (¬ p.version.isSupported = true ∧ v = .unsupportedVersion p.version.code) ∨
    (¬ p.stratum ≤ 15 ∧ v = .stratumOutOfRange p.stratum) ∨
    (¬ Poll.isAllowed p.poll = true ∧ v = .pollOutOfRange p.poll) ∨
    (¬ p.precision ≤ 0 ∧ v = .positivePrecision p.precision) := by
  simp only [violations, List.mem_append, List.mem_ite_nil_left, List.mem_singleton, or_assoc]

theorem mem_violations_decode_iff (datagram : Bytes) (v : Violation) :
    v ∈ (decode datagram : Packet).violations ↔ Breaks datagram v := by
  have hstratum : ¬ Header.stratum datagram ≤ 15 ↔ 15 < (Header.stratum datagram).toNat := by
    rw [UInt8.le_iff_toNat_le, Nat.not_le]
    rfl
  have hprecision : ¬ Header.precision datagram ≤ 0 ↔ 0 < (Header.precision datagram).toInt := by
    rw [Int8.le_iff_toInt_le, Int.not_le]
    rfl
  rw [mem_violations_iff, isSupported_decode_iff, code_decode_version, decode_stratum, decode_poll,
    decode_precision, Poll.isAllowed_iff, hstratum, hprecision]
  constructor
  · rintro (⟨h, rfl⟩ | ⟨h, rfl⟩ | ⟨h, rfl⟩ | ⟨h, rfl⟩)
    · exact .version (not_or.mp h)
    · exact .stratum h
    · exact .poll (by omega)
    · exact .precision h
  · intro h
    cases h with
    | version h => exact Or.inl ⟨not_or.mpr h, rfl⟩
    | stratum h => exact Or.inr (Or.inl ⟨h, rfl⟩)
    | poll h => exact Or.inr (Or.inr (Or.inl ⟨by omega, rfl⟩))
    | precision h => exact Or.inr (Or.inr (Or.inr ⟨h, rfl⟩))

theorem diagnoses_violations (datagram : Bytes) :
    Diagnoses datagram (decode datagram : Packet).violations where
  ordered := pairwise_violations _
  exact := mem_violations_decode_iff datagram

end Packet

namespace Request

/-- The violations found are the diagnosis of the datagram, and the only one. -/
theorem violations_eq_iff : (decode datagram : Packet).violations = vs ↔ Diagnoses datagram vs := by
  constructor
  · rintro rfl
    exact Packet.diagnoses_violations datagram
  · intro h
    exact (Packet.diagnoses_violations datagram).unique h

theorem violations_eq_nil_iff_not_breaks :
    (decode datagram : Packet).violations = [] ↔ ∀ v, ¬ Breaks datagram v := by
  simp only [List.eq_nil_iff_forall_not_mem, Packet.mem_violations_decode_iff]

theorem ofDatagram_eq_tooShort_iff {received : Nat} :
    ofDatagram datagram = .error (.tooShort received) ↔
      datagram.length < 48 ∧ received = datagram.length := by
  simp [ofDatagram_eq_iff]

theorem ofDatagram_eq_invalid_iff :
    ofDatagram datagram = .error (.invalid vs) ↔
      48 ≤ datagram.length ∧ vs ≠ [] ∧ Diagnoses datagram vs := by
  rw [← violations_eq_iff]
  constructor
  · intro h
    rw [ofDatagram_eq_iff] at h
    obtain ⟨hroom, hne, rfl⟩ : 48 ≤ datagram.length ∧
        (decode datagram : Packet).violations ≠ [] ∧
        vs = (decode datagram : Packet).violations := by
      simpa using h
    exact ⟨hroom, hne, rfl⟩
  · rintro ⟨hroom, hne, rfl⟩
    exact ofDatagram_eq_iff.mpr (Or.inr (Or.inl ⟨hroom, hne, rfl⟩))

theorem ofDatagram_eq_unexpectedMode_iff {mode : UInt8} :
    ofDatagram datagram = .error (.unexpectedMode mode) ↔
      48 ≤ datagram.length ∧ (∀ v, ¬ Breaks datagram v) ∧ modeBits datagram ≠ 3 ∧
        mode = modeBits datagram := by
  rw [← violations_eq_nil_iff_not_breaks]
  simp [ofDatagram_eq_iff]

theorem ofDatagram_eq_ok_iff {request : Packet} :
    ofDatagram datagram = .ok request ↔
      48 ≤ datagram.length ∧ (∀ v, ¬ Breaks datagram v) ∧ modeBits datagram = 3 ∧
        request = decode datagram := by
  rw [← violations_eq_nil_iff_not_breaks]
  simp [ofDatagram_eq_iff]

/-- What is told of a datagram that is no request. A length below that of a header is told before
anything else. The rules that the first bytes break are told next, whatever the mode: all of them,
each once and in the order of the header, with what stands in the bytes. The mode is told if it is
all that is wrong, and a datagram with which nothing is wrong is the packet that it is read as. -/
theorem ofDatagram_diagnosis (datagram : Bytes) :
    (∀ received, ofDatagram datagram = .error (.tooShort received) ↔
      datagram.length < 48 ∧ received = datagram.length) ∧
    (∀ vs, ofDatagram datagram = .error (.invalid vs) ↔
      48 ≤ datagram.length ∧ vs ≠ [] ∧ Diagnoses datagram vs) ∧
    (∀ mode, ofDatagram datagram = .error (.unexpectedMode mode) ↔
      48 ≤ datagram.length ∧ (∀ v, ¬ Breaks datagram v) ∧ modeBits datagram ≠ 3 ∧
        mode = modeBits datagram) ∧
    (∀ request, ofDatagram datagram = .ok request ↔
      48 ≤ datagram.length ∧ (∀ v, ¬ Breaks datagram v) ∧ modeBits datagram = 3 ∧
        Packet.parse datagram = .ok request) := by
  refine ⟨fun _ => ofDatagram_eq_tooShort_iff, fun _ => ofDatagram_eq_invalid_iff,
    fun _ => ofDatagram_eq_unexpectedMode_iff, ?_⟩
  intro request
  rw [ofDatagram_eq_ok_iff]
  constructor
  · rintro ⟨hroom, hkept, hmode, rfl⟩
    exact ⟨hroom, hkept, hmode, Packet.parse_of_le hroom⟩
  · rintro ⟨hroom, hkept, hmode, hparse⟩
    rw [Packet.parse_of_le hroom] at hparse
    exact ⟨hroom, hkept, hmode, (Except.ok.inj hparse).symm⟩

/-- A server's answer of version 5 breaks all four rules. The poll exponent is a signed byte, and
the mode goes unmentioned. -/
example : ofDatagram ([0x2C, 16, 0xFF, 1] ++ List.replicate 44 0) = .error (.invalid
    [.unsupportedVersion 5, .stratumOutOfRange 16, .pollOutOfRange (-1), .positivePrecision 1]) :=
  rfl

end Request
end NetworkTime
