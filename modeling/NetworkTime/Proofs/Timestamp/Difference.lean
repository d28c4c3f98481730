import Mathlib.Algebra.Group.Int.Defs
import NetworkTime.Proofs.Packet.Roundtrip

/-! Timestamps as words, and the signed differences between them. -/

namespace NetworkTime.Timestamp
variable {t later : Timestamp} {units : Int}

theorem bits_ofBits (w : UInt64) : (ofBits w).bits = w := by
  have hlt := w.toNat_lt
  have hseconds : (ofBits w).seconds.toNat = w.toNat / 2 ^ 32 % 2 ^ 32 := by
    change (w >>> 32).toUInt32.toNat = _
    rw [UInt64.toNat_toUInt32, UInt64.toNat_shiftRight, Nat.shiftRight_eq_div_pow]
    rfl
  have hfraction : (ofBits w).fraction.toNat = w.toNat % 2 ^ 32 := UInt64.toNat_toUInt32 w
  rw [← UInt64.toNat_inj, bits_toNat, hseconds, hfraction]
  omega

/-- The timestamp that lies a number of units of 2^-32 seconds after another, or before it. -/
def plus (t : Timestamp) (units : Int) : Timestamp := .ofBits (.ofInt (t.bits.toNat + units))

theorem toNat_bits_plus (t : Timestamp) (units : Int) :
    ((t.plus units).bits.toNat : Int) = (t.bits.toNat + units) % 2 ^ 64 := by
  have hlt : ((t.bits.toNat + units) % 2 ^ 64).toNat < UInt64.size := by
    unfold UInt64.size
    omega
  rw [plus, bits_ofBits, UInt64.ofInt, UInt64.toNat_ofNat_of_lt' hlt]
  omega

/-- The signed units of 2^-32 seconds from one timestamp to another, in whatever eras they lie. -/
def unitsTo (t later : Timestamp) : Int := (later.bits - t.bits).toInt64.toInt

theorem unitsTo_mem_range (t later : Timestamp) :
    -2 ^ 63 ≤ t.unitsTo later ∧ t.unitsTo later < 2 ^ 63 :=
  ⟨Int64.le_toInt _, Int64.toInt_lt _⟩

theorem unitsTo_eq_bmod (t later : Timestamp) :
    t.unitsTo later = ((later.bits.toNat : Int) - t.bits.toNat).bmod (2 ^ 64) := by
  have ht := t.bits.toNat_lt
  have hlater := later.bits.toNat_lt
  rw [unitsTo, ← Int64.toInt_toBitVec, UInt64.toBitVec_toInt64, BitVec.toInt_eq_toNat_bmod,
    UInt64.toNat_toBitVec, UInt64.toNat_sub, Int.bmod_def, Int.bmod_def]
  omega

/-- Words tell a difference of less than half their range. -/
theorem unitsTo_eq (hmod : (later.bits.toNat - t.bits.toNat - units : Int) % 2 ^ 64 = 0)
    (hnear : units.natAbs < 2 ^ 63) : t.unitsTo later = units := by
  rw [unitsTo_eq_bmod, Int.bmod_def]
  omega

/-- Moving both timestamps leaves their difference. -/
theorem unitsTo_plus (t later : Timestamp) (units : Int) :
    (t.plus units).unitsTo (later.plus units) = t.unitsTo later := by
  rw [unitsTo_eq_bmod, unitsTo_eq_bmod, toNat_bits_plus, toNat_bits_plus, Int.bmod_def,
    Int.bmod_def]
  omega

end NetworkTime.Timestamp
