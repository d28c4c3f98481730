import NetworkTime.Proofs.Timestamp.Difference
import NetworkTime.Proofs.Timestamp.Era

/-! A timestamp is the number of units of 2^-32 seconds since 1900 that is nearest to its instant,
up to whole eras. Within an era timestamps are in the order of their instants. -/

namespace NetworkTime

/-- The units of 2^-32 seconds since the start of 1900 that are nearest to an instant. -/
def Instant.unitsSince1900 (i : Instant) : Int :=
  ((i.totalNanos + epochDelta * nanosPerSecond) * 2 ^ 32 + 500000000) / nanosPerSecond

/-- The number of the era that an instant lies in. The one that starts with the year 1900 is 0. -/
def Instant.era (i : Instant) : Int := i.secondsSince1900 / eraSeconds

namespace Timestamp
variable {i j : Instant} {k : Int} {s t : Timestamp}

/-- The order by seconds and then by fractions is that of the words. -/
theorem compare_eq_compare_bits (s t : Timestamp) :
    compare s t = compare s.bits.toNat t.bits.toNat := by
  have hword (a b : UInt32) : compare a b = compare a.toNat b.toNat := by
    change compareOfLessAndEq a b = compareOfLessAndEq a.toNat b.toNat
    simp only [compareOfLessAndEq, UInt32.lt_iff_toNat_lt, ← UInt32.toNat_inj]
  have hlex : compare s t = (compare s.seconds t.seconds).then
      ((compare s.fraction t.fraction).then .eq) := by
    cases s
    cases t
    rfl
  have hs := s.fraction.toNat_lt
  have ht := t.fraction.toNat_lt
  rw [hlex, hword, hword, bits_toNat, bits_toNat]
  simp only [Nat.compare_eq_ite_lt]
  split_ifs <;> first | rfl | omega

theorem unitsSince1900_eq (i : Instant) :
    i.unitsSince1900 = i.secondsSince1900 * 2 ^ 32 + nearestFraction i.subsecond := by
  unfold Instant.unitsSince1900 Instant.secondsSince1900 Instant.subsecond nearestFraction
    UInt32.size nanosPerSecond
  omega

/-- Rounding leads into no other era. -/
theorem unitsSince1900_div (i : Instant) : i.unitsSince1900 / 2 ^ 64 = i.era := by
  have hlt := nearestFraction_lt i.subsecond_lt
  rw [unitsSince1900_eq, Instant.era]
  unfold eraSeconds UInt32.size at *
  omega

theorem unitsSince1900_lt (h : i.totalNanos < j.totalNanos) :
    i.unitsSince1900 < j.unitsSince1900 := by
  unfold Instant.unitsSince1900 nanosPerSecond
  omega

theorem toNat_bits_ofInstant (h : i.IsNormal) :
    ((ofInstant i).bits.toNat : Int) = i.unitsSince1900 % 2 ^ 64 := by
  have hseconds := toNat_seconds_ofInstant h
  have hlt := nearestFraction_lt i.subsecond_lt
  have hfraction := toNat_fraction_of_natAbs_le (Nat.le_of_lt h.nanos_lt)
  rw [bits_toNat, unitsSince1900_eq, hfraction]
  unfold eraSeconds UInt32.size at *
  omega

theorem bits_ofInstant_lt (hi : i.IsNormal) (hj : j.IsNormal) (hera : i.era = j.era)
    (h : i.totalNanos < j.totalNanos) : (ofInstant i).bits < (ofInstant j).bits := by
  have hlt := unitsSince1900_lt h
  have hbits := toNat_bits_ofInstant hi
  have hbits' := toNat_bits_ofInstant hj
  -- Both counts have the same quotient, the era, so the words keep their order.
  have hdiv := unitsSince1900_div i
  have hdiv' := unitsSince1900_div j
  rw [UInt64.lt_iff_toNat_lt]
  omega

/-- Whole eras are lost. -/
theorem ofInstant_add_eras (hi : i.IsNormal) (hj : j.IsNormal)
    (h : j.totalNanos = i.totalNanos + k * eraSeconds * nanosPerSecond) :
    ofInstant j = ofInstant i := by
  have hseconds : j.secondsSince1900 = i.secondsSince1900 + k * eraSeconds := by
    unfold Instant.secondsSince1900 eraSeconds nanosPerSecond at *
    omega
  have hsub : j.subsecond = i.subsecond := by
    unfold Instant.subsecond eraSeconds nanosPerSecond at *
    omega
  rw [ofInstant_eq hi, ofInstant_eq hj, hseconds, hsub, Int.add_mul_emod_self_right]

theorem compare_ofInstant (hi : i.IsNormal) (hj : j.IsNormal) (hera : i.era = j.era) :
    compare (ofInstant i) (ofInstant j) = compare i.totalNanos j.totalNanos := by
  rw [compare_eq_compare_bits]
  rcases Int.lt_trichotomy i.totalNanos j.totalNanos with hlt | heq | hgt
  · have hbits := UInt64.lt_iff_toNat_lt.mp (bits_ofInstant_lt hi hj hera hlt)
    rw [Nat.compare_eq_lt.mpr hbits, Int.compare_eq_lt.mpr hlt]
  · have hsame : ofInstant j = ofInstant i := ofInstant_add_eras (k := 0) hi hj (by omega)
    rw [hsame, heq, Nat.compare_eq_eq.mpr rfl, Int.compare_eq_eq.mpr rfl]
  · have hbits := UInt64.lt_iff_toNat_lt.mp (bits_ofInstant_lt hj hi hera.symm hgt)
    rw [Nat.compare_eq_gt.mpr hbits, Int.compare_eq_gt.mpr hgt]

/-- The word of a timestamp is the number of units since 1900 that is nearest to its instant, halves
up, as far as it fits in a word. So timestamps of one era are in the same order as their instants,
and no two of these share a timestamp, while whole eras between two instants make no difference. -/
theorem ofInstant_nearest (h : i.IsNormal) :
    ((ofInstant i).bits.toNat : Int) =
      ((i.totalNanos + epochDelta * nanosPerSecond) * 2 ^ 32 + 500000000) / nanosPerSecond %
        2 ^ 64 ∧
    (∀ j : Instant, j.IsNormal → i.era = j.era →
      compare (ofInstant i) (ofInstant j) = compare i.totalNanos j.totalNanos ∧
      ((ofInstant i).bits < (ofInstant j).bits ↔ i.totalNanos < j.totalNanos)) ∧
    ∀ (j : Instant) (k : Int), j.IsNormal →
      j.totalNanos = i.totalNanos + k * eraSeconds * nanosPerSecond →
      ofInstant j = ofInstant i := by
  refine ⟨toNat_bits_ofInstant h, ?_, ?_⟩
  · intro j hj hera
    have hcompare := compare_ofInstant h hj hera
    refine ⟨hcompare, ?_⟩
    rw [compare_eq_compare_bits] at hcompare
    rw [UInt64.lt_iff_toNat_lt, ← Nat.compare_eq_lt, hcompare, Int.compare_eq_lt]
  · intro j k hj hmoved
    exact ofInstant_add_eras h hj hmoved

/-- Instants before 1970 a nanosecond apart, and one an era later, which lies after 1970. -/
theorem ofInstant_nearest_before1970 :
    let i : Instant := ⟨-5, -7⟩
    let next : Instant := ⟨-5, -6⟩
    let later : Instant := ⟨4294967290, 999999993⟩
    i.IsNormal ∧ ofInstant i = ⟨2208988794, 4294967266⟩ ∧
    compare (ofInstant i) (ofInstant next) = compare i.totalNanos next.totalNanos ∧
    ofInstant later = ofInstant i := by
  have hnormal : Instant.IsNormal ⟨-5, -7⟩ := ⟨by decide, by decide⟩
  obtain ⟨-, horder, heras⟩ := ofInstant_nearest hnormal
  have hnext := horder ⟨-5, -6⟩ ⟨by decide, by decide⟩ (by decide)
  exact ⟨hnormal, by decide, hnext.1,
    heras ⟨4294967290, 999999993⟩ 1 ⟨by decide, by decide⟩ (by decide)⟩

end Timestamp
end NetworkTime
