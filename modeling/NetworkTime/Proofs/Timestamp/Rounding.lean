import NetworkTime.Proofs.Instant

/-! How an instant is rounded to a timestamp, and a fraction to nanoseconds. -/

namespace NetworkTime.Timestamp
variable {i : Instant} {n : Nat}

/-- The fraction nearest to a number of nanoseconds. -/
def nearestFraction (nanos : Nat) : Nat := (nanos * UInt32.size + 500000000) / nanosPerSecond

/-- Nanoseconds below a second never round up to a whole one. -/
theorem nearestFraction_lt (h : n < nanosPerSecond) : nearestFraction n < UInt32.size := by
  unfold nearestFraction UInt32.size nanosPerSecond at *
  omega

/-- A fraction is no more than half a unit away from its nanoseconds, so that one of them is lost at
most when it is rounded down. -/
theorem nanosOfFraction_nearest (h : n < nanosPerSecond) :
    nanosOfFraction (.ofNat (nearestFraction n)) = n ∨
      nanosOfFraction (.ofNat (nearestFraction n)) + 1 = n := by
  have hlt := nearestFraction_lt h
  rw [nanosOfFraction, UInt32.toNat_ofNat_of_lt' hlt]
  unfold nearestFraction UInt32.size nanosPerSecond at *
  omega

theorem nanosOfFraction_lt (f : UInt32) : nanosOfFraction f < nanosPerSecond := by
  have hlt := f.toNat_lt
  unfold nanosOfFraction UInt32.size nanosPerSecond
  omega

/-- The fraction that the nanoseconds of an instant are rounded to, counted from the second before
if they lie before 1970. -/
def roundedFraction (i : Instant) : UInt64 :=
  fractionOfNanos (i.nanos.toInt64 + if i.nanos < 0 then 1000000000 else 0).toUInt64

/-- The fraction is a second or more. One second is carried over then, and the rest is lost. -/
def Carries (i : Instant) : Prop := 4294967295 < roundedFraction i

instance : Decidable (Carries i) := inferInstanceAs (Decidable (_ < _))

theorem ofInstant_eq_ite (i : Instant) : ofInstant i =
    { seconds := .ofNat ((i.seconds.toInt + epochDelta - (if i.nanos.toInt < 0 then 1 else 0) +
        if Carries i then 1 else 0) % eraSeconds).toNat
      fraction := if Carries i then 0 else (roundedFraction i).toUInt32 } := by
  have hneg : i.nanos < 0 ↔ i.nanos.toInt < 0 := Int32.lt_iff_toInt_lt
  unfold ofInstant Carries roundedFraction
  simp only [decide_eq_true_eq, hneg]

theorem toNat_ofNat_emod (n : Int) :
    ((UInt32.ofNat (n % eraSeconds).toNat).toNat : Int) = n % eraSeconds := by
  have hlt : (n % eraSeconds).toNat < UInt32.size := by
    unfold UInt32.size eraSeconds
    omega
  rw [UInt32.toNat_ofNat_of_lt' hlt]
  unfold eraSeconds
  omega

theorem toInt_borrowed (i : Instant) :
    (i.nanos.toInt64 + if i.nanos < 0 then 1000000000 else 0).toInt =
      i.nanos.toInt + if i.nanos.toInt < 0 then (nanosPerSecond : Int) else 0 := by
  have hneg : i.nanos < 0 ↔ i.nanos.toInt < 0 := Int32.lt_iff_toInt_lt
  have hle := i.nanos.le_toInt
  have hlt := i.nanos.toInt_lt
  by_cases hn : i.nanos.toInt < 0
  · rw [if_pos (hneg.mpr hn), if_pos hn, Int64.toInt_add, Int32.toInt_toInt64]
    change (i.nanos.toInt + 1000000000).bmod (2 ^ 64) = i.nanos.toInt + 1000000000
    exact Int.bmod_eq_of_le (by omega) (by omega)
  · rw [if_neg (mt hneg.mp hn), if_neg hn, Int64.add_zero, Int32.toInt_toInt64, Int.add_zero]

/-- The word that holds a signed one holds it up to its range. -/
theorem toNat_toUInt64 (x : Int64) : (x.toUInt64.toNat : Int) = x.toInt % 2 ^ 64 := by
  have hlt := x.toUInt64.toNat_lt
  have hbits : x.toBitVec.toNat = x.toUInt64.toNat := rfl
  rw [← Int64.toInt_toBitVec, BitVec.toInt_eq_toNat_bmod, hbits, Int.bmod_def]
  omega

theorem toNat_fractionOfNanos (w : UInt64) :
    (fractionOfNanos w).toNat =
      (w.toNat * UInt32.size + 500000000) % 2 ^ 64 / nanosPerSecond := by
  rw [fractionOfNanos, UInt64.toNat_div, UInt64.toNat_add, UInt64.toNat_shiftLeft,
    Nat.shiftLeft_eq]
  change (w.toNat * 4294967296 % 2 ^ 64 + 500000000) % 2 ^ 64 / 1000000000 = _
  rw [Nat.mod_add_mod]

/-- Nanoseconds that are left before 1970 wrap around. -/
theorem toNat_roundedFraction (i : Instant) : ((roundedFraction i).toNat : Int) =
    ((i.nanos.toInt + if i.nanos.toInt < 0 then (nanosPerSecond : Int) else 0) * UInt32.size +
      500000000) % 2 ^ 64 / nanosPerSecond := by
  have hword := toNat_toUInt64 (i.nanos.toInt64 + if i.nanos < 0 then 1000000000 else 0)
  rw [toInt_borrowed] at hword
  rw [roundedFraction, toNat_fractionOfNanos]
  unfold UInt32.size nanosPerSecond at *
  omega

/-- Wrapped nanoseconds always carry, as their fraction is close to the top of a word. -/
theorem carries_iff (i : Instant) :
    Carries i ↔ nanosPerSecond ≤ i.nanos.toInt ∨ i.nanos.toInt < -nanosPerSecond := by
  have hle := i.nanos.le_toInt
  have hlt := i.nanos.toInt_lt
  have hfraction := toNat_roundedFraction i
  rw [Carries, UInt64.lt_iff_toNat_lt]
  change 4294967295 < (roundedFraction i).toNat ↔ _
  unfold UInt32.size nanosPerSecond at *
  omega

theorem not_carries_of_isNormal (h : i.IsNormal) : ¬ Carries i := by
  intro hcarry
  have hlt := h.nanos_lt
  have hnanos := (carries_iff i).mp hcarry
  omega

/-- A timestamp holds the seconds since 1900 up to whole eras, and the fraction nearest to what is
left, for up to a second of nanoseconds. -/
theorem ofInstant_eq_of_natAbs_le (h : i.nanos.toInt.natAbs ≤ nanosPerSecond) :
    ofInstant i = ⟨.ofNat (i.secondsSince1900 % eraSeconds).toNat,
      .ofNat (nearestFraction i.subsecond)⟩ := by
  rw [ofInstant_eq_ite]
  by_cases hcarry : Carries i
  · have hnanos := (carries_iff i).mp hcarry
    have hwhole : i.nanos.toInt = nanosPerSecond := by omega
    obtain ⟨hseconds, hsubsecond⟩ := Instant.rounded_of_whole hwhole
    rw [if_pos hcarry, if_pos hcarry, hseconds, hsubsecond, if_neg (by omega), Int.sub_zero]
    rfl
  · have hnanos := mt (carries_iff i).mpr hcarry
    have hround := toNat_roundedFraction i
    have hcases := Instant.rounded_cases (i := i) (by omega) (by omega)
    have hlt := i.subsecond_lt
    have hseconds : i.seconds.toInt + epochDelta - (if i.nanos.toInt < 0 then 1 else 0) =
        i.secondsSince1900 := by
      omega
    have hfraction : (roundedFraction i).toNat = nearestFraction i.subsecond := by
      unfold nearestFraction UInt32.size nanosPerSecond at *
      omega
    rw [if_neg hcarry, if_neg hcarry, hseconds, Int.add_zero, ← hfraction]
    rfl

theorem toNat_seconds_of_natAbs_le (h : i.nanos.toInt.natAbs ≤ nanosPerSecond) :
    ((ofInstant i).seconds.toNat : Int) = i.secondsSince1900 % eraSeconds := by
  rw [ofInstant_eq_of_natAbs_le h]
  exact toNat_ofNat_emod i.secondsSince1900

theorem toNat_fraction_of_natAbs_le (h : i.nanos.toInt.natAbs ≤ nanosPerSecond) :
    (ofInstant i).fraction.toNat = nearestFraction i.subsecond := by
  rw [ofInstant_eq_of_natAbs_le h, UInt32.toNat_ofNat_of_lt' (nearestFraction_lt i.subsecond_lt)]

/-- Nothing carries over from the fraction of a normal instant. -/
theorem ofInstant_eq (h : i.IsNormal) :
    ofInstant i = ⟨.ofNat (i.secondsSince1900 % eraSeconds).toNat,
      .ofNat (nearestFraction i.subsecond)⟩ := by
  apply ofInstant_eq_of_natAbs_le
  exact Nat.le_of_lt h.nanos_lt

end NetworkTime.Timestamp
