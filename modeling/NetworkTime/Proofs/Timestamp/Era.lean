import NetworkTime.Proofs.Timestamp.Rounding

/-! Timestamps do not tell their era. The instant that one stands for is found again near a pivot,
or in the first era. -/

namespace NetworkTime.Timestamp
variable {i pivot : Instant} {seconds : UInt32} {n : Int}

/-- The seconds that are chosen agree with those of the timestamp, and no era is nearer to the
pivot. -/
theorem secondsNear_spec (seconds : UInt32) (pivot : Instant) :
    secondsNear seconds pivot % eraSeconds = seconds.toNat ∧
      (secondsNear seconds pivot - (pivot.seconds.toInt + epochDelta)).natAbs ≤ 2 ^ 31 := by
  have hlt := seconds.toNat_lt
  generalize hnow : pivot.seconds.toInt + epochDelta = now
  simp only [secondsNear, hnow, eraSeconds]
  split
  · omega
  · split <;> omega

/-- Only one count of seconds less than half an era away from the pivot agrees with a timestamp. -/
theorem secondsNear_eq (hagree : n % eraSeconds = seconds.toNat)
    (hnear : (n - (pivot.seconds.toInt + epochDelta)).natAbs < 2 ^ 31) :
    secondsNear seconds pivot = n := by
  obtain ⟨hmod, hle⟩ := secondsNear_spec seconds pivot
  unfold eraSeconds at hagree hmod
  omega

theorem toNat_seconds_ofInstant (h : i.IsNormal) :
    ((ofInstant i).seconds.toNat : Int) = i.secondsSince1900 % eraSeconds := by
  apply toNat_seconds_of_natAbs_le
  exact Nat.le_of_lt h.nanos_lt

theorem nanosOfFraction_ofInstant (h : i.IsNormal) :
    nanosOfFraction (ofInstant i).fraction = i.subsecond ∨
      nanosOfFraction (ofInstant i).fraction + 1 = i.subsecond := by
  rw [ofInstant_eq h]
  exact nanosOfFraction_nearest i.subsecond_lt

/-- Seconds of 62 bits leave room for their nanoseconds. -/
theorem natAbs_nanos_lt (hn : n.natAbs ≤ 2 ^ 62) (f : UInt32) :
    ((n - epochDelta) * nanosPerSecond + nanosOfFraction f).natAbs < 2 ^ 63 * nanosPerSecond := by
  have hlt := nanosOfFraction_lt f
  unfold nanosPerSecond epochDelta at *
  omega

theorem instantAt_spec (hn : n.natAbs ≤ 2 ^ 62) (f : UInt32) :
    (instantAt n f).IsNormal ∧
      (instantAt n f).totalNanos = (n - epochDelta) * nanosPerSecond + nanosOfFraction f := by
  have hlt := natAbs_nanos_lt hn f
  exact ⟨Instant.isNormal_ofTotalNanos hlt, Instant.totalNanos_ofTotalNanos hlt⟩

/-- The second is kept, and the fraction is rounded down within it. -/
theorem rounded_instantAt (hn : n.natAbs ≤ 2 ^ 62) (f : UInt32) :
    (instantAt n f).secondsSince1900 = n ∧ (instantAt n f).subsecond = nanosOfFraction f := by
  have htotal := (instantAt_spec hn f).2
  have hlt := nanosOfFraction_lt f
  unfold Instant.secondsSince1900 Instant.subsecond nanosPerSecond at *
  omega

/-- The second instant is what is left of the first: no more than a nanosecond is lost. -/
structure Recovers (i j : Instant) : Prop where
  isNormal : j.IsNormal
  totalNanos : j.totalNanos = i.totalNanos ∨ j.totalNanos = i.totalNanos - 1

theorem recovers_instantAt (h : i.IsNormal) (hroom : i.seconds.toInt.natAbs ≤ 2 ^ 61) :
    Recovers i (instantAt i.secondsSince1900 (ofInstant i).fraction) := by
  have hseconds : i.secondsSince1900.natAbs ≤ 2 ^ 62 := by
    have hlt := h.nanos_lt
    have hcases := Instant.rounded_cases (i := i) (by omega) (by omega)
    unfold epochDelta at hcases
    omega
  obtain ⟨hnormal, htotal⟩ := instantAt_spec hseconds (ofInstant i).fraction
  refine ⟨hnormal, ?_⟩
  rw [htotal, i.totalNanos_eq]
  rcases nanosOfFraction_ofInstant h with hkept | hlost
  · exact Or.inl (by omega)
  · exact Or.inr (by omega)

/-- An instant is found again up to a nanosecond: near a pivot that is less than half an era away,
and without a pivot if it lies in the first era. -/
theorem recovers_ofInstant (pivot : Instant) (h : i.IsNormal)
    (hroom : i.seconds.toInt.natAbs ≤ 2 ^ 61) :
    ((i.secondsSince1900 - (pivot.seconds.toInt + epochDelta)).natAbs < 2 ^ 31 →
      Recovers i (toInstantNear (ofInstant i) pivot)) ∧
    (0 ≤ i.secondsSince1900 → i.secondsSince1900 < 2 ^ 32 →
      Recovers i (toInstant (ofInstant i))) := by
  have hagree := toNat_seconds_ofInstant h
  have hrecovers := recovers_instantAt h hroom
  constructor
  · intro hnear
    rw [toInstantNear, secondsNear_eq hagree.symm hnear]
    exact hrecovers
  · intro hle hlt
    have hfirst : ((ofInstant i).seconds.toNat : Int) = i.secondsSince1900 := by
      unfold eraSeconds at hagree
      omega
    rw [toInstant, hfirst]
    exact hrecovers

/-- Nine seconds into the first era, with nanoseconds before 1970 and a pivot before 1900. -/
theorem recovers_ofInstant_beforePivotEra :
    let i : Instant := ⟨-2208988790, -7⟩
    let pivot : Instant := ⟨-2208988805, 0⟩
    i.IsNormal ∧ i.secondsSince1900 = 9 ∧ pivot.seconds.toInt + epochDelta = -5 ∧
      Recovers i (toInstantNear (ofInstant i) pivot) ∧ Recovers i (toInstant (ofInstant i)) := by
  have hnormal : Instant.IsNormal ⟨-2208988790, -7⟩ := ⟨by decide, by decide⟩
  obtain ⟨hnear, hfirst⟩ := recovers_ofInstant ⟨-2208988805, 0⟩ hnormal (by decide)
  exact ⟨hnormal, by decide, by decide, hnear (by decide), hfirst (by decide) (by decide)⟩

end NetworkTime.Timestamp
