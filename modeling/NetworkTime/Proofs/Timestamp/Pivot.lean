import NetworkTime.Proofs.Timestamp.Era

/-! The instant of a timestamp near a pivot, in whatever era the pivot lies. -/

namespace NetworkTime.Timestamp
variable {pivot moved : Instant} {seconds : UInt32} {k : Int}

/-- The choice depends only on where in its era the pivot lies. -/
theorem secondsNear_add_eras (h : moved.seconds.toInt = pivot.seconds.toInt + k * eraSeconds) :
    secondsNear seconds moved = secondsNear seconds pivot + k * eraSeconds := by
  have hnow : moved.seconds.toInt + epochDelta =
      pivot.seconds.toInt + epochDelta + k * eraSeconds := by
    omega
  generalize hpivot : pivot.seconds.toInt + epochDelta = now at hnow
  have hera : (now + k * eraSeconds) / eraSeconds = now / eraSeconds + k :=
    Int.add_mul_ediv_right _ _ (by decide)
  have hcandidate : (now / eraSeconds + k) * eraSeconds + seconds.toNat =
      now / eraSeconds * eraSeconds + seconds.toNat + k * eraSeconds := by
    rw [Int.add_mul]
    omega
  have hdiff (candidate : Int) :
      candidate + k * eraSeconds - (now + k * eraSeconds) = candidate - now := by
    omega
  simp only [secondsNear, hnow, hpivot, hera, hcandidate, hdiff]
  split
  · omega
  · split <;> omega

theorem natAbs_secondsNear_le (hroom : pivot.seconds.toInt.natAbs ≤ 2 ^ 61) :
    (secondsNear seconds pivot).natAbs ≤ 2 ^ 62 := by
  have hle := (secondsNear_spec seconds pivot).2
  unfold epochDelta at hle
  omega

theorem toInstantNear_spec (t : Timestamp) (hroom : pivot.seconds.toInt.natAbs ≤ 2 ^ 61) :
    (toInstantNear t pivot).IsNormal ∧ (toInstantNear t pivot).totalNanos =
      (secondsNear t.seconds pivot - epochDelta) * nanosPerSecond + nanosOfFraction t.fraction := by
  exact instantAt_spec (natAbs_secondsNear_le hroom) t.fraction

theorem toInstantNear_eq_toInstant {t : Timestamp}
    (hnear : ((t.seconds.toNat : Int) - (pivot.seconds.toInt + epochDelta)).natAbs < 2 ^ 31) :
    toInstantNear t pivot = toInstant t := by
  have hfirst : (t.seconds.toNat : Int) % eraSeconds = t.seconds.toNat := by
    have hlt := t.seconds.toNat_lt
    unfold eraSeconds
    omega
  rw [toInstantNear, secondsNear_eq hfirst hnear, toInstant]

/-- The seconds of a timestamp are taken in the era that puts them nearest to the pivot, half an era
away at most, and the fraction is rounded down to nanoseconds. So the instant moves with the pivot
by whole eras, it is that of the first era for a pivot less than half an era away from there, and
its parts are on one side of 1970. -/
theorem toInstantNear_nearest (t : Timestamp) (pivot : Instant)
    (hroom : pivot.seconds.toInt.natAbs ≤ 2 ^ 61) :
    (∃ n : Int, n % eraSeconds = t.seconds.toNat ∧
      (n - (pivot.seconds.toInt + epochDelta)).natAbs ≤ 2 ^ 31 ∧
      (toInstantNear t pivot).totalNanos =
        (n - epochDelta) * nanosPerSecond + t.fraction.toNat * nanosPerSecond / 2 ^ 32) ∧
    (∀ (moved : Instant) (k : Int), moved.seconds.toInt.natAbs ≤ 2 ^ 61 →
      moved.seconds.toInt = pivot.seconds.toInt + k * eraSeconds →
      (toInstantNear t moved).totalNanos =
        (toInstantNear t pivot).totalNanos + k * eraSeconds * nanosPerSecond) ∧
    (((t.seconds.toNat : Int) - (pivot.seconds.toInt + epochDelta)).natAbs < 2 ^ 31 →
      toInstantNear t pivot = toInstant t) ∧
    (toInstantNear t pivot).IsNormal := by
  obtain ⟨hnormal, htotal⟩ := toInstantNear_spec t hroom
  obtain ⟨hagree, hnear⟩ := secondsNear_spec t.seconds pivot
  refine ⟨⟨_, hagree, hnear, htotal⟩, ?_, toInstantNear_eq_toInstant, hnormal⟩
  intro moved k hroom' hmoved
  rw [(toInstantNear_spec t hroom').2, htotal, secondsNear_add_eras hmoved]
  unfold eraSeconds nanosPerSecond
  omega

/-- A pivot before 1900, half an era away from two counts of seconds that agree with the timestamp.
The one in its own era is taken, and with a pivot an era later the other. -/
theorem toInstantNear_nearest_tie :
    let pivot : Instant := ⟨-2208988805, 0⟩
    let moved : Instant := ⟨2085978491, 0⟩
    let t : Timestamp := ⟨2147483643, 2147483648⟩
    toInstantNear t pivot = ⟨-4356472452, -500000000⟩ ∧
    (toInstantNear t moved).totalNanos = -4356472452500000000 + 4294967296000000000 ∧
    (toInstantNear t pivot).IsNormal := by
  obtain ⟨-, hmoved, -, hnormal⟩ :=
    toInstantNear_nearest ⟨2147483643, 2147483648⟩ ⟨-2208988805, 0⟩ (by decide)
  exact ⟨by decide, hmoved ⟨2085978491, 0⟩ 1 (by decide) (by decide), hnormal⟩

end NetworkTime.Timestamp
