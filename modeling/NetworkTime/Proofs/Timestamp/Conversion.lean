import Mathlib.Dynamics.FixedPoints.Basic
import NetworkTime.Proofs.Timestamp.Pivot

/-! What is left after a conversion there and back: of a timestamp all but four units of its
fraction, and of an instant all but two nanoseconds, however often it is converted. -/

namespace NetworkTime

/-- The instant that is read from the timestamp of an instant. -/
def Instant.reread (i : Instant) : Instant := (Timestamp.ofInstant i).toInstant

/-- A timestamp has room for the seconds since 1900. -/
structure Instant.IsOfFirstEra (i : Instant) : Prop where
  isNormal : i.IsNormal
  nonneg : 0 ≤ i.secondsSince1900
  lt : i.secondsSince1900 < 2 ^ 32

namespace Timestamp
variable {i pivot : Instant} {t : Timestamp} {second : Int} {n : Nat}

/-- A nanosecond has fewer than five units, and rounding to the nearest one gains none. -/
theorem nearestFraction_nanosOfFraction (f : UInt32) :
    nearestFraction (nanosOfFraction f) ≤ f.toNat ∧
      f.toNat ≤ nearestFraction (nanosOfFraction f) + 4 := by
  unfold nearestFraction nanosOfFraction UInt32.size nanosPerSecond
  omega

/-- The instant lies in a second since 1900, and its timestamp is in the same second as another one,
no more than four units before it. -/
structure KeepsSecond (t : Timestamp) (second : Int) (i : Instant) : Prop where
  secondsSince1900 : i.secondsSince1900 = second
  not_carries : ¬ Carries i
  seconds : (ofInstant i).seconds = t.seconds
  fraction_le : (ofInstant i).fraction.toNat ≤ t.fraction.toNat
  le_fraction : t.fraction.toNat ≤ (ofInstant i).fraction.toNat + 4

theorem keepsSecond_instantAt (hroom : second.natAbs ≤ 2 ^ 62)
    (hagree : second % eraSeconds = t.seconds.toNat) :
    KeepsSecond t second (instantAt second t.fraction) := by
  have hnormal := (instantAt_spec hroom t.fraction).1
  obtain ⟨hsecond, hsubsecond⟩ := rounded_instantAt hroom t.fraction
  obtain ⟨hle, hwithin⟩ := nearestFraction_nanosOfFraction t.fraction
  have hfraction := toNat_fraction_of_natAbs_le (Nat.le_of_lt hnormal.nanos_lt)
  rw [hsubsecond] at hfraction
  refine ⟨hsecond, not_carries_of_isNormal hnormal, ?_, ?_, ?_⟩
  · rw [ofInstant_eq hnormal, hsecond, hagree, Int.toNat_natCast, UInt32.ofNat_toNat]
  · rw [hfraction]
    exact hle
  · rw [hfraction]
    exact hwithin

/-- The instant of a timestamp, near a pivot or in the first era, lies in the second of the
timestamp, on either side of 1970. Turned into a timestamp again it keeps this second without a
carry, and it loses four units of the fraction at most. -/
theorem keepsSecond_of_decoded (t : Timestamp) (pivot : Instant)
    (hroom : pivot.seconds.toInt.natAbs ≤ 2 ^ 61) :
    KeepsSecond t (secondsNear t.seconds pivot) (toInstantNear t pivot) ∧
      KeepsSecond t t.seconds.toNat (toInstant t) := by
  have hlt := t.seconds.toNat_lt
  obtain ⟨hagree, -⟩ := secondsNear_spec t.seconds pivot
  constructor
  · exact keepsSecond_instantAt (natAbs_secondsNear_le hroom) hagree
  · apply keepsSecond_instantAt
    · omega
    · unfold eraSeconds
      omega

/-- The last half second before 1970 and four units more, which are less than a nanosecond. -/
theorem keepsSecond_of_decoded_before1970 :
    let t : Timestamp := ⟨2208988799, 2147483652⟩
    let pivot : Instant := ⟨-2305843009213693952, 0⟩
    pivot.seconds.toInt.natAbs ≤ 2 ^ 61 ∧ toInstant t = ⟨0, -500000000⟩ ∧
    ofInstant (toInstant t) = ⟨2208988799, 2147483648⟩ ∧
    KeepsSecond t (secondsNear t.seconds pivot) (toInstantNear t pivot) ∧
    KeepsSecond t t.seconds.toNat (toInstant t) := by
  obtain ⟨hnear, hfirst⟩ := keepsSecond_of_decoded ⟨2208988799, 2147483652⟩
    ⟨-2305843009213693952, 0⟩ (by decide)
  exact ⟨by decide, by decide, by decide, hnear, hfirst⟩

/-- The nanoseconds that are read from the fraction nearest to some. -/
def regained (nanos : Nat) : Nat := nanosOfFraction (.ofNat (nearestFraction nanos))

/-- What nanoseconds have over whole units, in parts of 10^-9 units. -/
def rest (nanos : Nat) : Nat := nanos * UInt32.size % nanosPerSecond

/-- The nearest unit lies before these nanoseconds, and is read as one nanosecond less. -/
def Loses (nanos : Nat) : Prop := 0 < rest nanos ∧ rest nanos < 500000000

theorem nearestFraction_mul (n : Nat) :
    (rest n < 500000000 ∧ nearestFraction n * nanosPerSecond + rest n = n * UInt32.size) ∨
    (500000000 ≤ rest n ∧ nearestFraction n * nanosPerSecond + rest n =
      n * UInt32.size + nanosPerSecond) := by
  have hsplit (units : Nat) :
      (units % nanosPerSecond < 500000000 ∧ (units + 500000000) / nanosPerSecond * nanosPerSecond +
        units % nanosPerSecond = units) ∨
      (500000000 ≤ units % nanosPerSecond ∧ (units + 500000000) / nanosPerSecond * nanosPerSecond +
        units % nanosPerSecond = units + nanosPerSecond) := by
    unfold nanosPerSecond
    omega
  exact hsplit (n * UInt32.size)

theorem rest_lt (n : Nat) : rest n < nanosPerSecond := Nat.mod_lt _ (by decide)

theorem rest_succ (n : Nat) : rest (n + 1) = (rest n + 294967296) % nanosPerSecond := by
  unfold rest UInt32.size nanosPerSecond
  omega

theorem regained_of_loses (hn : n < nanosPerSecond) (h : Loses n) : regained n + 1 = n := by
  obtain ⟨hpos, hdown⟩ := h
  rw [regained, nanosOfFraction, UInt32.toNat_ofNat_of_lt' (nearestFraction_lt hn)]
  rcases nearestFraction_mul n with ⟨-, hmul⟩ | ⟨hup, -⟩
  · unfold UInt32.size at *
    omega
  · omega

theorem regained_of_not_loses (hn : n < nanosPerSecond) (h : ¬ Loses n) : regained n = n := by
  have hrest := rest_lt n
  unfold Loses at h
  rw [regained, nanosOfFraction, UInt32.toNat_ofNat_of_lt' (nearestFraction_lt hn)]
  rcases nearestFraction_mul n with ⟨hdown, hmul⟩ | ⟨hup, hmul⟩
  · unfold UInt32.size at *
    omega
  · unfold UInt32.size nanosPerSecond at *
    omega

/-- Each nanosecond adds 0.294967296 to the rest, so that not three in a row leave a rest below a
half. -/
theorem not_loses_thrice (h : Loses n) (hsucc : Loses (n + 1)) : ¬ Loses (n + 1 + 1) := by
  unfold Loses at *
  rw [rest_succ] at hsucc
  rw [rest_succ, rest_succ]
  unfold nanosPerSecond at *
  omega

theorem regained_regained (hn : n < nanosPerSecond) :
    regained (regained (regained n)) = regained (regained n) := by
  -- After each loss the nanoseconds are put in terms of those that are left.
  by_cases hfirst : Loses n
  · have honce := regained_of_loses hn hfirst
    generalize regained n = m at honce ⊢
    subst honce
    by_cases hsecond : Loses m
    · have htwice := regained_of_loses (by omega) hsecond
      generalize regained m = l at htwice ⊢
      subst htwice
      exact regained_of_not_loses (by omega) fun hthird => not_loses_thrice hthird hsecond hfirst
    · have hm := regained_of_not_loses (by omega) hsecond
      rw [hm, hm]
  · have hkept := regained_of_not_loses hn hfirst
    simp only [hkept]

theorem regained_bounds (hn : n < nanosPerSecond) : n ≤ regained n + 1 ∧ regained n ≤ n := by
  have hnearest := nanosOfFraction_nearest hn
  unfold regained
  omega

theorem iterate_regained (hn : n < nanosPerSecond) (k : Nat) :
    regained^[k + 2] n = regained (regained n) := by
  induction k with
  | zero => rw [Function.iterate_succ_apply', Function.iterate_one]
  | succ k ih => rw [Function.iterate_succ_apply', ih, regained_regained hn]

theorem iterate_regained_bounds (hn : n < nanosPerSecond) (k : Nat) :
    n ≤ regained^[k] n + 2 ∧ regained^[k] n ≤ n := by
  obtain ⟨hlower, hupper⟩ := regained_bounds hn
  obtain ⟨hlower', hupper'⟩ := regained_bounds (Nat.lt_of_le_of_lt hupper hn)
  match k with
  | 0 =>
    rw [Function.iterate_zero_apply]
    omega
  | 1 =>
    rw [Function.iterate_one]
    omega
  | k + 2 =>
    rw [iterate_regained hn]
    omega

/-- One conversion there and back: the second stays, and the nanoseconds are those regained. -/
theorem reread_spec (h : i.IsOfFirstEra) : i.reread.IsOfFirstEra ∧
    i.reread.secondsSince1900 = i.secondsSince1900 ∧
    i.reread.subsecond = regained i.subsecond := by
  have hnonneg := h.nonneg
  have hlt := h.lt
  have hagree := toNat_seconds_ofInstant h.isNormal
  have hfirst : ((ofInstant i).seconds.toNat : Int) = i.secondsSince1900 := by
    unfold eraSeconds at hagree
    omega
  have hreread : i.reread = instantAt i.secondsSince1900 (ofInstant i).fraction := by
    rw [Instant.reread, toInstant, hfirst]
  have hroom : i.secondsSince1900.natAbs ≤ 2 ^ 62 := by omega
  have hnormal := (instantAt_spec hroom (ofInstant i).fraction).1
  obtain ⟨hsecond, hsubsecond⟩ := rounded_instantAt hroom (ofInstant i).fraction
  rw [← hreread] at hnormal hsecond hsubsecond
  refine ⟨⟨hnormal, ?_, ?_⟩, hsecond, ?_⟩
  · rw [hsecond]
    exact hnonneg
  · rw [hsecond]
    exact hlt
  · rw [hsubsecond, ofInstant_eq h.isNormal, regained]

theorem iterate_reread_spec (h : i.IsOfFirstEra) (k : Nat) :
    (Instant.reread^[k] i).IsOfFirstEra ∧
    (Instant.reread^[k] i).secondsSince1900 = i.secondsSince1900 ∧
    (Instant.reread^[k] i).subsecond = regained^[k] i.subsecond := by
  induction k with
  | zero => exact ⟨h, rfl, rfl⟩
  | succ k ih =>
    obtain ⟨hera, hsecond, hsubsecond⟩ := ih
    obtain ⟨hera', hsecond', hsubsecond'⟩ := reread_spec hera
    rw [Function.iterate_succ_apply', Function.iterate_succ_apply']
    exact ⟨hera', hsecond'.trans hsecond, hsubsecond'.trans (congrArg regained hsubsecond)⟩

/-- However often an instant of the first era is converted there and back, it loses no more than two
nanoseconds, and nothing after the second time. -/
theorem reread_does_not_drift (h : i.IsOfFirstEra) :
    (∀ k : Nat, i.totalNanos - 2 ≤ (Instant.reread^[k] i).totalNanos ∧
      (Instant.reread^[k] i).totalNanos ≤ i.totalNanos) ∧
    Function.IsFixedPt Instant.reread i.reread.reread := by
  constructor
  · intro k
    obtain ⟨-, hsecond, hsubsecond⟩ := iterate_reread_spec h k
    obtain ⟨hlower, hupper⟩ := iterate_regained_bounds i.subsecond_lt k
    rw [Instant.totalNanos_eq (Instant.reread^[k] i), i.totalNanos_eq, hsecond, hsubsecond]
    omega
  · obtain ⟨honce, hsecond, hsubsecond⟩ := reread_spec h
    obtain ⟨htwice, hsecond', hsubsecond'⟩ := reread_spec honce
    obtain ⟨hthrice, hsecond'', hsubsecond''⟩ := reread_spec htwice
    have hsame := regained_regained i.subsecond_lt
    rw [← hsubsecond, ← hsubsecond', ← hsubsecond''] at hsame
    apply hthrice.isNormal.eq_of_totalNanos_eq htwice.isNormal
    rw [Instant.totalNanos_eq, i.reread.reread.totalNanos_eq, hsecond'', hsame]

/-- An instant before 1970 that loses a nanosecond twice. -/
theorem reread_does_not_drift_twoLost :
    let i : Instant := ⟨-2, -999999992⟩
    i.IsOfFirstEra ∧ i.reread.totalNanos = i.totalNanos - 1 ∧
    i.reread.reread.totalNanos = i.totalNanos - 2 ∧
    i.totalNanos - 2 ≤ (Instant.reread^[1000] i).totalNanos ∧
    Function.IsFixedPt Instant.reread i.reread.reread := by
  have hera : Instant.IsOfFirstEra ⟨-2, -999999992⟩ :=
    ⟨⟨by decide, by decide⟩, by decide, by decide⟩
  obtain ⟨hbounds, hfixed⟩ := reread_does_not_drift hera
  exact ⟨hera, by decide, by decide, (hbounds 1000).1, hfixed⟩

end Timestamp
end NetworkTime
