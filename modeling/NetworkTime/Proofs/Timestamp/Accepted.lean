import NetworkTime.Proofs.Timestamp.Rounding

/-! Timestamps of all instants whose parts are accepted, however many nanoseconds they have. Up to a
second of them the timestamp tells the time that the parts stand for. Beyond that one second is
counted after 1970 and none before, and the rest is lost. -/

namespace NetworkTime.Timestamp
variable {i j : Instant}

theorem ofInstant_of_overfull (h : nanosPerSecond < i.nanos.toInt.natAbs) :
    ofInstant i = ⟨.ofNat ((i.seconds.toInt + epochDelta +
      if i.nanos.toInt < 0 then 0 else 1) % eraSeconds).toNat, 0⟩ := by
  have hcarry : Carries i := (carries_iff i).mpr (by omega)
  have hseconds : i.seconds.toInt + epochDelta - (if i.nanos.toInt < 0 then 1 else 0) + 1 =
      i.seconds.toInt + epochDelta + if i.nanos.toInt < 0 then 0 else 1 := by
    omega
  rw [ofInstant_eq_ite, if_pos hcarry, if_pos hcarry, hseconds]

theorem seconds_of_overfull (h : nanosPerSecond < i.nanos.toInt.natAbs) :
    ((ofInstant i).seconds.toNat : Int) = (i.seconds.toInt + epochDelta +
      if i.nanos.toInt < 0 then 0 else 1) % eraSeconds := by
  rw [ofInstant_of_overfull h]
  exact toNat_ofNat_emod _

/-- The seconds and what is left of a second depend on the time alone. -/
theorem ofInstant_eq_of_totalNanos_eq (hi : i.nanos.toInt.natAbs ≤ nanosPerSecond)
    (hj : j.nanos.toInt.natAbs ≤ nanosPerSecond) (h : i.totalNanos = j.totalNanos) :
    ofInstant i = ofInstant j := by
  have hseconds : i.secondsSince1900 = j.secondsSince1900 := by
    rw [Instant.secondsSince1900, Instant.secondsSince1900, h]
  have hsubsecond : i.subsecond = j.subsecond := by
    rw [Instant.subsecond, Instant.subsecond, h]
  rw [ofInstant_eq_of_natAbs_le hi, ofInstant_eq_of_natAbs_le hj, hseconds, hsubsecond]

/-- Of less than two seconds after 1970 the fraction is lost, and otherwise at least a second. -/
theorem ofInstant_ne_of_overfull (hi : nanosPerSecond < i.nanos.toInt.natAbs)
    (hj : j.nanos.toInt.natAbs ≤ nanosPerSecond) (h : i.totalNanos = j.totalNanos) :
    ofInstant i ≠ ofInstant j := by
  intro heq
  have hseconds := seconds_of_overfull hi
  have hseconds' := toNat_seconds_of_natAbs_le hj
  have hfraction : (ofInstant i).fraction.toNat = 0 := by
    rw [ofInstant_of_overfull hi]
    rfl
  have hfraction' := toNat_fraction_of_natAbs_le hj
  have hle := i.nanos.le_toInt
  have hlt := i.nanos.toInt_lt
  rw [← heq, hseconds] at hseconds'
  rw [← heq, hfraction] at hfraction'
  -- The time is written in the parts of the one that lost some of it, and the seconds of both are
  -- compared. Only from one second to two are they the same, and then a fraction is missing.
  unfold Instant.secondsSince1900 Instant.subsecond nearestFraction at *
  rw [← h] at hseconds' hfraction'
  unfold Instant.totalNanos eraSeconds UInt32.size nanosPerSecond at *
  omega

/-- Two accepted instants that both lose seconds lose equally many of them, so that they would have
to have the same parts. -/
theorem eq_of_ofInstant_eq_of_overfull (hi : i.IsAccepted) (hj : j.IsAccepted)
    (hiover : nanosPerSecond < i.nanos.toInt.natAbs)
    (hjover : nanosPerSecond < j.nanos.toInt.natAbs) (h : i.totalNanos = j.totalNanos)
    (heq : ofInstant i = ofInstant j) : i = j := by
  have hiside := hi.same_side
  have hjside := hj.same_side
  have hseconds := seconds_of_overfull hiover
  rw [heq, seconds_of_overfull hjover] at hseconds
  have hile := i.nanos.le_toInt
  have hilt := i.nanos.toInt_lt
  have hjle := j.nanos.le_toInt
  have hjlt := j.nanos.toInt_lt
  unfold Instant.totalNanos eraSeconds nanosPerSecond at *
  have hsecond : i.seconds.toInt = j.seconds.toInt := by omega
  exact Instant.eq_of_toInt_eq hsecond (by omega)

theorem ofInstant_eq_iff (hi : i.IsAccepted) (hj : j.IsAccepted)
    (h : i.totalNanos = j.totalNanos) :
    ofInstant i = ofInstant j ↔ i = j ∨ (i.nanos.toInt.natAbs ≤ nanosPerSecond ∧
      j.nanos.toInt.natAbs ≤ nanosPerSecond) := by
  constructor
  · intro heq
    rcases Nat.lt_or_ge nanosPerSecond i.nanos.toInt.natAbs with hiover | hifull
    · rcases Nat.lt_or_ge nanosPerSecond j.nanos.toInt.natAbs with hjover | hjfull
      · exact Or.inl (eq_of_ofInstant_eq_of_overfull hi hj hiover hjover h heq)
      · exact absurd heq (ofInstant_ne_of_overfull hiover hjfull h)
    · rcases Nat.lt_or_ge nanosPerSecond j.nanos.toInt.natAbs with hjover | hjfull
      · exact absurd heq.symm (ofInstant_ne_of_overfull hjover hifull h.symm)
      · exact Or.inr ⟨hifull, hjfull⟩
  · rintro (rfl | ⟨hifull, hjfull⟩)
    · rfl
    · exact ofInstant_eq_of_totalNanos_eq hifull hjfull h

/-- Different accepted parts that stand for one time have one timestamp if and only if none of them
has more than a second of nanoseconds. With less than a second they are in the order of their times,
and with a second or more some normal instant is out of order with them. -/
theorem ofInstant_and_order_of_accepted (hi : i.IsAccepted) (hj : j.IsAccepted) :
    (i.totalNanos = j.totalNanos →
      (ofInstant i = ofInstant j ↔ i = j ∨ (i.nanos.toInt.natAbs ≤ nanosPerSecond ∧
        j.nanos.toInt.natAbs ≤ nanosPerSecond))) ∧
    (i.nanos.toInt.natAbs < nanosPerSecond → j.nanos.toInt.natAbs < nanosPerSecond →
      compare i j = compare i.totalNanos j.totalNanos) ∧
    ((∀ k : Instant, k.IsNormal → compare i k = compare i.totalNanos k.totalNanos) ↔
      i.nanos.toInt.natAbs < nanosPerSecond) := by
  refine ⟨ofInstant_eq_iff hi hj, ?_, hi.ordered_iff⟩
  intro hilt hjlt
  exact Instant.compare_eq_compare_totalNanos (hi.isNormal_iff.mpr hilt) (hj.isNormal_iff.mpr hjlt)

/-- Two seconds before 1970, once with a full second of nanoseconds. -/
theorem ofInstant_and_order_of_accepted_wholeSecond :
    let i : Instant := ⟨-1, -1000000000⟩
    let j : Instant := ⟨-2, 0⟩
    i.IsAccepted ∧ j.IsAccepted ∧ i.totalNanos = j.totalNanos ∧ ofInstant i = ofInstant j ∧
    ¬ ∀ k : Instant, k.IsNormal → compare i k = compare i.totalNanos k.totalNanos := by
  have hi : Instant.IsAccepted ⟨-1, -1000000000⟩ := ⟨rfl, by decide⟩
  have hj : Instant.IsAccepted ⟨-2, 0⟩ := ⟨rfl, by decide⟩
  obtain ⟨hsame, -, horder⟩ := ofInstant_and_order_of_accepted hi hj
  refine ⟨hi, hj, by decide, ?_, ?_⟩
  · exact (hsame (by decide)).mpr (Or.inr ⟨by decide, by decide⟩)
  · exact mt horder.mp (by decide)

/-- A second and a half after 1970, all of it in nanoseconds, loses the half second and comes before
the same time in seconds and nanoseconds. -/
theorem ofInstant_loses_halfSecond :
    let i : Instant := ⟨0, 1500000000⟩
    let j : Instant := ⟨1, 500000000⟩
    i.IsAccepted ∧ j.IsAccepted ∧ i.totalNanos = j.totalNanos ∧
    ofInstant i = ⟨2208988801, 0⟩ ∧ ofInstant j = ⟨2208988801, 2147483648⟩ ∧
    compare i j = .lt := by
  exact ⟨⟨rfl, by decide⟩, ⟨rfl, by decide⟩, by decide, by decide, by decide, by decide⟩

end NetworkTime.Timestamp
