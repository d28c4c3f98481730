import NetworkTime.Proofs.Exchange

/-! No step of the exchange arithmetic leaves the range of its words, whatever the four timestamps
are. What it gives depends only on how far they are from each other. -/

namespace NetworkTime.Exchange

/-- The nanoseconds between two timestamps, of which only the difference of the words is taken up to
their range. -/
def exactNanos (earlier later : Timestamp) : Int :=
  ((later.bits.toNat : Int) - earlier.bits.toNat).bmod (2 ^ 64) * nanosPerSecond / 2 ^ 32

/-- All four times of an exchange, later by a number of units of 2^-32 seconds. -/
def plus (e : Exchange) (units : Int) : Exchange where
  sent := e.sent.plus units
  received := e.received.plus units
  answered := e.answered.plus units
  returned := e.returned.plus units

theorem wholeNanos_unitsTo (earlier later : Timestamp) :
    wholeNanos (earlier.unitsTo later) = exactNanos earlier later := by
  rw [Timestamp.unitsTo_eq_bmod]
  rfl

theorem natAbs_exactNanos_le (earlier later : Timestamp) :
    (exactNanos earlier later).natAbs ≤ 2 ^ 31 * nanosPerSecond := by
  rw [← wholeNanos_unitsTo]
  exact natAbs_wholeNanos_unitsTo_le earlier later

theorem exactNanos_plus (earlier later : Timestamp) (units : Int) :
    exactNanos (earlier.plus units) (later.plus units) = exactNanos earlier later := by
  rw [← wholeNanos_unitsTo, ← wholeNanos_unitsTo, Timestamp.unitsTo_plus]

theorem delayNanos_eq_exact (e : Exchange) : e.delayNanos.toInt =
    exactNanos e.sent e.returned - exactNanos e.received e.answered := by
  rw [toInt_delayNanos, wholeNanos_unitsTo, wholeNanos_unitsTo]

theorem offsetNanos_eq_exact (e : Exchange) : e.offsetNanos.toInt =
    (exactNanos e.sent e.received + exactNanos e.returned e.answered).tdiv 2 := by
  rw [toInt_offsetNanos, wholeNanos_unitsTo, wholeNanos_unitsTo]

theorem natAbs_delayNanos_le (e : Exchange) :
    e.delayNanos.toInt.natAbs ≤ 2 ^ 32 * nanosPerSecond := by
  have hway := natAbs_exactNanos_le e.sent e.returned
  have hstay := natAbs_exactNanos_le e.received e.answered
  rw [delayNanos_eq_exact]
  omega

theorem natAbs_offsetNanos_le (e : Exchange) :
    e.offsetNanos.toInt.natAbs ≤ 2 ^ 31 * nanosPerSecond := by
  have hout := natAbs_exactNanos_le e.sent e.received
  have hback := natAbs_exactNanos_le e.returned e.answered
  rw [offsetNanos_eq_exact, Int.natAbs_tdiv]
  apply Nat.div_le_of_le_mul
  change _ ≤ 2 * (2 ^ 31 * nanosPerSecond)
  omega

theorem delayNanos_plus (e : Exchange) (units : Int) :
    (e.plus units).delayNanos = e.delayNanos := by
  apply Int64.toInt_inj.mp
  rw [delayNanos_eq_exact, delayNanos_eq_exact]
  simp only [plus, exactNanos_plus]

theorem offsetNanos_plus (e : Exchange) (units : Int) :
    (e.plus units).offsetNanos = e.offsetNanos := by
  apply Int64.toInt_inj.mp
  rw [offsetNanos_eq_exact, offsetNanos_eq_exact]
  simp only [plus, exactNanos_plus]

/-- For any four timestamps each difference has few enough nanoseconds for a word, and so have the
difference and the sum of two of them. So delay and offset are what they are over all integers,
the delay is an era at most and the offset half an era, and neither changes when all four times are
moved. -/
theorem delay_offset_exact (e : Exchange) :
    (∀ earlier later : Timestamp,
      (nanosBetween earlier later).toInt = exactNanos earlier later) ∧
    e.delayNanos.toInt = exactNanos e.sent e.returned - exactNanos e.received e.answered ∧
    (nanosBetween e.sent e.received + nanosBetween e.returned e.answered).toInt =
      exactNanos e.sent e.received + exactNanos e.returned e.answered ∧
    e.offsetNanos.toInt =
      (exactNanos e.sent e.received + exactNanos e.returned e.answered).tdiv 2 ∧
    e.delayNanos.toInt.natAbs ≤ 2 ^ 32 * 10 ^ 9 ∧
    e.offsetNanos.toInt.natAbs ≤ 2 ^ 31 * 10 ^ 9 ∧
    ∀ units : Int, (e.plus units).delayNanos = e.delayNanos ∧
      (e.plus units).offsetNanos = e.offsetNanos := by
  refine ⟨?_, delayNanos_eq_exact e, ?_, offsetNanos_eq_exact e, natAbs_delayNanos_le e,
    natAbs_offsetNanos_le e, ?_⟩
  · intro earlier later
    rw [toInt_nanosBetween, wholeNanos_unitsTo]
  · rw [toInt_nanosBetween_add, wholeNanos_unitsTo, wholeNanos_unitsTo]
  · intro units
    exact ⟨delayNanos_plus e units, offsetNanos_plus e units⟩

end NetworkTime.Exchange
