import Mathlib.Data.Rat.Floor
import Mathlib.Tactic.Linarith
import NetworkTime.Exchange
import NetworkTime.Proofs.Timestamp.Difference

/-! Offset and delay of an exchange, as exact sums of nanoseconds, and how far they are from what
they measure. -/

namespace NetworkTime.Exchange

/-- The nanoseconds in a number of units of 2^-32 seconds. -/
def nanos (units : ℚ) : ℚ := units * 10 ^ 9 / 2 ^ 32

/-- The same for whole units, rounded down. -/
def wholeNanos (units : Int) : Int := units * nanosPerSecond / UInt32.size

theorem nanos_add (x y : ℚ) : nanos (x + y) = nanos x + nanos y := by
  unfold nanos
  ring

theorem nanos_sub (x y : ℚ) : nanos (x - y) = nanos x - nanos y := by
  unfold nanos
  ring

theorem nanos_half (x : ℚ) : nanos (x / 2) = nanos x / 2 := by
  unfold nanos
  ring

theorem nanos_nonneg (n : Nat) : 0 ≤ nanos n := by
  unfold nanos
  positivity

theorem wholeNanos_eq_floor (units : Int) : wholeNanos units = ⌊nanos units⌋ := by
  have hfloor := Rat.floor_intCast_div_natCast (units * nanosPerSecond) UInt32.size
  rw [wholeNanos, ← hfloor, nanos]
  norm_num

theorem wholeNanos_le (units : Int) : (wholeNanos units : ℚ) ≤ nanos units := by
  rw [wholeNanos_eq_floor]
  exact Int.floor_le _

theorem lt_wholeNanos_add_one (units : Int) : nanos units < wholeNanos units + 1 := by
  rw [wholeNanos_eq_floor]
  exact Int.lt_floor_add_one _

theorem wholeNanos_mono {u v : Int} (h : u ≤ v) : wholeNanos u ≤ wholeNanos v := by
  unfold wholeNanos nanosPerSecond UInt32.size
  omega

theorem natAbs_wholeNanos_unitsTo_le (t later : Timestamp) :
    (wholeNanos (t.unitsTo later)).natAbs ≤ 2 ^ 31 * nanosPerSecond := by
  have hrange := t.unitsTo_mem_range later
  unfold wholeNanos nanosPerSecond UInt32.size
  omega

/-- Half an era has few enough nanoseconds for a word. -/
theorem toInt_nanosBetween (earlier later : Timestamp) :
    (nanosBetween earlier later).toInt = wholeNanos (earlier.unitsTo later) := by
  have hle := natAbs_wholeNanos_unitsTo_le earlier later
  unfold nanosPerSecond at hle
  change (Int64.ofInt (wholeNanos (earlier.unitsTo later))).toInt = _
  exact Int64.toInt_ofInt_of_le (by omega) (by omega)

/-- The delay is the exact difference, as two of them fit in a word. -/
theorem toInt_delayNanos (e : Exchange) : e.delayNanos.toInt =
    wholeNanos (e.sent.unitsTo e.returned) - wholeNanos (e.received.unitsTo e.answered) := by
  have hway := natAbs_wholeNanos_unitsTo_le e.sent e.returned
  have hstay := natAbs_wholeNanos_unitsTo_le e.received e.answered
  unfold nanosPerSecond at hway hstay
  rw [delayNanos, Int64.toInt_sub, toInt_nanosBetween, toInt_nanosBetween]
  exact Int.bmod_eq_of_le (by omega) (by omega)

/-- Neither does the sum of two of them pass the range of a word. -/
theorem toInt_nanosBetween_add (earlier later earlier' later' : Timestamp) :
    (nanosBetween earlier later + nanosBetween earlier' later').toInt =
      wholeNanos (earlier.unitsTo later) + wholeNanos (earlier'.unitsTo later') := by
  have hle := natAbs_wholeNanos_unitsTo_le earlier later
  have hle' := natAbs_wholeNanos_unitsTo_le earlier' later'
  unfold nanosPerSecond at hle hle'
  rw [Int64.toInt_add, toInt_nanosBetween, toInt_nanosBetween]
  exact Int.bmod_eq_of_le (by omega) (by omega)

theorem toInt_offsetNanos (e : Exchange) : e.offsetNanos.toInt =
    (wholeNanos (e.sent.unitsTo e.received) +
      wholeNanos (e.returned.unitsTo e.answered)).tdiv 2 := by
  rw [offsetNanos, Int64.toInt_div_of_ne_right _ _ (by decide), toInt_nanosBetween_add]
  rfl

/-- Half of a number, toward zero, is no more than a half off. -/
theorem natAbs_two_mul_tdiv_sub_le (n : Int) : (2 * n.tdiv 2 - n).natAbs ≤ 1 := by
  have hsplit := Int.mul_tdiv_add_tmod n 2
  have hrest : (n.tmod 2).natAbs = n.natAbs % 2 := Int.natAbs_tmod n 2
  omega

/-- A way to a server and back, in units of 2^-32 seconds. -/
structure Journey where
  /-- How far the server's clock is ahead of the client's. -/
  ahead : Int
  out : Nat
  stay : Nat
  back : Nat
deriving DecidableEq, Repr

namespace Journey
variable {j : Journey}

/-- What the two clocks show on a journey, if the client's shows a given time at its start. -/
def exchange (j : Journey) (sent : Timestamp) : Exchange :=
  let received := sent.plus (j.ahead + j.out)
  let answered := received.plus j.stay
  { sent, received, answered, returned := answered.plus (j.back - j.ahead) }

/-- A journey that is not too long for the differences of its times. -/
def IsShort (j : Journey) : Prop := j.ahead.natAbs + j.out + j.stay + j.back < 2 ^ 62

instance : Decidable j.IsShort := inferInstanceAs (Decidable (_ < _))

theorem unitsTo_exchange (h : j.IsShort) (sent : Timestamp) :
    sent.unitsTo (j.exchange sent).received = j.ahead + j.out ∧
    (j.exchange sent).received.unitsTo (j.exchange sent).answered = j.stay ∧
    sent.unitsTo (j.exchange sent).returned = j.out + j.stay + j.back ∧
    (j.exchange sent).returned.unitsTo (j.exchange sent).answered = j.ahead - j.back := by
  unfold IsShort at h
  have hreceived : ((j.exchange sent).received.bits.toNat : Int) = _ :=
    sent.toNat_bits_plus (j.ahead + j.out)
  have hanswered : ((j.exchange sent).answered.bits.toNat : Int) = _ :=
    (j.exchange sent).received.toNat_bits_plus j.stay
  have hreturned : ((j.exchange sent).returned.bits.toNat : Int) = _ :=
    (j.exchange sent).answered.toNat_bits_plus (j.back - j.ahead)
  -- Over the whole way the difference of the clocks cancels out. No sum reaches half the range.
  refine ⟨?_, ?_, ?_, ?_⟩
  all_goals apply Timestamp.unitsTo_eq <;> omega

theorem toInt_delayNanos_exchange (h : j.IsShort) (sent : Timestamp) :
    (j.exchange sent).delayNanos.toInt =
      wholeNanos (j.out + j.stay + j.back) - wholeNanos j.stay := by
  obtain ⟨-, hstay, hway, -⟩ := unitsTo_exchange h sent
  rw [toInt_delayNanos, hstay, ← hway]
  rfl

theorem toInt_offsetNanos_exchange (h : j.IsShort) (sent : Timestamp) :
    (j.exchange sent).offsetNanos.toInt =
      (wholeNanos (j.ahead + j.out) + wholeNanos (j.ahead - j.back)).tdiv 2 := by
  obtain ⟨hout, -, -, hback⟩ := unitsTo_exchange h sent
  rw [toInt_offsetNanos, hback, ← hout]
  rfl

theorem delay_nonneg (h : j.IsShort) (sent : Timestamp) :
    0 ≤ (j.exchange sent).delayNanos.toInt := by
  have hmono : wholeNanos j.stay ≤ wholeNanos (j.out + j.stay + j.back) :=
    wholeNanos_mono (by omega)
  rw [toInt_delayNanos_exchange h]
  exact Int.sub_nonneg_of_le hmono

/-- The stay at the server cancels out, but for what two roundings down leave of it. -/
theorem abs_delay_sub_lt (h : j.IsShort) (sent : Timestamp) :
    |((j.exchange sent).delayNanos.toInt : ℚ) - nanos (j.out + j.back)| < 1 := by
  have hwayle := wholeNanos_le (j.out + j.stay + j.back)
  have hwaylt := lt_wholeNanos_add_one (j.out + j.stay + j.back)
  have hstayle := wholeNanos_le j.stay
  have hstaylt := lt_wholeNanos_add_one j.stay
  push_cast [nanos_add] at hwayle hwaylt hstayle hstaylt
  rw [toInt_delayNanos_exchange h, nanos_add, abs_lt]
  push_cast
  constructor <;> linarith

/-- Two roundings down take less than two from twice the offset, and halving it adds one at most or
takes one. -/
theorem abs_offset_sub_lt (h : j.IsShort) (sent : Timestamp) :
    |((j.exchange sent).offsetNanos.toInt : ℚ) - nanos (j.ahead + (j.out - j.back) / 2)| <
      3 / 2 := by
  have houtle := wholeNanos_le (j.ahead + j.out)
  have houtlt := lt_wholeNanos_add_one (j.ahead + j.out)
  have hbackle := wholeNanos_le (j.ahead - j.back)
  have hbacklt := lt_wholeNanos_add_one (j.ahead - j.back)
  push_cast [nanos_add, nanos_sub] at houtle houtlt hbackle hbacklt
  rw [toInt_offsetNanos_exchange h, nanos_add, nanos_half, nanos_sub, abs_lt]
  generalize wholeNanos (j.ahead + j.out) = out at houtle houtlt ⊢
  generalize wholeNanos (j.ahead - j.back) = back at hbackle hbacklt ⊢
  have hhalf := natAbs_two_mul_tdiv_sub_le (out + back)
  generalize (out + back).tdiv 2 = half at hhalf ⊢
  have hhalfle : (2 * half : ℚ) ≤ out + back + 1 := by
    exact_mod_cast show 2 * half ≤ out + back + 1 by omega
  have hlehalf : (out + back - 1 : ℚ) ≤ 2 * half := by
    exact_mod_cast show out + back - 1 ≤ 2 * half by omega
  constructor <;> linarith

/-- The delay is that of the ways, and the offset that of the clocks but for half the difference of
the ways, each up to rounding. So the delay tells how far the offset may be off. That eras end on
the way makes no difference. -/
theorem delay_offset_bounds (h : j.IsShort) (sent : Timestamp) :
    0 ≤ (j.exchange sent).delayNanos.toInt ∧
    |((j.exchange sent).delayNanos.toInt : ℚ) - nanos (j.out + j.back)| < 1 ∧
    |((j.exchange sent).offsetNanos.toInt : ℚ) - nanos (j.ahead + (j.out - j.back) / 2)| < 3 / 2 ∧
    |((j.exchange sent).offsetNanos.toInt : ℚ) - nanos j.ahead| ≤
      (j.exchange sent).delayNanos.toInt / 2 + 2 := by
  have hdelay := abs_delay_sub_lt h sent
  have hoffset := abs_offset_sub_lt h sent
  refine ⟨delay_nonneg h sent, hdelay, hoffset, ?_⟩
  have hout := nanos_nonneg j.out
  have hback := nanos_nonneg j.back
  rw [nanos_add, abs_lt] at hdelay
  rw [nanos_add, nanos_half, nanos_sub, abs_lt] at hoffset
  rw [abs_le]
  constructor <;> linarith

/-- A server whose clock is behind, and an era that ends while a request is there. -/
theorem delay_offset_bounds_eraEnds :
    let j : Journey := ⟨-3000000001, 500000000, 7000000000, 12⟩
    let e := j.exchange ⟨4294967295, 4294967290⟩
    e.received.seconds = 4294967295 ∧ e.answered.seconds = 1 ∧
    e.delayNanos.toInt = 116415325 ∧ e.offsetNanos.toInt = -640284272 ∧
    |(e.delayNanos.toInt : ℚ) - nanos (j.out + j.back)| < 1 ∧
    |(e.offsetNanos.toInt : ℚ) - nanos j.ahead| ≤ e.delayNanos.toInt / 2 + 2 := by
  obtain ⟨-, hdelay, -, hoffset⟩ :=
    delay_offset_bounds (j := ⟨-3000000001, 500000000, 7000000000, 12⟩) (by decide)
      ⟨4294967295, 4294967290⟩
  exact ⟨by decide +kernel, by decide +kernel, by decide +kernel, by decide +kernel, hdelay,
    hoffset⟩

end Journey
end NetworkTime.Exchange
