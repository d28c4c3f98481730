import Mathlib.Algebra.Group.Int.Defs
import Mathlib.Algebra.Group.Nat.Defs
import Mathlib.Tactic.SplitIfs
import NetworkTime.Instant

/-! Instants, the counts of nanoseconds that they stand for, and their order. Parts of an instant are
accepted with any nanoseconds on the right side of 1970, and are in order with less than a second of
them. -/

namespace NetworkTime.Instant
variable {i j : Instant} {n : Int}

/-- Less than a second of nanoseconds, and both parts on the same side of 1970. -/
structure IsNormal (i : Instant) : Prop where
  nanos_lt : i.nanos.toInt.natAbs < nanosPerSecond
  same_side : 0 ≤ i.seconds.toInt ∧ 0 ≤ i.nanos.toInt ∨ i.seconds.toInt ≤ 0 ∧ i.nanos.toInt ≤ 0

theorem seconds_ofTotalNanos (h : n.natAbs < 2 ^ 63 * nanosPerSecond) :
    (ofTotalNanos n).seconds.toInt = n.tdiv nanosPerSecond := by
  have habs : (n.tdiv nanosPerSecond).natAbs = n.natAbs / nanosPerSecond := Int.natAbs_tdiv ..
  have hlt : n.natAbs / nanosPerSecond < 2 ^ 63 := Nat.div_lt_of_lt_mul (by omega)
  apply Int64.toInt_ofInt_of_le <;> omega

theorem nanos_ofTotalNanos (n : Int) :
    (ofTotalNanos n).nanos.toInt = n.tmod nanosPerSecond := by
  have habs : (n.tmod nanosPerSecond).natAbs = n.natAbs % nanosPerSecond := Int.natAbs_tmod ..
  have hlt : n.natAbs % nanosPerSecond < 1000000000 := Nat.mod_lt _ (by decide)
  apply Int32.toInt_ofInt_of_le <;> omega

/-- A count whose seconds fit in 64 bits is kept. -/
theorem totalNanos_ofTotalNanos (h : n.natAbs < 2 ^ 63 * nanosPerSecond) :
    (ofTotalNanos n).totalNanos = n := by
  rw [totalNanos, seconds_ofTotalNanos h, nanos_ofTotalNanos, Int.mul_comm]
  exact Int.mul_tdiv_add_tmod n nanosPerSecond

theorem isNormal_ofTotalNanos (h : n.natAbs < 2 ^ 63 * nanosPerSecond) :
    (ofTotalNanos n).IsNormal where
  nanos_lt := by
    rw [nanos_ofTotalNanos, Int.natAbs_tmod]
    exact Nat.mod_lt _ (by decide)
  same_side := by
    rw [seconds_ofTotalNanos h, nanos_ofTotalNanos]
    rcases Int.le_total 0 n with hn | hn
    · exact Or.inl ⟨Int.tdiv_nonneg hn (by decide), Int.tmod_nonneg _ hn⟩
    · have hdiv := Int.tdiv_nonneg (Int.neg_nonneg_of_nonpos hn) (Int.natCast_nonneg nanosPerSecond)
      have hmod := Int.tmod_nonneg nanosPerSecond (Int.neg_nonneg_of_nonpos hn)
      rw [Int.neg_tdiv] at hdiv
      rw [Int.neg_tmod] at hmod
      exact Or.inr ⟨Int.nonpos_of_neg_nonneg hdiv, Int.nonpos_of_neg_nonneg hmod⟩

/-- The whole seconds since the start of 1900, rounded down. -/
def secondsSince1900 (i : Instant) : Int := i.totalNanos / nanosPerSecond + epochDelta

/-- The nanoseconds since the last whole second. -/
def subsecond (i : Instant) : Nat := (i.totalNanos % nanosPerSecond).toNat

theorem subsecond_lt (i : Instant) : i.subsecond < nanosPerSecond := by
  unfold subsecond nanosPerSecond
  omega

theorem totalNanos_eq (i : Instant) :
    i.totalNanos = (i.secondsSince1900 - epochDelta) * nanosPerSecond + i.subsecond := by
  unfold secondsSince1900 subsecond nanosPerSecond
  omega

/-- Rounding down takes a second off the first part if there are nanoseconds before 1970. -/
theorem rounded_cases (hle : -nanosPerSecond ≤ i.nanos.toInt)
    (hlt : i.nanos.toInt < nanosPerSecond) :
    (0 ≤ i.nanos.toInt ∧ i.secondsSince1900 = i.seconds.toInt + epochDelta ∧
      i.subsecond = i.nanos.toInt) ∨
    (i.nanos.toInt < 0 ∧ i.secondsSince1900 = i.seconds.toInt + epochDelta - 1 ∧
      i.subsecond = i.nanos.toInt + nanosPerSecond) := by
  unfold secondsSince1900 subsecond totalNanos nanosPerSecond at *
  omega

/-- A second of nanoseconds counts as a second. -/
theorem rounded_of_whole (h : i.nanos.toInt = nanosPerSecond) :
    i.secondsSince1900 = i.seconds.toInt + epochDelta + 1 ∧ i.subsecond = 0 := by
  unfold secondsSince1900 subsecond totalNanos nanosPerSecond at *
  omega

/-- The parts are compared as the integers that they stand for, the seconds first. -/
theorem compare_eq_then (i j : Instant) :
    compare i j = (compare i.seconds.toInt j.seconds.toInt).then
      (compare i.nanos.toInt j.nanos.toInt) := by
  have hseconds : compare i.seconds j.seconds = compare i.seconds.toInt j.seconds.toInt := by
    change compareOfLessAndEq _ _ = compareOfLessAndEq _ _
    simp only [compareOfLessAndEq, Int64.lt_iff_toInt_lt, ← Int64.toInt_inj]
  have hnanos : compare i.nanos j.nanos = compare i.nanos.toInt j.nanos.toInt := by
    change compareOfLessAndEq _ _ = compareOfLessAndEq _ _
    simp only [compareOfLessAndEq, Int32.lt_iff_toInt_lt, ← Int32.toInt_inj]
  rw [← hseconds, ← hnanos]
  change (compare i.seconds j.seconds).then ((compare i.nanos j.nanos).then .eq) = _
  rw [Ordering.then_eq]

theorem eq_of_toInt_eq (hseconds : i.seconds.toInt = j.seconds.toInt)
    (hnanos : i.nanos.toInt = j.nanos.toInt) : i = j := by
  cases i
  cases j
  exact congrArg₂ mk (Int64.toInt_inj.mp hseconds) (Int32.toInt_inj.mp hnanos)

theorem eq_of_compare_eq_eq (h : compare i j = .eq) : i = j := by
  rw [compare_eq_then, Ordering.then_eq_eq, Int.compare_eq_eq, Int.compare_eq_eq] at h
  exact eq_of_toInt_eq h.1 h.2

/-- With less than a second of nanoseconds the parts are in the order of the counts. -/
theorem compare_eq_compare_totalNanos (hi : i.IsNormal) (hj : j.IsNormal) :
    compare i j = compare i.totalNanos j.totalNanos := by
  have hilt := hi.nanos_lt
  have hjlt := hj.nanos_lt
  have hiside := hi.same_side
  have hjside := hj.same_side
  unfold nanosPerSecond at hilt hjlt
  rw [compare_eq_then]
  unfold totalNanos nanosPerSecond
  rcases Int.lt_trichotomy i.seconds.toInt j.seconds.toInt with hlt | heq | hgt
  · rw [Int.compare_eq_lt.mpr hlt, Ordering.lt_then, eq_comm, Int.compare_eq_lt]
    omega
  · rw [heq, Int.compare_eq_eq.mpr rfl, Ordering.eq_then]
    simp only [Int.compare_eq_ite_lt, Int.add_lt_add_iff_left]
  · rw [Int.compare_eq_gt.mpr hgt, Ordering.gt_then, eq_comm, Int.compare_eq_gt]
    omega

theorem IsNormal.eq_of_totalNanos_eq (hi : i.IsNormal) (hj : j.IsNormal)
    (h : i.totalNanos = j.totalNanos) : i = j := by
  apply eq_of_compare_eq_eq
  rw [compare_eq_compare_totalNanos hi hj]
  exact Int.compare_eq_eq.mpr h

theorem ofParts_eq_ok_iff (i : Instant) : ofParts i.seconds i.nanos = .ok i ↔
    (0 ≤ i.seconds.toInt ∧ 0 ≤ i.nanos.toInt ∨ i.seconds.toInt ≤ 0 ∧ i.nanos.toInt ≤ 0) := by
  have hseconds : 0 < i.seconds ↔ 0 < i.seconds.toInt := Int64.lt_iff_toInt_lt
  have hseconds' : i.seconds < 0 ↔ i.seconds.toInt < 0 := Int64.lt_iff_toInt_lt
  have hnanos : i.nanos < 0 ↔ i.nanos.toInt < 0 := Int32.lt_iff_toInt_lt
  have hnanos' : 0 < i.nanos ↔ 0 < i.nanos.toInt := Int32.lt_iff_toInt_lt
  simp only [ofParts, hseconds, hseconds', hnanos, hnanos']
  split_ifs with hlate hearly
  · simp only [false_iff]
    omega
  · simp only [false_iff]
    omega
  · simp only [true_iff]
    omega

/-- Parts that may be put together, with room for the seconds that the nanoseconds make up. -/
structure IsAccepted (i : Instant) : Prop where
  parts : ofParts i.seconds i.nanos = .ok i
  room : i.seconds.toInt.natAbs ≤ 2 ^ 62

theorem IsAccepted.same_side (h : i.IsAccepted) :
    0 ≤ i.seconds.toInt ∧ 0 ≤ i.nanos.toInt ∨ i.seconds.toInt ≤ 0 ∧ i.nanos.toInt ≤ 0 :=
  (ofParts_eq_ok_iff i).mp h.parts

/-- Nothing but the bound on the nanoseconds is missing from accepted parts. -/
theorem IsAccepted.isNormal_iff (h : i.IsAccepted) :
    i.IsNormal ↔ i.nanos.toInt.natAbs < nanosPerSecond := by
  constructor
  · intro hnormal
    exact hnormal.nanos_lt
  · intro hlt
    exact ⟨hlt, h.same_side⟩

theorem IsAccepted.natAbs_totalNanos_lt (h : i.IsAccepted) :
    i.totalNanos.natAbs < 2 ^ 63 * nanosPerSecond := by
  have hroom := h.room
  have hle := i.nanos.le_toInt
  have hlt := i.nanos.toInt_lt
  unfold totalNanos nanosPerSecond
  omega

/-- Accepted parts are in order with all normal instants only if they are normal themselves, as
they stand for the same time as a normal instant. -/
theorem IsAccepted.ordered_iff (h : i.IsAccepted) :
    (∀ k : Instant, k.IsNormal → compare i k = compare i.totalNanos k.totalNanos) ↔
      i.nanos.toInt.natAbs < nanosPerSecond := by
  rw [← h.isNormal_iff]
  constructor
  · intro hordered
    have hlt := h.natAbs_totalNanos_lt
    have hnormal := isNormal_ofTotalNanos hlt
    have hcompare := hordered _ hnormal
    rw [totalNanos_ofTotalNanos hlt, Int.compare_eq_eq.mpr rfl] at hcompare
    rw [eq_of_compare_eq_eq hcompare]
    exact hnormal
  · intro hnormal k hk
    exact compare_eq_compare_totalNanos hnormal hk

end NetworkTime.Instant
