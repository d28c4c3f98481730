import NetworkTime.Proofs.Instant

/-! Normal instants are the counts of nanoseconds from 1970: each count within range makes one, each
is made by its own count, and their order and their distances are those of the counts. -/

namespace NetworkTime.Instant
variable {i j : Instant} {n : Int} {seconds : UInt64} {nanos : UInt32} {before : Bool}

/-- Division toward zero takes the parts of a normal instant apart again, on either side of 1970. -/
theorem IsNormal.tdiv_tmod (h : i.IsNormal) :
    i.totalNanos.tdiv nanosPerSecond = i.seconds.toInt ∧
      i.totalNanos.tmod nanosPerSecond = i.nanos.toInt := by
  have hlt := h.nanos_lt
  have hwhole : (nanosPerSecond : Int).natAbs = nanosPerSecond := Int.natAbs_natCast _
  have hsum : i.nanos.toInt + nanosPerSecond * i.seconds.toInt = i.totalNanos := by
    rw [totalNanos, Int.mul_comm, Int.add_comm]
  rcases h.same_side with ⟨hs, hn⟩ | ⟨hs, hn⟩
  · have htotal : 0 ≤ i.totalNanos := by
      unfold totalNanos nanosPerSecond
      omega
    apply (Int.tdiv_tmod_unique htotal (by decide)).mpr
    rw [hwhole]
    exact ⟨hsum, hn, by omega⟩
  · have htotal : i.totalNanos ≤ 0 := by
      unfold totalNanos nanosPerSecond
      omega
    apply (Int.tdiv_tmod_unique' htotal (by decide)).mpr
    rw [hwhole]
    exact ⟨hsum, by omega, hn⟩

/-- A normal instant is the one at its own count. This includes those of the earliest second, whose
count is below that of any whole second of 64 bits. -/
theorem ofTotalNanos_totalNanos (h : i.IsNormal) : ofTotalNanos i.totalNanos = i := by
  obtain ⟨hseconds, hnanos⟩ := h.tdiv_tmod
  rw [ofTotalNanos, hseconds, hnanos, Int64.ofInt_toInt, Int32.ofInt_toInt]

/-- One instant comes before another if the time since the other is negative. -/
theorem compare_nanosSince (i j : Instant) :
    compare (i.nanosSince j) 0 = compare i.totalNanos j.totalNanos := by
  have hlt : i.nanosSince j < 0 ↔ i.totalNanos < j.totalNanos := by
    unfold nanosSince
    omega
  have hgt : 0 < i.nanosSince j ↔ j.totalNanos < i.totalNanos := by
    unfold nanosSince
    omega
  simp only [Int.compare_eq_ite_lt, hlt, hgt]

/-- The nanoseconds of a duration, before 1970 as a negative count. -/
def signedNanos (seconds : UInt64) (nanos : UInt32) (before : Bool) : Int :=
  let n : Int := seconds.toNat * nanosPerSecond + nanos.toNat
  if before then -n else n

/-- Two parts of one sign, each of which fits into its word. -/
theorem isNormal_of_parts {s n : Int} (hs : -2 ^ 63 ≤ s ∧ s < 2 ^ 63)
    (hn : n.natAbs < nanosPerSecond) (hside : 0 ≤ s ∧ 0 ≤ n ∨ s ≤ 0 ∧ n ≤ 0) :
    (mk (Int64.ofInt s) (Int32.ofInt n)).IsNormal ∧
      (mk (Int64.ofInt s) (Int32.ofInt n)).totalNanos = s * nanosPerSecond + n := by
  have hseconds : (Int64.ofInt s).toInt = s := Int64.toInt_ofInt_of_le hs.1 hs.2
  have hnanos : (Int32.ofInt n).toInt = n := by
    unfold nanosPerSecond at hn
    apply Int32.toInt_ofInt_of_le <;> omega
  constructor
  · constructor
    · rw [hnanos]
      exact hn
    · rw [hseconds, hnanos]
      exact hside
  · rw [totalNanos, hseconds, hnanos]

/-- A duration that the seconds of an instant have room for is kept, after 1970 and before it. -/
theorem exists_ofDuration (hseconds : seconds.toNat < 2 ^ 63)
    (hnanos : nanos.toNat < nanosPerSecond) (before : Bool) :
    ∃ i, ofDuration seconds nanos before = .ok i ∧ i.IsNormal ∧
      i.totalNanos = signedNanos seconds nanos before := by
  have hwhole : nanos.toNat / nanosPerSecond = 0 := Nat.div_eq_of_lt hnanos
  have hrest : nanos.toNat % nanosPerSecond = nanos.toNat := Nat.mod_eq_of_lt hnanos
  have hfits : ¬ UInt64.size ≤ seconds.toNat := by
    unfold UInt64.size
    omega
  unfold ofDuration signedNanos
  dsimp only
  rw [hwhole, hrest, Nat.add_zero, if_neg hfits]
  cases before with
  | true =>
    have hearly : ¬ 0x8000000000000000 * nanosPerSecond <
        seconds.toNat * nanosPerSecond + nanos.toNat := by
      unfold nanosPerSecond at *
      omega
    have hparts := isNormal_of_parts (s := -seconds.toNat) (n := -nanos.toNat) (by omega) (by omega)
      (by omega)
    rw [if_pos rfl, if_neg hearly]
    refine ⟨_, rfl, hparts.1, ?_⟩
    rw [hparts.2, if_pos rfl, Int.neg_add, Int.neg_mul]
  | false =>
    have hlate : ¬ 0x8000000000000000 ≤ seconds.toNat := by omega
    have hparts := isNormal_of_parts (s := seconds.toNat) (n := nanos.toNat) (by omega) (by omega)
      (by omega)
    rw [if_neg Bool.false_ne_true, if_neg hlate]
    exact ⟨_, rfl, hparts⟩

/-- A count whose seconds fit into 64 bits makes a normal instant that has this count, and a normal
instant is made by its own count. Normal instants are in the order of their counts, and the time
between them has the sign that this order asks for. A duration of less than 2^63 seconds leads from
1970 to the normal instant of as many nanoseconds, after it or before it. -/
theorem totalNanos_faithful :
    (∀ n : Int, n.natAbs < 2 ^ 63 * nanosPerSecond →
      (ofTotalNanos n).IsNormal ∧ (ofTotalNanos n).totalNanos = n) ∧
    (∀ i : Instant, i.IsNormal → ofTotalNanos i.totalNanos = i) ∧
    (∀ i j : Instant, i.IsNormal → j.IsNormal →
      compare i j = compare i.totalNanos j.totalNanos ∧
      compare i j = compare (i.nanosSince j) 0) ∧
    ∀ (seconds : UInt64) (nanos : UInt32) (before : Bool), seconds.toNat < 2 ^ 63 →
      nanos.toNat < nanosPerSecond →
        ∃ i, ofDuration seconds nanos before = .ok i ∧ i.IsNormal ∧
          i.totalNanos = signedNanos seconds nanos before := by
  refine ⟨?_, ?_, ?_, ?_⟩
  · intro n hn
    exact ⟨isNormal_ofTotalNanos hn, totalNanos_ofTotalNanos hn⟩
  · intro i hi
    exact ofTotalNanos_totalNanos hi
  · intro i j hi hj
    have horder := compare_eq_compare_totalNanos hi hj
    exact ⟨horder, horder.trans (compare_nanosSince i j).symm⟩
  · intro seconds nanos before hseconds hnanos
    exact exists_ofDuration hseconds hnanos before

/-- The last nanosecond before 1970, the earliest normal instant, two instants before 1970 in their
order, and a quarter of a second before it. -/
theorem totalNanos_faithful_before1970 :
    (ofTotalNanos (-1)).totalNanos = -1 ∧
    (mk (-0x8000000000000000) (-999999999)).IsNormal ∧
    ofTotalNanos (mk (-0x8000000000000000) (-999999999)).totalNanos =
      ⟨-0x8000000000000000, -999999999⟩ ∧
    compare (mk (-1) (-500000000)) (mk 0 (-1)) = .lt ∧
    ∃ i, ofDuration 0 250000000 true = .ok i ∧ i.IsNormal ∧ i.totalNanos = -250000000 := by
  obtain ⟨hcount, hinstant, horder, hduration⟩ := totalNanos_faithful
  have hearliest : (mk (-0x8000000000000000) (-999999999)).IsNormal := ⟨by decide, by decide⟩
  have hnormal : (mk (-1) (-500000000)).IsNormal := ⟨by decide, by decide⟩
  have hnormal' : (mk 0 (-1)).IsNormal := ⟨by decide, by decide⟩
  exact ⟨(hcount (-1) (by decide)).2, hearliest, hinstant _ hearliest,
    (horder _ _ hnormal hnormal').1.trans (by decide),
    hduration 0 250000000 true (by decide) (by decide)⟩

end NetworkTime.Instant
