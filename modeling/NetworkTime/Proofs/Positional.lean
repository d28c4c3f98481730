import Mathlib.Algebra.Group.Nat.Defs
import Mathlib.Data.List.Induction
import NetworkTime.Positional

/-! Digits and the numbers that they write. -/

namespace NetworkTime.Positional
variable {base : Nat} {ds : List Nat}

/-- Writing keeps the number up to the digits that have no room. -/
theorem value_digits (count n : Nat) : value base (digits base count n) = n % base ^ count := by
  induction count generalizing n with
  | zero => simp [digits, Nat.mod_one]
  | succ count ih =>
    rw [digits, value_append_singleton, ih, Nat.pow_succ', Nat.mod_mul, Nat.mul_comm, Nat.add_comm]

theorem lt_of_mem_digits (hb : 0 < base) {count n d : Nat} (h : d ∈ digits base count n) :
    d < base := by
  induction count generalizing n with
  | zero => simp [digits] at h
  | succ count ih =>
    simp only [digits, List.mem_append, List.mem_singleton] at h
    rcases h with h | h
    · exact ih h
    · exact h ▸ Nat.mod_lt _ hb

/-- Digits below the base are read off their number again. -/
theorem digits_value (h : ∀ d ∈ ds, d < base) : digits base ds.length (value base ds) = ds := by
  induction hn : ds.length generalizing ds with
  | zero => rw [List.length_eq_zero_iff.1 hn, digits]
  | succ n ih =>
    have hne : ds ≠ [] := by rintro rfl; simp at hn
    obtain ⟨es, d, rfl⟩ : ∃ es d, ds = es ++ [d] :=
      ⟨ds.dropLast, ds.getLast hne, (List.dropLast_concat_getLast hne).symm⟩
    have hd : d < base := h d (by simp)
    have hes : es.length = n := by simpa using hn
    rw [digits, value_append_singleton, Nat.mul_comm, Nat.mul_add_div (by omega),
      Nat.div_eq_of_lt hd, Nat.add_zero, Nat.mul_add_mod, Nat.mod_eq_of_lt hd,
      ih (fun x hx => h x (by simp [hx])) hes]

theorem value_append (ds es : List Nat) :
    value base (ds ++ es) = value base ds * base ^ es.length + value base es := by
  induction es using List.reverseRecOn with
  | nil => simp
  | append_singleton es d ih =>
    rw [← List.append_assoc, value_append_singleton, value_append_singleton, ih]
    rw [List.length_append, List.length_singleton, Nat.pow_succ, Nat.add_mul, Nat.mul_assoc,
      Nat.add_assoc]

end NetworkTime.Positional
