import Mathlib.Data.List.Basic
import Mathlib.Tactic.IntervalCases
import NetworkTime.Positional
import NetworkTime.Text.Integer

/-! Digits as characters, and the digits that a number is written in. -/

namespace NetworkTime.Text
variable {base n d : Nat} {c : Char} {ds : List Nat}

theorem digitValue_digitChar (hd : d < base) (hb : base ≤ 16) :
    digitValue base d.digitChar = some d := by
  have hlt : d < 16 := by omega
  interval_cases d <;> simp [digitValue, Nat.digitChar, hd]

/-- A number is written as the characters of its digits. -/
theorem toDigits_eq_map (hbase : 1 < base) (n : Nat) : ∃ ds : List Nat,
    Nat.toDigits base n = ds.map Nat.digitChar ∧ (∀ d ∈ ds, d < base) ∧
      Positional.value base ds = n := by
  induction n using Nat.strong_induction_on with
  | _ n ih =>
    rw [Nat.toDigits_eq_if hbase]
    split
    · rename_i hlt
      exact ⟨[n], rfl, by simpa using hlt, by simp [Positional.value]⟩
    · rename_i hle
      obtain ⟨ds, hds, hlt, hvalue⟩ := ih (n / base) (Nat.div_lt_self (by omega) hbase)
      refine ⟨ds ++ [n % base], by simp [hds], ?_, ?_⟩
      · intro d hd
        rcases List.mem_append.mp hd with hd | hd
        · exact hlt d hd
        · exact List.mem_singleton.mp hd ▸ Nat.mod_lt n (by omega)
      · rw [Positional.value_append_singleton, hvalue, Nat.div_add_mod']

theorem filterMap_digitValue_map (hb : base ≤ 16) (hds : ∀ d ∈ ds, d < base) :
    (ds.map Nat.digitChar).filterMap (digitValue base) = ds := by
  induction ds with
  | nil => rfl
  | cons d ds ih =>
    obtain ⟨hd, hds⟩ := List.forall_mem_cons.mp hds
    rw [List.map_cons, List.filterMap_cons_some (digitValue_digitChar hd hb), ih hds]

theorem value_toDigits (hbase : 1 < base) (hb : base ≤ 16) (n : Nat) :
    Positional.value base ((Nat.toDigits base n).filterMap (digitValue base)) = n := by
  obtain ⟨ds, heq, hds, hvalue⟩ := toDigits_eq_map hbase n
  rw [heq, filterMap_digitValue_map hb hds, hvalue]

theorem isSome_digitValue_of_mem (hbase : 1 < base) (hb : base ≤ 16)
    (h : c ∈ Nat.toDigits base n) : (digitValue base c).isSome = true := by
  obtain ⟨ds, heq, hds, -⟩ := toDigits_eq_map hbase n
  rw [heq] at h
  obtain ⟨d, hd, rfl⟩ := List.mem_map.mp h
  rw [digitValue_digitChar (hds d hd) hb, Option.isSome_some]

theorem le_foldl (hbase : 0 < base) (start : Nat) (ds : List Nat) :
    start ≤ ds.foldl (fun n d => n * base + d) start := by
  induction ds generalizing start with
  | nil => exact Nat.le_refl start
  | cons d ds ih =>
    have hgrow : start ≤ start * base + d :=
      Nat.le_trans (Nat.le_mul_of_pos_right start hbase) (Nat.le_add_right ..)
    exact Nat.le_trans hgrow (ih _)

/-- Only zero starts with a zero. -/
theorem eq_zero_of_head_toDigits (hbase : 1 < base)
    (h : (Nat.toDigits base n).head? = some '0') : n = 0 := by
  induction n using Nat.strong_induction_on with
  | _ n ih =>
    rw [Nat.toDigits_eq_if hbase] at h
    split at h
    · simpa using h
    · rename_i hle
      rw [List.head?_append_of_ne_nil _ Nat.toDigits_ne_nil] at h
      have hzero := ih (n / base) (Nat.div_lt_self (by omega) hbase) h
      have hpos := Nat.div_pos (by omega : base ≤ n) (by omega)
      omega

end NetworkTime.Text
