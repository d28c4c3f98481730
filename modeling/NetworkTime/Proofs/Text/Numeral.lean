import NetworkTime.Proofs.Positional
import NetworkTime.Proofs.Text.Digits
import NetworkTime.Text.Blank

/-! Which texts are read as numbers, and which of them a number is written as. -/

namespace NetworkTime.Text
variable {base limit n d start : Nat} {beyond : NumberFault} {c : Char} {cs : List Char}

/-- A text of digits, one at least, and the number that they write. -/
structure IsNumeral (base : Nat) (cs : List Char) (n : Nat) : Prop where
  ne_nil : cs ≠ []
  isSome : ∀ c ∈ cs, (digitValue base c).isSome = true
  value_eq : Positional.value base (cs.filterMap (digitValue base)) = n

theorem not_isNumeral_nil : ¬ IsNumeral base [] n := fun h => h.ne_nil rfl

theorem digitValue_lt (h : digitValue base c = some d) : d < base := by
  simp only [digitValue, Option.ite_none_right_eq_some, Option.some.injEq] at h
  exact h.2 ▸ h.1

theorem lt_of_mem_filterMap (h : d ∈ cs.filterMap (digitValue base)) : d < base := by
  obtain ⟨c, -, hc⟩ := List.mem_filterMap.mp h
  exact digitValue_lt hc

theorem isBlank_of_digitValue (h : (digitValue base c).isSome = true) : isBlank c = false := by
  have hrange : 48 ≤ c.toNat ∧ c.toNat ≤ 122 := by
    simp only [digitValue, Char.le_def, UInt32.le_iff_toNat_le, Char.toNat_val] at h
    grind
  simp [isBlank]
  omega

/-- A numeral has room for no number beyond its digits. -/
theorem IsNumeral.lt_pow (h : IsNumeral base cs n) : n < base ^ cs.length := by
  have hbase : 0 < base := by
    obtain ⟨c, hc⟩ := List.exists_mem_of_ne_nil cs h.ne_nil
    obtain ⟨d, hd⟩ := Option.isSome_iff_exists.mp (h.isSome c hc)
    exact Nat.zero_lt_of_lt (digitValue_lt hd)
  have hlen := List.filterMap_length_eq_length.mpr h.isSome
  have hdigits : ∀ d ∈ cs.filterMap (digitValue base), d < base := fun d => lt_of_mem_filterMap
  have hvalue := congrArg (Positional.value base) (Positional.digits_value hdigits)
  rw [Positional.value_digits, hlen, h.value_eq] at hvalue
  rw [← hvalue]
  exact Nat.mod_lt _ (Nat.pow_pos hbase)

theorem isNumeral_toDigits (hbase : 1 < base) (hb : base ≤ 16) (n : Nat) :
    IsNumeral base (Nat.toDigits base n) n :=
  ⟨Nat.toDigits_ne_nil, fun _ => isSome_digitValue_of_mem hbase hb, value_toDigits hbase hb n⟩

/-- Digits are read to their end if the number that they continue stays within the limit. -/
theorem digits_eq_ok_iff (hbase : 0 < base) (hstart : start ≤ limit) :
    digits base limit beyond start cs = .ok n ↔
      (∀ c ∈ cs, (digitValue base c).isSome = true) ∧
        (cs.filterMap (digitValue base)).foldl (fun n d => n * base + d) start = n ∧
          n ≤ limit := by
  induction cs generalizing start with
  | nil =>
    rw [digits, Except.ok.injEq]
    constructor
    · rintro rfl
      exact ⟨by simp, rfl, hstart⟩
    · rintro ⟨-, hvalue, -⟩
      exact hvalue
  | cons c cs ih =>
    rw [digits, List.forall_mem_cons]
    split
    · rename_i hnone
      simp [hnone]
    · rename_i d hd
      rw [List.filterMap_cons_some hd, List.foldl_cons, hd]
      split
      · rename_i hbeyond
        simp only [reduceCtorEq, false_iff]
        rintro ⟨-, hvalue, hle⟩
        have hgrow := le_foldl hbase (start * base + d) (cs.filterMap (digitValue base))
        omega
      · rw [ih (by omega)]
        simp

theorem digits_eq_ok_iff_isNumeral (hbase : 0 < base) (hne : cs ≠ []) :
    digits base limit beyond 0 cs = .ok n ↔ IsNumeral base cs n ∧ n ≤ limit := by
  rw [digits_eq_ok_iff hbase (Nat.zero_le _)]
  constructor
  · rintro ⟨hsome, hvalue, hle⟩
    exact ⟨⟨hne, hsome, hvalue⟩, hle⟩
  · rintro ⟨h, hle⟩
    exact ⟨h.isSome, h.value_eq, hle⟩

theorem digits_toDigits (hbase : 1 < base) (hb : base ≤ 16) (hn : n ≤ limit) :
    digits base limit beyond 0 (Nat.toDigits base n) = .ok n :=
  (digits_eq_ok_iff_isNumeral (by omega) Nat.toDigits_ne_nil).mpr
    ⟨isNumeral_toDigits hbase hb n, hn⟩

theorem digitValue_sign (base : Nat) (h : c = '+' ∨ c = '-') : digitValue base c = none := by
  obtain rfl | rfl := h <;> simp [digitValue]

theorem natural_of_head? (hne : cs ≠ []) (hplus : cs.head? ≠ some '+') :
    natural base limit cs = digits base limit .tooLarge 0 cs := by
  unfold natural
  split <;> simp_all

/-- A numeral, with or without a plus sign. -/
def IsUnsigned (base : Nat) (cs : List Char) (n : Nat) : Prop :=
  IsNumeral base cs n ∨ ∃ ds, cs = '+' :: ds ∧ IsNumeral base ds n

theorem IsUnsigned.isBlank_eq_false (h : IsUnsigned base cs n) : ∀ c ∈ cs, isBlank c = false := by
  intro c hc
  rcases h with h | ⟨ds, rfl, h⟩
  · exact isBlank_of_digitValue (h.isSome c hc)
  · rcases List.mem_cons.mp hc with rfl | hc
    · decide
    · exact isBlank_of_digitValue (h.isSome c hc)

theorem natural_eq_ok_iff (hbase : 0 < base) :
    natural base limit cs = .ok n ↔ IsUnsigned base cs n ∧ n ≤ limit := by
  by_cases hplus : cs.head? = some '+'
  · obtain ⟨ds, rfl⟩ := List.head?_eq_some_iff.mp hplus
    have hsigned : ¬ IsNumeral base ('+' :: ds) n := by
      intro h
      have hsome := h.isSome '+' List.mem_cons_self
      rw [digitValue_sign base (.inl rfl)] at hsome
      cases hsome
    have hunsigned : IsUnsigned base ('+' :: ds) n ↔ IsNumeral base ds n := by
      simp [IsUnsigned, hsigned]
    rw [hunsigned]
    cases ds with
    | nil => simp [natural, not_isNumeral_nil]
    | cons d ds => exact digits_eq_ok_iff_isNumeral hbase (List.cons_ne_nil d ds)
  · have hunsigned : IsUnsigned base cs n ↔ IsNumeral base cs n := by
      rw [IsUnsigned, or_iff_left]
      rintro ⟨ds, rfl, -⟩
      exact hplus rfl
    rw [hunsigned]
    cases cs with
    | nil => simp [natural, not_isNumeral_nil]
    | cons c cs =>
      have hne := List.cons_ne_nil c cs
      rw [natural_of_head? hne hplus, digits_eq_ok_iff_isNumeral hbase hne]

theorem natural_toDigits (hbase : 1 < base) (hb : base ≤ 16) (hn : n ≤ limit) :
    natural base limit (Nat.toDigits base n) = .ok n :=
  (natural_eq_ok_iff (by omega)).mpr ⟨.inl (isNumeral_toDigits hbase hb n), hn⟩

theorem head?_toDigits_ne_sign (hbase : 1 < base) (hb : base ≤ 16) (h : c = '+' ∨ c = '-') :
    (Nat.toDigits base n).head? ≠ some c := by
  intro hhead
  have hsome := isSome_digitValue_of_mem hbase hb (List.mem_of_mem_head? hhead)
  rw [digitValue_sign base h] at hsome
  cases hsome

theorem integer_of_head? (hne : cs ≠ []) (hplus : cs.head? ≠ some '+')
    (hminus : cs.head? ≠ some '-') :
    integer base limit cs = (digits base limit .tooLarge 0 cs).map Int.ofNat := by
  unfold integer
  split <;> simp_all

theorem integer_minus (hne : cs ≠ []) : integer base limit ('-' :: cs) =
    (digits base (limit + 1) .tooSmall 0 cs).map fun n => -(n : Int) := by
  cases cs with
  | nil => exact absurd rfl hne
  | cons c cs => rfl

/-- An integer in decimal digits, after a sign if it is negative. -/
def decimalInt : Int → List Char
  | .ofNat n => Nat.toDigits 10 n
  | .negSucc n => '-' :: Nat.toDigits 10 (n + 1)

theorem integer_decimalInt {i : Int} (hlow : -limit - 1 ≤ i) (hhigh : i ≤ limit) :
    integer 10 limit (decimalInt i) = .ok i := by
  cases i with
  | ofNat n =>
    have hn : n ≤ limit := by simpa using hhigh
    have hsign {c} (h : c = '+' ∨ c = '-') :=
      head?_toDigits_ne_sign (n := n) (by decide : 1 < 10) (by decide) h
    rw [decimalInt, integer_of_head? Nat.toDigits_ne_nil (hsign (.inl rfl)) (hsign (.inr rfl)),
      digits_toDigits (by decide) (by decide) hn]
    rfl
  | negSucc n =>
    have hn : n + 1 ≤ limit + 1 := by omega
    rw [decimalInt, integer_minus Nat.toDigits_ne_nil,
      digits_toDigits (by decide) (by decide) hn]
    rfl

theorem eq_digitChar_of_digitValue (h : digitValue 10 c = some d) : c = d.digitChar := by
  have hlt : d < 10 := digitValue_lt h
  have hc : c.toNat = 48 + d := by
    simp only [digitValue, Char.le_def, UInt32.le_iff_toNat_le, Char.toNat_val] at h
    grind
  have hself (e : Char) (he : e.toNat = 48 + d) : c = e := Char.toNat_inj.mp (hc.trans he.symm)
  interval_cases d <;> exact hself _ rfl

/-- A number has one decimal numeral only that does not start with a superfluous zero. -/
theorem IsNumeral.eq_toDigits (h : IsNumeral 10 cs n)
    (hzero : cs.head? = some '0' → cs.length = 1) : cs = Nat.toDigits 10 n := by
  -- Digits are taken off at the end, as they are put there in writing a number.
  induction cs using List.reverseRecOn generalizing n with
  | nil => exact absurd h not_isNumeral_nil
  | append_singleton cs c ih =>
    obtain ⟨hcs, hc⟩ := List.forall_mem_append.mp h.isSome
    obtain ⟨d, hd⟩ := Option.isSome_iff_exists.mp (hc c List.mem_cons_self)
    have hlt : d < 10 := digitValue_lt hd
    have hvalue := h.value_eq
    rw [List.filterMap_append, List.filterMap_cons_some hd, List.filterMap_nil,
      Positional.value_append_singleton] at hvalue
    rw [eq_digitChar_of_digitValue hd]
    by_cases hne : cs = []
    · subst hne
      have hn : n = d := by simpa using hvalue.symm
      rw [hn, Nat.toDigits_of_lt_base hlt, List.nil_append]
    · have hlong : (cs ++ [c]).length ≠ 1 := by simpa using hne
      have hfirst : cs.head? ≠ some '0' := by
        intro hhead
        exact hlong (hzero (by rw [List.head?_append_of_ne_nil _ hne, hhead]))
      have hdigits := ih ⟨hne, hcs, rfl⟩ fun hhead => absurd hhead hfirst
      generalize Positional.value 10 (cs.filterMap (digitValue 10)) = m at hvalue hdigits
      have hpos : m ≠ 0 := by
        rintro rfl
        rw [hdigits] at hfirst
        exact hfirst rfl
      have hten : ¬ n < 10 := by omega
      have hdiv : n / 10 = m := by omega
      have hmod : n % 10 = d := by omega
      rw [Nat.toDigits_eq_if (by decide), if_neg hten, hdiv, hmod, ← hdigits]

end NetworkTime.Text
