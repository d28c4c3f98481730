import Mathlib.Data.List.TakeWhile
import NetworkTime.Address.Parser
import NetworkTime.Address.Printer
import NetworkTime.Proofs.Address
import NetworkTime.Proofs.Text.Numeral

/-! Numbers in addresses, and IPv4 addresses: what is read is what is written at the front of a
text. -/

namespace NetworkTime.Address
open Text
variable {base most limit n : Nat} {padded : Bool} {c : Char} {cs ds rest : List Char}
  {os : List Nat}

theorem digitValue_sixteen_eq_none (h : digitValue 16 c = none) : digitValue 10 c = none := by
  simp only [digitValue] at h ⊢
  grind

/-- Decimal digits are hexadecimal digits. -/
theorem isSome_digitValue_sixteen (h : (digitValue 10 c).isSome = true) :
    (digitValue 16 c).isSome = true := by
  rw [Option.isSome_iff_ne_none] at h ⊢
  exact mt digitValue_sixteen_eq_none h

/-- A text that no digits go on into. -/
def EndsNumber (base : Nat) (rest : List Char) : Prop := ∀ c ∈ rest.head?, digitValue base c = none

theorem takeWhile_append (hds : ∀ c ∈ ds, (digitValue base c).isSome = true)
    (hrest : EndsNumber base rest) :
    (ds ++ rest).takeWhile (fun c => (digitValue base c).isSome) = ds := by
  have hnil : rest.takeWhile (fun c => (digitValue base c).isSome) = [] := by
    cases rest with
    | nil => rfl
    | cons c cs => simp [hrest c rfl]
  rw [List.takeWhile_append_of_pos hds, hnil, List.append_nil]

/-- The digits at the front of a text, and what they do not go on into. -/
theorem exists_append_endsNumber (base : Nat) (cs : List Char) : ∃ ds rest, cs = ds ++ rest ∧
    (∀ c ∈ ds, (digitValue base c).isSome = true) ∧ EndsNumber base rest := by
  refine ⟨_, _, List.takeWhile_append_dropWhile.symm,
    fun c => List.mem_takeWhile_imp (p := fun c => (digitValue base c).isSome), ?_⟩
  intro c hc
  have hhead := List.head?_dropWhile_not (fun c => (digitValue base c).isSome) cs
  rw [Option.mem_def.mp hc] at hhead
  simpa using hhead

/-- A number has no zeros in front of it, unless it may be padded. -/
def MayStart (padded : Bool) (ds : List Char) : Prop :=
  padded = true ∨ (ds.head? = some '0' → ds.length = 1)

theorem mayStart_iff (hne : ds ≠ []) :
    MayStart padded ds ↔ (!padded && ds.head? == some '0' && 1 < ds.length) = false := by
  have hpos : 0 < ds.length := List.length_pos_iff.mpr hne
  have hlen : ds.length = 1 ↔ ¬ 1 < ds.length := by omega
  rw [MayStart, hlen]
  cases padded <;> simp

/-- A number is read as far as there are digits. -/
theorem readNumber_eq_some_iff : readNumber base most limit padded cs = some (n, rest) ↔
    ∃ ds, cs = ds ++ rest ∧ EndsNumber base rest ∧ IsNumeral base ds n ∧ ds.length ≤ most ∧
      n ≤ limit ∧ MayStart padded ds := by
  constructor
  · intro h
    obtain ⟨ds, rest', rfl, hds, hrest⟩ := exists_append_endsNumber base cs
    unfold readNumber at h
    dsimp only at h
    rw [takeWhile_append hds hrest, List.drop_left] at h
    split at h
    · cases h
    · rename_i hok
      simp only [List.length_eq_zero_iff, not_or, Nat.not_lt] at hok
      split at h
      · cases h
      · rename_i hstart
        cases h
        rw [Bool.not_eq_true, ← mayStart_iff hok.1] at hstart
        exact ⟨ds, rfl, hrest, ⟨hok.1, hds, rfl⟩, hok.2.1, hok.2.2, hstart⟩
  · rintro ⟨ds, rfl, hrest, hds, hlen, hle, hstart⟩
    have hpos := List.length_pos_iff.mpr hds.ne_nil
    unfold readNumber
    dsimp only
    rw [takeWhile_append hds.isSome hrest, hds.value_eq, if_neg (by omega),
      (mayStart_iff hds.ne_nil).mp hstart, List.drop_left]
    rfl

theorem readNumber_eq_none (h : EndsNumber base rest) :
    readNumber base most limit padded rest = none := by
  rw [Option.eq_none_iff_forall_ne_some]
  rintro ⟨n, rest'⟩ hread
  obtain ⟨ds, rfl, -, hds, -⟩ := readNumber_eq_some_iff.mp hread
  obtain ⟨c, ds, rfl⟩ := List.exists_cons_of_ne_nil hds.ne_nil
  have hsome := hds.isSome c List.mem_cons_self
  rw [h c rfl] at hsome
  cases hsome

/-- An octet is written in the one way that its number has. -/
theorem readNumber_octet_iff : readNumber 10 3 255 false cs = some (n, rest) ↔
    cs = decimal n ++ rest ∧ n ≤ 255 ∧ EndsNumber 10 rest := by
  rw [readNumber_eq_some_iff]
  constructor
  · rintro ⟨ds, rfl, hrest, hds, -, hle, hstart⟩
    rw [hds.eq_toDigits (hstart.resolve_left (by decide))]
    exact ⟨rfl, hle, hrest⟩
  · rintro ⟨rfl, hle, hrest⟩
    have hds := isNumeral_toDigits (by decide : 1 < 10) (by decide) n
    refine ⟨_, rfl, hrest, hds, ?_, hle, .inr ?_⟩
    · exact (Nat.length_toDigits_le_iff (by decide) (by decide)).mpr (by omega)
    · intro hzero
      rw [eq_zero_of_head_toDigits (by decide) hzero]
      rfl

theorem readChar_eq_some_iff : readChar c cs = some rest ↔ cs = c :: rest := by
  cases cs with
  | nil => simp [readChar]
  | cons d cs => simp [readChar, eq_comm]

theorem readPointOctet_iff : readPointOctet cs = some (n, rest) ↔
    cs = '.' :: (decimal n ++ rest) ∧ n ≤ 255 ∧ EndsNumber 10 rest := by
  simp only [readPointOctet, Option.bind_eq_some_iff, readChar_eq_some_iff, readNumber_octet_iff]
  constructor
  · rintro ⟨mid, rfl, rfl, hle, hrest⟩
    exact ⟨rfl, hle, hrest⟩
  · rintro ⟨rfl, hle, hrest⟩
    exact ⟨_, rfl, rfl, hle, hrest⟩

theorem endsNumber_cons (hc : digitValue base c = none) (cs : List Char) :
    EndsNumber base (c :: cs) := by
  rintro c ⟨⟩
  exact hc

theorem printOctets_append (a b c d : Nat) (rest : List Char) :
    printOctets [a, b, c, d] ++ rest = decimal a ++ '.' :: (decimal b ++
      '.' :: (decimal c ++ '.' :: (decimal d ++ rest))) := by
  simp [printOctets, List.intercalate]

/-- Four octets are read up to the first character that is no digit. -/
theorem readOctets_eq_some_iff : readOctets cs = some (os, rest) ↔
    cs = printOctets os ++ rest ∧ os.length = 4 ∧ (∀ o ∈ os, o ≤ 255) ∧ EndsNumber 10 rest := by
  simp only [readOctets, Option.bind_eq_bind, Option.bind_eq_some_iff, Option.pure_def,
    Option.some.injEq, Prod.exists, Prod.mk.injEq, readNumber_octet_iff, readPointOctet_iff]
  constructor
  · rintro ⟨a, cs₁, ⟨rfl, ha, -⟩, b, cs₂, ⟨rfl, hb, -⟩, c, cs₃, ⟨rfl, hc, -⟩, d, cs₄,
      ⟨rfl, hd, hrest⟩, rfl, rfl⟩
    exact ⟨(printOctets_append ..).symm, rfl, by simp [ha, hb, hc, hd], hrest⟩
  · rintro ⟨rfl, hlen, hos, hrest⟩
    obtain ⟨a, b, c, d, rfl⟩ := List.length_eq_four.mp hlen
    simp only [List.forall_mem_cons] at hos
    obtain ⟨ha, hb, hc, hd, -⟩ := hos
    have hpoint (cs : List Char) : EndsNumber 10 ('.' :: cs) := endsNumber_cons (by decide) cs
    rw [printOctets_append]
    exact ⟨a, _, ⟨rfl, ha, hpoint _⟩, b, _, ⟨rfl, hb, hpoint _⟩, c, _, ⟨rfl, hc, hpoint _⟩, d, _,
      ⟨rfl, hd, hrest⟩, rfl, rfl⟩

theorem octet_le (bits : BitVec 32) : ∀ o ∈ octets bits, o ≤ 255 := by
  intro o ho
  have hlt : o < 256 := Positional.lt_of_mem_digits (by decide) ho
  omega

theorem octets_ofOctets (hlen : os.length = 4) (hos : ∀ o ∈ os, o ≤ 255) :
    octets (ofOctets os) = os := by
  have hdigits : Positional.digits 256 os.length (Positional.value 256 os) = os :=
    Positional.digits_value fun o ho => Nat.lt_succ_of_le (hos o ho)
  rw [hlen] at hdigits
  have hlt : Positional.value 256 os < 2 ^ 32 := by
    rw [← hdigits, Positional.value_digits]
    exact Nat.mod_lt _ (by decide)
  rw [octets, ofOctets, BitVec.toNat_ofNat, Nat.mod_eq_of_lt hlt, hdigits]

/-- An IPv4 address is written in one way. -/
theorem readV4_eq_some_iff {bits : BitVec 32} : readV4 cs = some (bits, rest) ↔
    cs = printOctets (octets bits) ++ rest ∧ EndsNumber 10 rest := by
  simp only [readV4, Option.map_eq_some_iff, Prod.exists, Prod.mk.injEq, readOctets_eq_some_iff]
  constructor
  · rintro ⟨os, rest', ⟨rfl, hlen, hos, hrest⟩, rfl, rfl⟩
    rw [octets_ofOctets hlen hos]
    exact ⟨rfl, hrest⟩
  · rintro ⟨rfl, hrest⟩
    exact ⟨octets bits, rest, ⟨rfl, length_octets bits, octet_le bits, hrest⟩,
      ofOctets_octets bits, rfl⟩

end NetworkTime.Address
