import NetworkTime.Config.Json.Token
import NetworkTime.Proofs.Text.Numeral

/-! Texts between quotes. A character can be written as it is, by the letter of its escape, or by
the units of sixteen bits that encode it. -/

namespace NetworkTime.Config.Json
open Text

/-- The letters that follow a backslash, and what they stand for. -/
def escapes : List (Char × Char) :=
  [('"', '"'), ('\\', '\\'), ('/', '/'), ('b', '\x08'), ('f', '\x0c'), ('n', '\n'), ('r', '\r'),
   ('t', '\t')]

/-- Four hexadecimal digits, of either case, and the unit that they write. -/
structure IsUnit (ds : List Char) (n : Nat) : Prop where
  length_eq : ds.length = 4
  numeral : IsNumeral 16 ds n

/-- The first half of the surrogate pair of a character beyond sixteen bits. -/
def highHalf (c : Char) : Nat := 0xD800 + (c.toNat - 0x10000) / 0x400

/-- The second half. -/
def lowHalf (c : Char) : Nat := 0xDC00 + (c.toNat - 0x10000) % 0x400

/-- What stands between the quotes, and the text that it gives. -/
inductive Spells : List Char → List Char → Prop
  | nil : Spells [] []
  | plain {c : Char} {raw cs : List Char} (hlow : 0x20 ≤ c.toNat) (hquote : c ≠ '"')
    (hslash : c ≠ '\\') (h : Spells raw cs) : Spells (c :: raw) (c :: cs)
  | escape {e c : Char} {raw cs : List Char} (he : (e, c) ∈ escapes) (h : Spells raw cs) :
    Spells ('\\' :: e :: raw) (c :: cs)
  | unit {c : Char} {ds raw cs : List Char} (hds : IsUnit ds c.toNat) (h : Spells raw cs) :
    Spells ('\\' :: 'u' :: (ds ++ raw)) (c :: cs)
  | pair {c : Char} {ds ds' raw cs : List Char} (hlong : 0x10000 ≤ c.toNat)
    (hds : IsUnit ds (highHalf c)) (hds' : IsUnit ds' (lowHalf c)) (h : Spells raw cs) :
    Spells ('\\' :: 'u' :: (ds ++ '\\' :: 'u' :: (ds' ++ raw))) (c :: cs)

variable {raw cs ds : List Char} {c e : Char} {n : Nat}

/-- A text in which nothing has to be escaped. -/
def IsPlain (cs : List Char) : Prop := ∀ c ∈ cs, 0x20 ≤ c.toNat ∧ c ≠ '"' ∧ c ≠ '\\'

instance : Decidable (IsPlain cs) :=
  List.decidableBAll (fun c : Char => 0x20 ≤ c.toNat ∧ c ≠ '"' ∧ c ≠ '\\') cs

theorem scanText_plain (hlow : 0x20 ≤ c.toNat) (hquote : c ≠ '"') (hslash : c ≠ '\\')
    (rest : List Char) :
    scanText (c :: rest) = (.char c :: (scanText rest).1, (scanText rest).2) := by
  have hnot : ¬ c.toNat < 0x20 := by omega
  rw [scanText.eq_def]
  split <;> simp_all

theorem scanText_escape (he : (e, c) ∈ escapes) (rest : List Char) :
    scanText ('\\' :: e :: rest) = (.char c :: (scanText rest).1, (scanText rest).2) := by
  have hall : ∀ p ∈ escapes, p.1 ≠ 'u' ∧ escaped? p.1 = some p.2 := by simp [escapes, escaped?]
  obtain ⟨hu, he⟩ := hall _ he
  rw [scanText.eq_def]
  split <;> grind

theorem scanText_unit (h : IsUnit ds n) (rest : List Char) :
    scanText ('\\' :: 'u' :: (ds ++ rest)) =
      (.unit n :: (scanText rest).1, (scanText rest).2) := by
  obtain ⟨hlength, -, hdigits, hvalue⟩ := h
  obtain ⟨a, b, c, d, rfl⟩ := List.length_eq_four.mp hlength
  simp only [List.forall_mem_cons, Option.isSome_iff_exists] at hdigits
  obtain ⟨⟨va, ha⟩, ⟨vb, hb⟩, ⟨vc, hc⟩, ⟨vd, hd⟩, -⟩ := hdigits
  have hhex : hex4? a b c d = some n := by
    simp only [List.filterMap_cons, ha, hb, hc, hd, List.filterMap_nil] at hvalue
    simp [hex4?, ha, hb, hc, hd, hvalue]
  simp [scanText, hhex]

theorem IsUnit.lt (h : IsUnit ds n) : n < 0x10000 := by
  have hlt := h.numeral.lt_pow
  rwa [h.length_eq] at hlt

theorem toNat_range (c : Char) : c.toNat < 0xD800 ∨ 0xDFFF < c.toNat ∧ c.toNat < 0x110000 := by
  have hvalid := c.valid
  simpa only [UInt32.isValidChar, Nat.isValidChar, Char.toNat_val] using hvalid

/-- A character of sixteen bits is no half of a surrogate pair. -/
theorem characters_unit (hc : c.toNat < 0x10000) (pieces : List Piece) :
    characters (.unit c.toNat :: pieces) = (c :: (characters pieces).1, (characters pieces).2) := by
  have hrange := toNat_range c
  have hhigh : isHigh c.toNat = false := by
    simp only [isHigh, Bool.and_eq_false_iff, decide_eq_false_iff_not]
    omega
  have hlow : isLow c.toNat = false := by
    simp only [isLow, Bool.and_eq_false_iff, decide_eq_false_iff_not]
    omega
  cases pieces with
  | nil => simp [characters, hhigh, hlow]
  | cons piece pieces => cases piece <;> simp [characters, hhigh, hlow]

theorem characters_pair (hlong : 0x10000 ≤ c.toNat) (pieces : List Piece) :
    characters (.unit (highHalf c) :: .unit (lowHalf c) :: pieces) =
      (c :: (characters pieces).1, (characters pieces).2) := by
  have hrange := toNat_range c
  have hhigh : 0xD800 ≤ highHalf c ∧ highHalf c ≤ 0xDBFF := by
    unfold highHalf
    omega
  have hlow : 0xDC00 ≤ lowHalf c ∧ lowHalf c ≤ 0xDFFF := by
    unfold lowHalf
    omega
  have hvalue : 0x10000 + (highHalf c - 0xD800) * 0x400 + (lowHalf c - 0xDC00) = c.toNat := by
    unfold highHalf lowHalf
    omega
  simp [characters, isHigh, isLow, hhigh, hlow, hvalue]

/-- The text ends at the first quote that is not part of an escape. -/
theorem Spells.exists_pieces (h : Spells raw cs) :
    ∃ pieces, (∀ rest, scanText (raw ++ '"' :: rest) = (pieces, .ok rest)) ∧
      characters pieces = (cs, []) := by
  induction h with
  | nil => exact ⟨[], fun rest => by simp [scanText], rfl⟩
  | @plain c _ _ hlow hquote hslash _ ih =>
    obtain ⟨pieces, hscan, hchars⟩ := ih
    refine ⟨.char c :: pieces, fun rest => ?_, ?_⟩
    · rw [List.cons_append, scanText_plain hlow hquote hslash, hscan]
    · rw [characters, hchars]
  | @escape _ c _ _ he _ ih =>
    obtain ⟨pieces, hscan, hchars⟩ := ih
    refine ⟨.char c :: pieces, fun rest => ?_, ?_⟩
    · rw [List.cons_append, List.cons_append, scanText_escape he, hscan]
    · rw [characters, hchars]
  | @unit c _ _ _ hds _ ih =>
    obtain ⟨pieces, hscan, hchars⟩ := ih
    refine ⟨.unit c.toNat :: pieces, fun rest => ?_, ?_⟩
    · rw [List.cons_append, List.cons_append, List.append_assoc, scanText_unit hds, hscan]
    · rw [characters_unit (hds.lt), hchars]
  | @pair c _ _ _ _ hlong hds hds' _ ih =>
    obtain ⟨pieces, hscan, hchars⟩ := ih
    refine ⟨.unit (highHalf c) :: .unit (lowHalf c) :: pieces, fun rest => ?_, ?_⟩
    · simp only [List.cons_append, List.append_assoc, scanText_unit hds, scanText_unit hds', hscan]
    · rw [characters_pair hlong, hchars]

theorem spells_plain (h : IsPlain cs) : Spells cs cs := by
  induction cs with
  | nil => exact .nil
  | cons c cs ih =>
    obtain ⟨⟨hlow, hquote, hslash⟩, hcs⟩ := List.forall_mem_cons.mp h
    exact .plain hlow hquote hslash (ih hcs)

theorem exists_isUnit (hn : n < 0x10000) : ∃ ds, IsUnit ds n := by
  have hlt : ∀ d ∈ Positional.digits 16 4 n, d < 16 := fun d =>
    Positional.lt_of_mem_digits (by decide)
  have hlength : ((Positional.digits 16 4 n).map Nat.digitChar).length = 4 := by simp
  refine ⟨_, hlength, List.ne_nil_of_length_eq_add_one hlength, ?_, ?_⟩
  · intro c hc
    obtain ⟨d, hd, rfl⟩ := List.mem_map.mp hc
    rw [digitValue_digitChar (hlt d hd) (by decide), Option.isSome_some]
  · rw [filterMap_digitValue_map (by decide) hlt, Positional.value_digits]
    exact Nat.mod_eq_of_lt hn

/-- Every text can be written. -/
theorem exists_spells (cs : List Char) : ∃ raw, Spells raw cs := by
  induction cs with
  | nil => exact ⟨[], .nil⟩
  | cons c cs ih =>
    obtain ⟨raw, hraw⟩ := ih
    by_cases hplain : 0x20 ≤ c.toNat ∧ c ≠ '"' ∧ c ≠ '\\'
    · obtain ⟨hlow, hquote, hslash⟩ := hplain
      exact ⟨c :: raw, .plain hlow hquote hslash hraw⟩
    · have hlt : c.toNat < 0x10000 := by
        by_contra hlong
        refine hplain ⟨by omega, ?_, ?_⟩ <;> rintro rfl <;> exact hlong (by decide)
      obtain ⟨ds, hds⟩ := exists_isUnit hlt
      exact ⟨_, .unit hds hraw⟩

end NetworkTime.Config.Json
