import NetworkTime.Config.Ini
import NetworkTime.Proofs.Text.Blank
import NetworkTime.Proofs.Text.Numeral

/-! Values written as text, texts and lists of them between quotes and all others as one word. -/

namespace NetworkTime.Config
variable {k : Kind} {word : List Char}
open Text

/-- An entry that can stand in a list between commas. -/
structure IsEntry (entry : String) : Prop where
  not_empty : entry ≠ ""
  no_comma : ',' ∉ entry.toList
  no_lineFeed : '\n' ∉ entry.toList
  trimmed : trim entry.toList = entry.toList

namespace Kind

/-- The first name of a value. -/
def nameOf {α : Type} [DecidableEq α] (names : List (String × α)) (x : α) : String :=
  ((names.find? (·.2 = x)).map Prod.fst).getD ""

def isQuoted : Kind → Bool
  | text | texts => true
  | _ => false

/-- A value as text, before quotes are put around it. -/
def body : (k : Kind) → k.Value → List Char
  | text, v => v.toList
  | texts, v => [','].intercalate (v.map String.toList)
  | flag, v => if v then "true".toList else "false".toList
  | word8, v => Nat.toDigits 10 v.toNat
  | word16, v => Nat.toDigits 10 v.toNat
  | word32, v => Nat.toDigits 10 v.toNat
  | word64, v => Nat.toDigits 10 v.toNat
  | int8, v => decimalInt v.toInt
  | leap, v => (nameOf leapNames v).toList
  | level, v => (nameOf levelNames v).toList
  | destination, v => (nameOf destinationNames v).toList

/-- A value as text. -/
def print (k : Kind) (v : k.Value) : List Char :=
  if k.isQuoted then '"' :: (k.body v ++ ['"']) else k.body v

/-- A value that one line can give. -/
def IsWritable : (k : Kind) → k.Value → Prop
  | text, v => '\n' ∉ v.toList
  | texts, v => ∀ entry ∈ v, IsEntry entry
  | _, _ => True

theorem readTexts_body {v : List String} (h : ∀ entry ∈ v, IsEntry entry) :
    readTexts (String.ofList (body texts v)) = v := by
  rw [readTexts, String.toList_ofList, body]
  by_cases hv : v = []
  · subst hv
    rfl
  have hparts : ∀ part ∈ v.map String.toList, ',' ∉ part ∧ trim part = part ∧ part ≠ [] := by
    intro part hpart
    obtain ⟨entry, hentry, rfl⟩ := List.mem_map.mp hpart
    obtain ⟨hne, hcomma, -, htrim⟩ := h entry hentry
    exact ⟨hcomma, htrim, by simpa using hne⟩
  rw [splitOn_intercalate (fun part hpart => (hparts part hpart).1) (by simpa using hv),
    List.map_congr_left (g := id) fun part hpart => (hparts part hpart).2.1, List.map_id,
    List.filter_eq_self.mpr fun part hpart => by simpa using (hparts part hpart).2.2]
  simp

theorem readWord_toDigits {α : Type} {size n : Nat} (word : Nat → α) (hn : n < size) :
    readWord size word (String.ofList (Nat.toDigits 10 n)) = .ok (word n) := by
  rw [readWord, String.toList_ofList, natural_toDigits (by decide) (by decide) (by omega)]

theorem read_body {v : k.Value} (h : k.IsWritable v) :
    k.read (String.ofList (k.body v)) = .ok v := by
  cases k with
  | text => simp [read, body]
  | texts => rw [read, readTexts_body h]
  | flag => cases v <;> decide
  | word8 => simp [read, body, readWord_toDigits UInt8.ofNat v.toNat_lt]
  | word16 => simp [read, body, readWord_toDigits UInt16.ofNat v.toNat_lt]
  | word32 => simp [read, body, readWord_toDigits UInt32.ofNat v.toNat_lt]
  | word64 => simp [read, body, readWord_toDigits UInt64.ofNat v.toNat_lt]
  | int8 =>
    have hread : integer 10 127 (decimalInt v.toInt) = .ok v.toInt :=
      integer_decimalInt v.le_toInt v.toInt_le
    simp only [read, body, String.toList_ofList, hread, Int8.ofInt_toInt]
  | leap => cases v <;> decide
  | level => cases v <;> decide
  | destination => cases v <;> decide

/-- A text without blanks and quotes. -/
def IsWord (word : List Char) : Prop := ∀ ch ∈ word, isBlank ch = false ∧ ch ≠ '"'

instance : Decidable (IsWord word) :=
  List.decidableBAll (fun ch => isBlank ch = false ∧ ch ≠ '"') word

theorem isWord_toDigits (n : Nat) : IsWord (Nat.toDigits 10 n) := by
  intro ch hch
  obtain ⟨ds, hds, hlt, -⟩ := toDigits_eq_map (by decide : 1 < 10) n
  rw [hds] at hch
  obtain ⟨d, hd, rfl⟩ := List.mem_map.mp hch
  have hd := hlt d hd
  interval_cases d <;> decide

theorem isWord_decimalInt (i : Int) : IsWord (decimalInt i) := by
  cases i with
  | ofNat n => exact isWord_toDigits n
  | negSucc n => exact List.forall_mem_cons.mpr ⟨by decide, isWord_toDigits (n + 1)⟩

theorem isWord_body (h : k.isQuoted = false) (v : k.Value) : IsWord (k.body v) := by
  cases k with
  | text => cases h
  | texts => cases h
  | flag => cases v <;> decide
  | word8 => exact isWord_toDigits v.toNat
  | word16 => exact isWord_toDigits v.toNat
  | word32 => exact isWord_toDigits v.toNat
  | word64 => exact isWord_toDigits v.toNat
  | int8 => exact isWord_decimalInt v.toInt
  | leap => cases v <;> decide
  | level => cases v <;> decide
  | destination => cases v <;> decide

theorem lineFeed_notMem_body {v : k.Value} (h : k.IsWritable v) : '\n' ∉ k.body v := by
  cases hquoted : k.isQuoted with
  | false => exact fun hmem => absurd (isWord_body hquoted v _ hmem).1 (by decide)
  | true =>
    cases k with
    | text => exact h
    | texts =>
      refine notMem_intercalate (by decide) fun part hpart => ?_
      obtain ⟨entry, hentry, rfl⟩ := List.mem_map.mp hpart
      exact (h entry hentry).no_lineFeed
    | _ => cases hquoted

theorem lineFeed_notMem_print {v : k.Value} (h : k.IsWritable v) : '\n' ∉ k.print v := by
  have hbody := lineFeed_notMem_body h
  unfold print
  split <;> simp [hbody]

theorem unquote_trim_quoted (inner : List Char) :
    Ini.unquote (trim ('"' :: (inner ++ ['"']))) = inner := by
  have htrim : trim ([] ++ '"' :: (inner ++ '"' :: [])) = '"' :: (inner ++ ['"']) := by
    rw [trim_append_cons (by decide), trimEnd_append_cons (by decide)]
    rfl
  rw [List.nil_append] at htrim
  simp [htrim, Ini.unquote, Ini.dropSuffix?]

theorem unquote_trim_word (h : IsWord word) : Ini.unquote (trim word) = word := by
  rw [trim_eq_self fun ch hch => (h ch hch).1]
  unfold Ini.unquote
  split
  · exact absurd rfl (h '"' List.mem_cons_self).2
  · rfl

theorem unquote_trim_print (v : k.Value) : Ini.unquote (trim (k.print v)) = k.body v := by
  unfold print
  split
  · exact unquote_trim_quoted _
  · exact unquote_trim_word (isWord_body (Bool.eq_false_iff.mpr ‹_›) v)

end Kind

end NetworkTime.Config
