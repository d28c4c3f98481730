import Mathlib.Data.List.Forall2
import Mathlib.Data.List.TakeDrop
import Mathlib.Data.List.TakeWhile
import NetworkTime.Proofs.Config.Json.Text

/-! Texts as sequences of tokens, each of them written without a fault, with white space between
them. -/

namespace NetworkTime.Config.Json
open Text

/-- How a token is written. -/
inductive Lexeme : List Char → Token → Prop
  | openBrace : Lexeme ['\x7b'] .openBrace
  | closeBrace : Lexeme ['\x7d'] .closeBrace
  | openBracket : Lexeme ['['] .openBracket
  | closeBracket : Lexeme [']'] .closeBracket
  | comma : Lexeme [','] .comma
  | colon : Lexeme [':'] .colon
  | flag (b : Bool) : Lexeme (if b then "true".toList else "false".toList) (.bool b)
  | natural {n : Nat} (hn : n < UInt64.size) :
    Lexeme (Nat.toDigits 10 n) (.number (.natural n))
  | negative {n : Nat} (hpos : 0 < n) (hn : n ≤ 0x8000000000000000) :
    Lexeme ('-' :: Nat.toDigits 10 n) (.number (.negative n))
  | text {raw cs : List Char} (h : Spells raw cs) :
    Lexeme ('"' :: (raw ++ ['"'])) (.text (some (String.ofList cs)))

/-- White space between tokens. -/
def IsSpaces (pad : List Char) : Prop := ∀ c ∈ pad, c ∈ [' ', '\n', '\t', '\r']

/-- A character with which a number would go on. -/
def Continues (c : Char) : Prop := c.isDigit = true ∨ c = '.' ∨ c = 'e' ∨ c = 'E'

/-- The token is over where the rest begins. -/
def Ends (t : Token) (rest : List Char) : Prop :=
  ∀ n, t = .number n → ∀ c, rest.head? = some c → ¬ Continues c

/-- The text of a sequence of tokens. -/
inductive Writes : List Char → List Token → Prop
  | nil {pad : List Char} (hpad : IsSpaces pad) : Writes pad []
  | cons {pad lexeme rest : List Char} {t : Token} {ts : List Token}
    (hpad : IsSpaces pad) (hlexeme : Lexeme lexeme t) (hends : Ends t rest)
    (h : Writes rest ts) : Writes (pad ++ lexeme ++ rest) (t :: ts)

variable {cs raw lexeme rest : List Char} {c : Char} {n : Nat} {t : Token} {ts : List Token}

theorem spanDigits_append (hrest : ∀ c, rest.head? = some c → ¬ Continues c) (n : Nat) :
    spanDigits (Nat.toDigits 10 n ++ rest) = (Nat.toDigits 10 n, rest) := by
  have hdigits : ∀ c ∈ Nat.toDigits 10 n, c.isDigit = true := fun _ =>
    Nat.isDigit_of_mem_toDigits (by decide) (by decide)
  rw [spanDigits, List.span_eq_takeWhile_dropWhile, List.takeWhile_append_of_pos hdigits,
    List.dropWhile_append_of_pos hdigits]
  cases rest with
  | nil => simp
  | cons c rest =>
    have hc : ¬ c.isDigit = true := fun hdigit => hrest c rfl (.inl hdigit)
    rw [List.takeWhile_cons_of_neg hc, List.dropWhile_cons_of_neg hc, List.append_nil]

theorem scanFraction_eq (hrest : ∀ c, rest.head? = some c → ¬ Continues c) (minus : Bool)
    (digits : List Char) :
    scanFraction minus digits rest = (.number (wholeNumber minus digits), rest) := by
  unfold scanFraction
  split <;> simp_all [Continues]

/-- A whole number is read up to its last digit. -/
theorem scanNumber_append (hrest : ∀ c, rest.head? = some c → ¬ Continues c) (minus : Bool)
    (n : Nat) :
    scanNumber minus (Nat.toDigits 10 n ++ rest) =
      (.number (wholeNumber minus (Nat.toDigits 10 n)), rest) := by
  rw [scanNumber, spanDigits_append hrest]
  split
  · rename_i hnil
    exact absurd (congrArg Prod.fst hnil) Nat.toDigits_ne_nil
  · rename_i hzero
    obtain ⟨hzero, -⟩ := Prod.mk.inj hzero
    have hhead : (Nat.toDigits 10 n).head? = some '0' := by rw [hzero, List.head?_cons]
    obtain rfl := eq_zero_of_head_toDigits (by decide) hhead
    cases hzero
  · rename_i hsome
    cases hsome
    exact scanFraction_eq hrest minus _

theorem wholeNumber_natural (hn : n < UInt64.size) :
    wholeNumber false (Nat.toDigits 10 n) = .natural n := by
  simp [wholeNumber, decimalValue, value_toDigits, hn]

theorem wholeNumber_negative (hpos : 0 < n) (hn : n ≤ 0x8000000000000000) :
    wholeNumber true (Nat.toDigits 10 n) = .negative n := by
  simp [wholeNumber, decimalValue, value_toDigits, hpos, hn]

theorem scanToken_digit (hc : c.isDigit = true) (rest : List Char) :
    scanToken c rest = scanNumber false (c :: rest) := by
  unfold scanToken
  split <;> simp_all

/-- Each token is read up to its end. -/
theorem scanToken_append (h : Lexeme (c :: cs) t) (hends : Ends t rest) :
    scanToken c (cs ++ rest) = (t, rest) := by
  generalize hlexeme : c :: cs = lexeme at h
  cases h with
  | natural hn =>
    have hc : c ∈ Nat.toDigits 10 _ := hlexeme ▸ List.mem_cons_self
    rw [scanToken_digit (Nat.isDigit_of_mem_toDigits (by decide) (by decide) hc),
      ← List.cons_append, hlexeme, scanNumber_append (hends _ rfl), wholeNumber_natural hn]
  | negative hpos hn =>
    cases hlexeme
    rw [← wholeNumber_negative hpos hn, ← scanNumber_append (hends _ rfl)]
    rfl
  | text h =>
    cases hlexeme
    obtain ⟨pieces, hscan, hchars⟩ := h.exists_pieces
    simp [scanToken, hscan, hchars]
  | flag b =>
    cases b <;> cases hlexeme <;> rfl
  | _ =>
    cases hlexeme
    rfl

theorem IsSpaces.isSpace_eq {pad : List Char} (h : IsSpaces pad) : ∀ c ∈ pad, isSpace c = true := by
  have hall : ∀ c ∈ [' ', '\n', '\t', '\r'], isSpace c = true := by simp [isSpace]
  exact fun c hc => hall c (h c hc)

theorem Lexeme.exists_cons (h : Lexeme lexeme t) :
    ∃ c cs, lexeme = c :: cs ∧ isSpace c = false := by
  cases h with
  | @natural n hn =>
    obtain ⟨c, cs, hcs⟩ := List.exists_cons_of_ne_nil (Nat.toDigits_ne_nil (n := n) (b := 10))
    have hc : c ∈ Nat.toDigits 10 n := hcs ▸ List.mem_cons_self
    have hdigit := Nat.isDigit_of_mem_toDigits (by decide) (by decide) hc
    refine ⟨c, cs, hcs, ?_⟩
    by_contra hspace
    simp only [isSpace, Bool.not_eq_false, Bool.or_eq_true, beq_iff_eq] at hspace
    obtain ((rfl | rfl) | rfl) | rfl := hspace <;> cases hdigit
  | flag b => cases b <;> exact ⟨_, _, rfl, by decide⟩
  | _ => exact ⟨_, _, rfl, by decide⟩

theorem Lexeme.ne_broken (h : Lexeme lexeme t) (quoted : Bool) (reading passing : Fault) :
    t ≠ .broken quoted reading passing := by
  cases h <;> simp

theorem scan_of_writes (h : Writes cs ts) {fuel : Nat} (hfuel : cs.length ≤ fuel) :
    scan fuel cs = ts := by
  induction h generalizing fuel with
  | nil hpad =>
    cases fuel with
    | zero => rfl
    | succ fuel => rw [scan, List.dropWhile_eq_nil_iff.mpr hpad.isSpace_eq]
  | @cons pad lexeme rest t ts hpad hlexeme hends _ ih =>
    obtain ⟨c, cs, rfl, hspace⟩ := hlexeme.exists_cons
    simp only [List.length_append, List.length_cons] at hfuel
    cases fuel with
    | zero => omega
    | succ fuel =>
      have hdrop : (pad ++ c :: cs ++ rest).dropWhile isSpace = c :: (cs ++ rest) := by
        rw [List.append_assoc, List.dropWhile_append_of_pos hpad.isSpace_eq, List.cons_append,
          List.dropWhile_cons_of_neg (by simp [hspace])]
      rw [scan, hdrop]
      simp only [scanToken_append hlexeme hends]
      split
      · rename_i hbroken
        exact absurd (congrArg Prod.fst hbroken) (hlexeme.ne_broken _ _ _)
      · rename_i hsome
        cases hsome
        rw [ih (by omega)]

/-- A text is read as the tokens that it was written from. -/
theorem tokens_of_writes (h : Writes cs ts) : tokens cs = ts :=
  scan_of_writes h (Nat.le_refl _)

/-- Tokens that each can be written. -/
def Writable (ts : List Token) : Prop := ∀ t ∈ ts, ∃ lexeme, Lexeme lexeme t

/-- Each token after a blank. -/
theorem writes_spaced {lexemes : List (List Char)} (h : List.Forall₂ Lexeme lexemes ts) :
    Writes (lexemes.flatMap (' ' :: ·)) ts := by
  induction h with
  | nil => exact .nil fun _ hmem => absurd hmem List.not_mem_nil
  | @cons lexeme t lexemes ts hlexeme _ ih =>
    have hblank : IsSpaces [' '] := by simp [IsSpaces]
    have hends : Ends t (lexemes.flatMap (' ' :: ·)) := by
      rintro n - c hc
      cases lexemes with
      | nil => cases hc
      | cons next lexemes =>
        cases hc
        simp [Continues]
    exact .cons hblank hlexeme hends ih

theorem exists_writes (h : Writable ts) : ∃ cs, Writes cs ts := by
  have hlexemes : ∃ lexemes, List.Forall₂ Lexeme lexemes ts := by
    induction ts with
    | nil => exact ⟨[], .nil⟩
    | cons t ts ih =>
      obtain ⟨⟨lexeme, hlexeme⟩, hts⟩ := List.forall_mem_cons.mp h
      obtain ⟨lexemes, hlexemes⟩ := ih hts
      exact ⟨lexeme :: lexemes, .cons hlexeme hlexemes⟩
  obtain ⟨lexemes, hlexemes⟩ := hlexemes
  exact ⟨_, writes_spaced hlexemes⟩

/-- A text between quotes where nothing in it has to be escaped. -/
theorem lexeme_plain {s : String} (h : IsPlain s.toList) :
    Lexeme ('"' :: (s.toList ++ ['"'])) (.text (some s)) := by
  have hlexeme := Lexeme.text (spells_plain h)
  rwa [String.ofList_toList] at hlexeme

theorem exists_lexeme_text (s : String) : ∃ lexeme, Lexeme lexeme (.text (some s)) := by
  obtain ⟨raw, hraw⟩ := exists_spells s.toList
  have hlexeme := Lexeme.text hraw
  rw [String.ofList_toList] at hlexeme
  exact ⟨_, hlexeme⟩

end NetworkTime.Config.Json
