import NetworkTime.Config.Json.Reader
import NetworkTime.Proofs.Config.Json.Lexeme
import NetworkTime.Proofs.Config.Layout

/-! Values of settings as tokens: what stands for a value is read as that value, and every value has
tokens that can be written. -/

namespace NetworkTime.Config.Json
variable {k : Kind} {ts rest : List Token} {members : List (List Token)}

def list (items : List (List Token)) : List Token :=
  .openBracket :: ([.comma].intercalate items ++ [.closeBracket])

def integer : Int → Token
  | .ofNat n => .number (.natural n)
  | .negSucc n => .number (.negative (n + 1))

/-- The tokens of a value, which are any of its names if it has some. -/
def IsValue : (k : Kind) → k.Value → List Token → Prop
  | .text, v, ts => ts = [.text (some v)]
  | .texts, v, ts => ts = list (v.map fun entry => [.text (some entry)])
  | .flag, v, ts => ts = [.bool v]
  | .word8, v, ts => ts = [.number (.natural v.toNat)]
  | .word16, v, ts => ts = [.number (.natural v.toNat)]
  | .word32, v, ts => ts = [.number (.natural v.toNat)]
  | .word64, v, ts => ts = [.number (.natural v.toNat)]
  | .int8, v, ts => ts = [integer v.toInt]
  | k, v, ts => ∃ name, (name, v) ∈ k.names ∧ ts = [.text (some name)]

theorem intercalate_cons (sep : Token) (first : List Token) (items : List (List Token)) :
    [sep].intercalate (first :: items) = first ++ items.flatMap (sep :: ·) := by
  induction items generalizing first with
  | nil => simp
  | cons next items ih =>
    rw [List.intercalate_cons_cons, ih, List.flatMap_cons]
    simp

theorem readMoreTexts_append (entries : List String) (rest : List Token) :
    readMoreTexts ((entries.map fun entry => [.text (some entry)]).flatMap (.comma :: ·) ++
      .closeBracket :: rest) = .ok (entries, rest) := by
  induction entries with
  | nil => rfl
  | cons entry entries ih =>
    rw [List.map_cons, List.flatMap_cons, List.append_assoc, List.cons_append, List.cons_append,
      List.nil_append, readMoreTexts, ih]
    rfl

theorem readTexts_list (entries : List String) (rest : List Token) :
    readTexts (list (entries.map fun entry => [.text (some entry)]) ++ rest) =
      .ok (entries, rest) := by
  cases entries with
  | nil => rfl
  | cons entry entries =>
    rw [list, List.map_cons, intercalate_cons, List.cons_append, List.append_assoc,
      List.append_assoc, List.singleton_append, List.singleton_append, readTexts,
      readMoreTexts_append]
    rfl

theorem readWord_natural {α : Type} {size n : Nat} (word : Nat → α) (hn : n < size)
    (rest : List Token) :
    readWord size word (.number (.natural n) :: rest) = .ok (word n, rest) :=
  if_pos hn

theorem readInt8_integer (v : Int8) (rest : List Token) :
    readInt8 (integer v.toInt :: rest) = .ok (v, rest) := by
  have hlow : -128 ≤ v.toInt := v.le_toInt
  have hhigh : v.toInt ≤ 127 := v.toInt_le
  have hself := Int8.ofInt_toInt v
  generalize v.toInt = i at hlow hhigh hself
  cases i with
  | ofNat n =>
    have hn : n ≤ 127 := by simpa using hhigh
    rw [integer, readInt8, if_pos hn]
    exact congrArg (fun v => Except.ok (v, rest)) hself
  | negSucc n =>
    have hn : n + 1 ≤ 128 := by omega
    rw [integer, readInt8, if_pos hn]
    exact congrArg (fun v => Except.ok (v, rest)) hself

/-- A value is read up to its end. -/
theorem readValue_append {v : k.Value} (h : IsValue k v ts) (rest : List Token) :
    readValue k (ts ++ rest) = .ok (v, rest) := by
  have hname {α : Type} {names : List (String × α)} {v : α} {ts : List Token}
      (hnames : ∀ p ∈ names, names.lookup p.1 = some p.2)
      (h : ∃ name, (name, v) ∈ names ∧ ts = [.text (some name)]) :
      readName names (ts ++ rest) = .ok (v, rest) := by
    obtain ⟨name, hmem, rfl⟩ := h
    simp [readName, hnames _ hmem]
  cases k with
  | text | flag =>
    obtain rfl := h
    rfl
  | texts =>
    obtain rfl := h
    exact readTexts_list v rest
  | word8 =>
    obtain rfl := h
    rw [readValue, List.singleton_append, readWord_natural _ v.toNat_lt, UInt8.ofNat_toNat]
  | word16 =>
    obtain rfl := h
    rw [readValue, List.singleton_append, readWord_natural _ v.toNat_lt, UInt16.ofNat_toNat]
  | word32 =>
    obtain rfl := h
    rw [readValue, List.singleton_append, readWord_natural _ v.toNat_lt, UInt32.ofNat_toNat]
  | word64 =>
    obtain rfl := h
    rw [readValue, List.singleton_append, readWord_natural _ v.toNat_lt, UInt64.ofNat_toNat]
  | int8 =>
    obtain rfl := h
    exact readInt8_integer v rest
  | leap => exact hname (by decide) h
  | level => exact hname (by decide) h
  | destination => exact hname (by decide) h

theorem Writable.append (h : Writable ts) (h' : Writable rest) : Writable (ts ++ rest) :=
  List.forall_mem_append.mpr ⟨h, h'⟩

theorem writable_singleton {lexeme : List Char} {t : Token} (h : Lexeme lexeme t) :
    Writable [t] := fun _ hmem => List.mem_singleton.mp hmem ▸ ⟨lexeme, h⟩

theorem writable_text (s : String) : Writable [.text (some s)] := by
  obtain ⟨lexeme, hlexeme⟩ := exists_lexeme_text s
  exact writable_singleton hlexeme

theorem writable_intercalate (h : ∀ ts ∈ members, Writable ts) :
    Writable ([.comma].intercalate members) := by
  cases members with
  | nil => exact fun _ hmem => absurd hmem List.not_mem_nil
  | cons first members =>
    obtain ⟨hfirst, hmembers⟩ := List.forall_mem_cons.mp h
    rw [intercalate_cons]
    refine hfirst.append fun t ht => ?_
    obtain ⟨ts, hts, ht⟩ := List.mem_flatMap.mp ht
    exact (writable_singleton .comma).append (hmembers ts hts) t ht

theorem writable_list (h : ∀ ts ∈ members, Writable ts) : Writable (list members) :=
  (writable_singleton .openBracket).append
    ((writable_intercalate h).append (writable_singleton .closeBracket))

theorem writable_integer (v : Int8) : Writable [integer v.toInt] := by
  have hlow : -128 ≤ v.toInt := v.le_toInt
  have hhigh : v.toInt ≤ 127 := v.toInt_le
  generalize v.toInt = i at hlow hhigh
  cases i with
  | ofNat n =>
    have hn : n ≤ 127 := by simpa using hhigh
    exact writable_singleton (.natural (Nat.lt_of_le_of_lt hn (by decide)))
  | negSucc n =>
    have hn : n + 1 ≤ 128 := by omega
    exact writable_singleton (.negative n.succ_pos (Nat.le_trans hn (by decide)))

theorem exists_isValue (v : k.Value) : ∃ ts, IsValue k v ts ∧ Writable ts := by
  have hword {n size : Nat} (hn : n < size) (hsize : size ≤ UInt64.size) :
      Writable [.number (.natural n)] := writable_singleton (.natural (Nat.lt_of_lt_of_le hn hsize))
  have hname {α : Type} {names : List (String × α)} {v : α} (h : v ∈ names.map Prod.snd) :
      ∃ ts, (∃ name, (name, v) ∈ names ∧ ts = [.text (some name)]) ∧ Writable ts := by
    obtain ⟨⟨name, _⟩, hmem, rfl⟩ := List.mem_map.mp h
    exact ⟨_, ⟨name, hmem, rfl⟩, writable_text name⟩
  cases k with
  | text => exact ⟨_, rfl, writable_text v⟩
  | texts =>
    refine ⟨_, rfl, writable_list fun ts hts => ?_⟩
    obtain ⟨entry, -, rfl⟩ := List.mem_map.mp hts
    exact writable_text entry
  | flag => exact ⟨_, rfl, writable_singleton (.flag v)⟩
  | word8 => exact ⟨_, rfl, hword v.toNat_lt (by decide)⟩
  | word16 => exact ⟨_, rfl, hword v.toNat_lt (by decide)⟩
  | word32 => exact ⟨_, rfl, hword v.toNat_lt (by decide)⟩
  | word64 => exact ⟨_, rfl, hword v.toNat_lt (by decide)⟩
  | int8 => exact ⟨_, rfl, writable_integer v⟩
  | leap => exact hname (by cases v <;> decide : v ∈ leapNames.map Prod.snd)
  | level => exact hname (by cases v <;> decide : v ∈ levelNames.map Prod.snd)
  | destination => exact hname (by cases v <;> decide : v ∈ destinationNames.map Prod.snd)

end NetworkTime.Config.Json
