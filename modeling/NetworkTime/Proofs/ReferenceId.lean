import Mathlib.Data.List.GetD
import NetworkTime.Proofs.Address.Grammar
import NetworkTime.ReferenceId

/-! Reference identifiers as text, and read back from it. An identifier is shown as four octets, or
as the characters before its first zero byte. The two forms are told apart by their lengths. -/

namespace NetworkTime.ReferenceId
open Wire Address
variable {id id' : ReferenceId} {bs : Bytes} {b : UInt8}

theorem bytes_ofBytes (bytes : Bytes) :
    (ofBytes bytes).bytes = (bytes ++ [0, 0, 0, 0]).take 4 := by
  rcases bytes with _ | ⟨a, _ | ⟨b, _ | ⟨c, _ | ⟨d, rest⟩⟩⟩⟩ <;> simp [ofBytes, ReferenceId.bytes]

theorem ofBytes_bytes (id : ReferenceId) : ofBytes id.bytes = id := rfl

/-- Zeros at the end say nothing. -/
theorem ofBytes_append_zeros (bs : Bytes) (count : Nat) :
    ofBytes (bs ++ List.replicate count 0) = ofBytes bs := by
  have hsame (i : Nat) : (bs ++ List.replicate count 0).getD i 0 = bs.getD i 0 := by
    by_cases hi : i < bs.length
    · rw [List.getD_append _ _ _ _ hi]
    · have hi := Nat.le_of_not_lt hi
      rw [List.getD_append_right _ _ _ _ hi, List.getD_eq_default _ _ hi,
        List.getD_eq_getElem?_getD, List.getElem?_replicate]
      split <;> rfl
  simp only [ofBytes, hsame]

/-- A byte that no identifier in characters has. -/
def IsForeign (b : UInt8) : Prop := b ≠ 0 ∧ b ≠ 0x20 ∧ isGraphic b = false

/-- An identifier that is not made of characters, or does not start with one that has a shape. -/
def IsOctets (id : ReferenceId) : Prop :=
  isGraphic id.first = false ∨ ∃ b ∈ id.bytes, IsForeign b

/-- The address with the bytes as its octets. -/
def address (id : ReferenceId) : BitVec 32 := ofOctets (id.bytes.map UInt8.toNat)

/-- No byte but zero follows a zero byte. -/
def IsPadded (id : ReferenceId) : Prop := id.bytes.Pairwise fun a b => a = 0 → b = 0

instance (id : ReferenceId) : Decidable id.IsPadded :=
  inferInstanceAs (Decidable (List.Pairwise _ _))

/-- The bytes before the first zero byte. -/
def code (id : ReferenceId) : Bytes := id.bytes.takeWhile (· != 0)

/-- The characters with the bytes as their codes. -/
def characters (bs : Bytes) : List Char := bs.map fun b => Char.ofNat b.toNat

theorem isPrintable_iff : id.isPrintable = true ↔ ¬ id.IsOctets := by
  simp only [isPrintable, IsOctets, IsForeign, Bool.and_eq_true, List.all_eq_true,
    Bool.or_eq_true, beq_iff_eq]
  grind

theorem octets_address (id : ReferenceId) : octets id.address = id.bytes.map UInt8.toNat := by
  apply octets_ofOctets rfl
  intro o ho
  obtain ⟨b, -, rfl⟩ := List.mem_map.mp ho
  exact Nat.le_of_lt_succ b.toNat_lt

theorem ofV4_address (id : ReferenceId) : ofV4 id.address = id := by
  have hback : (id.bytes.map UInt8.toNat).map UInt8.ofNat = id.bytes := by
    simp only [List.map_map, Function.comp_def, UInt8.ofNat_toNat, List.map_id']
  rw [ofV4, octets_address, hback, ofBytes_bytes]

theorem print_of_isOctets (h : id.IsOctets) : id.print = printOctets (octets id.address) := by
  have hshown : ¬ id.isPrintable = true := fun hprintable => isPrintable_iff.mp hprintable h
  rw [print, if_neg hshown, octets_address]

theorem print_of_not_isOctets (h : ¬ id.IsOctets) : id.print = characters id.code := by
  rw [print, if_pos (isPrintable_iff.mpr h)]
  rfl

/-- The characters end where the identifier does, or before its first zero byte. -/
theorem bytes_eq_code_append (id : ReferenceId) :
    ∃ rest, id.bytes = id.code ++ rest ∧ 0 ∉ id.code ∧ (rest = [] ∨ rest.head? = some 0) := by
  refine ⟨id.bytes.dropWhile (· != 0), List.takeWhile_append_dropWhile.symm, ?_, ?_⟩
  · intro hzero
    have hne : ((0 : UInt8) != 0) = true := List.mem_takeWhile_imp (p := (· != 0)) hzero
    cases hne
  · have hhead := List.head?_dropWhile_not (· != 0) id.bytes
    cases hrest : id.bytes.dropWhile (· != 0) with
    | nil => exact .inl rfl
    | cons b rest =>
      rw [hrest] at hhead
      exact .inr (by simpa using hhead)

theorem length_characters_code_le (id : ReferenceId) : (characters id.code).length ≤ 4 := by
  obtain ⟨rest, hbytes, -⟩ := id.bytes_eq_code_append
  have hlen := congrArg List.length hbytes
  rw [List.length_append] at hlen
  have hfour : id.bytes.length = 4 := rfl
  rw [characters, List.length_map]
  omega

/-- Four octets take seven characters at least. -/
theorem lt_length_printOctets (bits : BitVec 32) : 4 < (printOctets (octets bits)).length := by
  obtain ⟨a, b, c, d, hos⟩ := List.length_eq_four.mp (length_octets bits)
  have hpos (n : Nat) : 0 < (decimal n).length := List.length_pos_iff.mpr Nat.toDigits_ne_nil
  have ha := hpos a
  have hb := hpos b
  rw [hos, ← List.append_nil (printOctets _), printOctets_append]
  simp only [List.length_append, List.length_cons]
  omega

theorem print_ne_printOctets (h : ¬ id.IsOctets) (bits : BitVec 32) :
    id.print ≠ printOctets (octets bits) := by
  intro heq
  have hshort := id.length_characters_code_le
  have hlong := lt_length_printOctets bits
  rw [← heq, print_of_not_isOctets h] at hlong
  omega

theorem text_eq_address_iff : id.text = (Address.v4 id.address).text ↔ id.IsOctets := by
  constructor
  · intro h
    by_contra hnot
    exact print_ne_printOctets hnot id.address (String.ofList_injective h)
  · intro h
    exact congrArg String.ofList (print_of_isOctets h)

/-- The identifier that a text stands for: that of an IPv4 address, or else of characters. -/
def ofDisplay (text : String) : ReferenceId :=
  match Address.parse? text.toList with
  | some (.v4 bits) => ofV4 bits
  | _ => ofText text

theorem ofDisplay_of_isOctets (h : id.IsOctets) : ofDisplay id.text = id := by
  have hparse : Address.parse? id.text.toList = some (.v4 id.address) := by
    rw [text, String.toList_ofList, print_of_isOctets h]
    exact parse?_eq_some_iff.mpr (.v4 id.address)
  rw [ofDisplay, hparse]
  exact ofV4_address id

theorem isOctets_of_le (hb : b ∈ id.bytes) (h : 127 ≤ b.toNat) : id.IsOctets := by
  have hne (c : UInt8) (hc : c.toNat < 127) : b ≠ c := by
    rintro rfl
    omega
  have hgraphic : isGraphic b = false := by
    have hle : ¬ b ≤ 0x7E := by
      rw [UInt8.le_iff_toNat_le, Nat.not_le]
      exact h
    simp [isGraphic, hle]
  exact .inr ⟨b, hb, hne 0 (by decide), hne 0x20 (by decide), hgraphic⟩

/-- The characters of ASCII are bytes of their own in UTF-8. -/
theorem utf8_characters (h : ∀ b ∈ bs, b.toNat < 127) :
    (String.ofList (characters bs)).toUTF8.data.toList = bs := by
  have hchar : ∀ b ∈ bs, String.utf8EncodeChar (Char.ofNat b.toNat) = [b] := by
    intro b hb
    have hlt := h b hb
    have hcode : (Char.ofNat b.toNat).val.toNat = b.toNat := by
      rw [Char.ofNat, dif_pos (.inl (by omega))]
      rfl
    rw [String.utf8EncodeChar, hcode]
    simp only [if_pos (Nat.le_of_lt hlt), UInt8.ofNat_toNat]
  rw [String.toUTF8_eq_toByteArray, String.toByteArray_ofList, List.utf8Encode,
    List.data_toByteArray, characters, List.flatMap_map, List.flatMap_congr hchar,
    List.flatMap_singleton', List.toList_toArray]

theorem ofDisplay_of_not_isOctets (h : ¬ id.IsOctets) : ofDisplay id.text = ofBytes id.code := by
  have hascii : ∀ b ∈ id.code, b.toNat < 127 := by
    intro b hb
    by_contra hle
    exact h (isOctets_of_le (List.takeWhile_subset _ hb) (Nat.le_of_not_lt hle))
  have hcode : ofText id.text = ofBytes id.code := by
    rw [ofText, text, print_of_not_isOctets h, utf8_characters hascii]
  -- The characters may write an IPv6 address, but they are too few for an IPv4 one.
  unfold ofDisplay
  split
  · rename_i bits hparse
    rw [text, String.toList_ofList] at hparse
    generalize hprint : id.print = cs at hparse
    cases parse?_eq_some_iff.mp hparse
    exact absurd hprint (print_ne_printOctets h bits)
  · exact hcode

theorem IsPadded.ofBytes_code (h : id.IsPadded) : ofBytes id.code = id := by
  obtain ⟨rest, hbytes, -, hrest⟩ := id.bytes_eq_code_append
  have hzeros : rest = List.replicate rest.length 0 := by
    apply List.eq_replicate_iff.mpr
    refine ⟨rfl, ?_⟩
    rw [IsPadded, hbytes, List.pairwise_append] at h
    rcases hrest with rfl | hzero
    · simp
    · obtain ⟨tail, rfl⟩ := List.head?_eq_some_iff.mp hzero
      have htail := (List.pairwise_cons.mp h.2.1).1
      simpa using htail
  rw [← ofBytes_append_zeros id.code rest.length, ← hzeros, ← hbytes, ofBytes_bytes]

theorem isPadded_ofBytes (h : 0 ∉ bs) : (ofBytes bs).IsPadded := by
  have hpairwise : (bs ++ [0, 0, 0, 0]).Pairwise fun a b => a = 0 → b = 0 := by
    apply List.pairwise_append.mpr
    refine ⟨List.pairwise_of_forall_mem_list ?_, by simp, ?_⟩
    all_goals
      intro a ha b _ hzero
      exact absurd (hzero ▸ ha) h
  rw [IsPadded, bytes_ofBytes]
  exact hpairwise.sublist (List.take_sublist _ _)

/-- Octets are always read back, and characters if they tell all bytes. -/
theorem ofDisplay_text_iff : ofDisplay id.text = id ↔ id.IsOctets ∨ id.IsPadded := by
  by_cases h : id.IsOctets
  · simp only [ofDisplay_of_isOctets h, h, true_or]
  · rw [ofDisplay_of_not_isOctets h, or_iff_right h]
    constructor
    · intro hback
      obtain ⟨-, -, hzero, -⟩ := id.bytes_eq_code_append
      rw [← hback]
      exact isPadded_ofBytes hzero
    · exact IsPadded.ofBytes_code

/-- An identifier is shown as an address just if it does not start with a character that has a
shape, or has a byte that is neither such a character nor a space nor zero. Otherwise it is shown as
the characters before its first zero byte. It is read back from its text if no other byte follows a
zero byte, so that no two identifiers of this kind look alike. The identifier of a text has the first
four bytes of it in UTF-8, with zeros for those that are missing. -/
theorem ofDisplay_inverts_text :
    (∀ id : ReferenceId,
      (id.text = (Address.v4 id.address).text ↔ id.IsOctets) ∧
      (¬ id.IsOctets → ∃ code rest, id.bytes = code ++ rest ∧ 0 ∉ code ∧
        (rest = [] ∨ rest.head? = some 0) ∧ id.text = String.ofList (characters code)) ∧
      (ofDisplay id.text = id ↔ id.IsOctets ∨ id.IsPadded)) ∧
    (∀ id id' : ReferenceId, id.IsPadded → id'.IsPadded → id.text = id'.text → id = id') ∧
    ∀ s : String, (ofText s).bytes = (s.toUTF8.data.toList ++ [0, 0, 0, 0]).take 4 := by
  refine ⟨fun id => ⟨text_eq_address_iff, ?_, ofDisplay_text_iff⟩, ?_, fun s => bytes_ofBytes _⟩
  · intro h
    obtain ⟨rest, hbytes, hzero, hrest⟩ := id.bytes_eq_code_append
    exact ⟨id.code, rest, hbytes, hzero, hrest, congrArg String.ofList (print_of_not_isOctets h)⟩
  · intro id id' hid hid' htext
    rw [← ofDisplay_text_iff.mpr (.inr hid), ← ofDisplay_text_iff.mpr (.inr hid'), htext]

/-- Three characters that write an IPv6 address, an IPv4 address with a zero in the middle, and a
character that a zero byte cuts off. -/
theorem ofDisplay_inverts_text_colons :
    ¬ IsOctets ⟨0x3A, 0x3A, 0x31, 0⟩ ∧ IsPadded ⟨0x3A, 0x3A, 0x31, 0⟩ ∧
    text ⟨0x3A, 0x3A, 0x31, 0⟩ = "::1" ∧
    Address.parse? "::1".toList = some (.v6 1#128) ∧
    ofDisplay "::1" = ⟨0x3A, 0x3A, 0x31, 0⟩ ∧
    ofDisplay (text ⟨192, 0, 2, 1⟩) = ⟨192, 0, 2, 1⟩ ∧
    ofDisplay (text ⟨0x41, 0, 0x42, 0⟩) ≠ ⟨0x41, 0, 0x42, 0⟩ := by
  have hcolons : ¬ IsOctets ⟨0x3A, 0x3A, 0x31, 0⟩ := isPrintable_iff.mp (by decide)
  have hcut : ¬ IsOctets ⟨0x41, 0, 0x42, 0⟩ := isPrintable_iff.mp (by decide)
  have hpadded : IsPadded ⟨0x3A, 0x3A, 0x31, 0⟩ := by decide
  have htext : text ⟨0x3A, 0x3A, 0x31, 0⟩ = "::1" := by decide
  obtain ⟨hform, hapart, -⟩ := ofDisplay_inverts_text
  refine ⟨hcolons, hpadded, htext, by decide +kernel, ?_, ?_, ?_⟩
  · rw [← htext]
    exact (hform _).2.2.mpr (.inr hpadded)
  · exact (hform _).2.2.mpr (.inl (.inl (by decide)))
  · intro hback
    exact (hform _).2.2.mp hback |>.elim hcut (by decide)

end NetworkTime.ReferenceId
