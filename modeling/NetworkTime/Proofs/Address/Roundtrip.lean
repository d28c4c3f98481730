import NetworkTime.Proofs.Address.Grammar

/-! Addresses and endpoints are read from their own text, whatever follows it that does not belong
to it. -/

namespace NetworkTime.Address
open Text
variable {g : Nat} {rest : List Char} {gs : List Nat}

theorem writesGroup_hexadecimal (hg : g < 65536) : WritesGroup (hexadecimal g) g :=
  ⟨isNumeral_toDigits (by decide) (by decide) g,
    (Nat.length_toDigits_le_iff (by decide) (by decide)).mpr hg⟩

theorem writesGroups_printGroups (hgs : ∀ g ∈ gs, g < 65536) :
    WritesGroups (printGroups gs) gs false := by
  induction gs with
  | nil => exact .none
  | cons g gs ih =>
    obtain ⟨hg, hgs⟩ := List.forall_mem_cons.mp hgs
    have hgroup := writesGroup_hexadecimal hg
    cases gs with
    | nil =>
      have hone : printGroups [g] = hexadecimal g := by simp [printGroups]
      rw [hone]
      exact .last hgroup
    | cons g' gs =>
      have hcons :
          printGroups (g :: g' :: gs) = hexadecimal g ++ ':' :: printGroups (g' :: gs) := by
        simp [printGroups, List.intercalate]
      rw [hcons]
      exact .next hgroup (ih hgs) (List.cons_ne_nil g' gs)

theorem zeros_spec (gs : List Nat) : ∃ post, gs = List.replicate (zeros gs) 0 ++ post := by
  induction gs with
  | nil => exact ⟨[], rfl⟩
  | cons g gs ih =>
    cases g with
    | zero =>
      obtain ⟨post, hpost⟩ := ih
      exact ⟨post, by rw [zeros, List.replicate_succ, List.cons_append, ← hpost]⟩
    | succ g => exact ⟨(g + 1) :: gs, rfl⟩

/-- Where the longest run of zeros is said to be there are zeros. -/
theorem longestZeros_spec {start length : Nat} (h : longestZeros gs = (start, length)) :
    ∃ pre post, gs = pre ++ List.replicate length 0 ++ post ∧ pre.length = start := by
  induction gs generalizing start length with
  | nil =>
    cases h
    exact ⟨[], [], rfl, rfl⟩
  | cons g gs ih =>
    rw [longestZeros] at h
    dsimp only at h
    split at h
    · cases h
      obtain ⟨pre, post, hgs, hpre⟩ := ih rfl
      exact ⟨g :: pre, post, by rw [List.cons_append, List.cons_append, ← hgs], by simp [hpre]⟩
    · cases h
      obtain ⟨post, hpost⟩ := zeros_spec (g :: gs)
      exact ⟨[], post, hpost, rfl⟩

theorem groups_lt (bits : BitVec 128) : ∀ g ∈ groups bits, g < 65536 := fun _ hg =>
  Positional.lt_of_mem_digits (by decide) hg

/-- The groups of a mapped address, the last two of which its octets stand for. -/
theorem ofGroups_mapped (inner : BitVec 32) :
    ofGroups (List.replicate 5 0 ++ 0xffff :: groupsOfOctets (octets inner)) =
      0xffff#96 ++ inner := by
  have hvalue : Positional.value 256 (octets inner) = inner.toNat := by
    rw [octets, Positional.value_digits]
    exact Nat.mod_eq_of_lt inner.isLt
  obtain ⟨a, b, c, d, hos⟩ := List.length_eq_four.mp (length_octets inner)
  have hmapped : Positional.value 65536
      (List.replicate 5 0 ++ 0xffff :: groupsOfOctets (octets inner)) =
        0xffff * 2 ^ 32 + inner.toNat := by
    rw [← hvalue, hos]
    simp [Positional.value, List.replicate, groupsOfOctets]
    omega
  have hlt := inner.isLt
  apply BitVec.eq_of_toNat_eq
  rw [ofGroups, hmapped, BitVec.toNat_ofNat, toNat_mappedBits]
  omega

theorem writesV6_printV6 (bits : BitVec 128) :
    ∃ gs, WritesV6 (printV6 bits) gs ∧ ofGroups gs = bits := by
  cases hinner : mapped? bits with
  | some inner =>
    have hgroup : WritesGroup ['f', 'f', 'f', 'f'] 0xffff :=
      writesGroup_hexadecimal (g := 0xffff) (by decide)
    have htwo := length_groupsOfOctets inner
    have hne : groupsOfOctets (octets inner) ≠ [] := List.ne_nil_of_length_pos (by omega)
    refine ⟨_, ?_, (ofGroups_mapped inner).trans (mapped?_eq_some_iff.mp hinner).symm⟩
    simp only [printV6, hinner]
    exact .gap 5 .none (.next hgroup (.inner inner) hne) (by decide) (by simp [htwo])
  | none =>
    have hlen := length_groups bits
    have hlt := groups_lt bits
    refine ⟨groups bits, ?_, ofGroups_groups bits⟩
    simp only [printV6, hinner]
    cases hz : longestZeros (groups bits) with
    | mk start length =>
      obtain ⟨pre, post, hgs, rfl⟩ := longestZeros_spec hz
      dsimp only
      split
      · rename_i hlong
        rw [hgs] at hlen hlt
        have htake : (groups bits).take pre.length = pre := by
          rw [hgs, List.append_assoc, List.take_left]
        have hdrop : (groups bits).drop (pre.length + length) = post := by
          rw [hgs]
          exact List.drop_left' (by simp)
        have hpre (g : Nat) (hg : g ∈ pre) : g < 65536 := hlt g (by simp [hg])
        have hpost (g : Nat) (hg : g ∈ post) : g < 65536 := hlt g (by simp [hg])
        rw [htake, hdrop, hgs, List.append_assoc (printGroups pre)]
        exact .gap length (writesGroups_printGroups hpre) (writesGroups_printGroups hpost)
          (by omega) (by simpa [Nat.add_assoc] using hlen)
      · exact .full (writesGroups_printGroups hlt) hlen

/-- An IPv6 address is read from its text. -/
theorem readV6_printV6 (bits : BitVec 128) (h : EndsAddress rest) :
    readV6 (printV6 bits ++ rest) = some (bits, rest) := by
  obtain ⟨gs, hwrites, hbits⟩ := writesV6_printV6 bits
  rw [hwrites.readV6_append h, hbits]

/-- An address prints one of its texts. -/
theorem writes_print (a : Address) : Writes a.print a := by
  cases a with
  | v4 bits => exact .v4 bits
  | v6 bits =>
    obtain ⟨gs, hwrites, hbits⟩ := writesV6_printV6 bits
    have hv6 := Writes.v6 hwrites
    rw [hbits] at hv6
    exact hv6

end NetworkTime.Address

namespace NetworkTime.Endpoint
open Text Address

theorem readPort_decimal (port : UInt16) :
    readPort (':' :: decimal port.toNat) = some (port, []) := by
  have hlimit : port.toNat ≤ 0xffff := Nat.le_of_lt_succ port.toNat_lt
  have hread : readNumber 10 (decimal port.toNat).length 0xffff true (decimal port.toNat) =
      some (port.toNat, []) := by
    have hport := isNumeral_toDigits (by decide : 1 < 10) (by decide) port.toNat
    exact readNumber_eq_some_iff.mpr
      ⟨_, (List.append_nil _).symm, by simp [EndsNumber], hport, Nat.le_refl _, hlimit, .inl rfl⟩
  simp [readPort, readChar, hread]

theorem toList_text_v4 (bits : BitVec 32) (port : UInt16) :
    (text ⟨.v4 bits, port⟩).toList =
      printOctets (octets bits) ++ ':' :: decimal port.toNat := by
  have heq : text ⟨.v4 bits, port⟩ = Address.text (.v4 bits) ++ ":" ++ port.toNat.repr := rfl
  simp [heq, Address.text, print, decimal]

theorem toList_text_v6 (bits : BitVec 128) (port : UInt16) :
    (text ⟨.v6 bits, port⟩).toList =
      '[' :: (printV6 bits ++ ']' :: ':' :: decimal port.toNat) := by
  have heq : text ⟨.v6 bits, port⟩ =
      "[" ++ Address.text (.v6 bits) ++ "]:" ++ port.toNat.repr := rfl
  simp [heq, Address.text, print, decimal]

/-- An endpoint is read from its text. -/
theorem parse?_text (e : Endpoint) : parse? e.text.toList = some e := by
  obtain ⟨bits | bits, port⟩ := e
  · have haddress : Address.readV4 (printOctets (octets bits) ++ ':' :: decimal port.toNat) =
        some (bits, ':' :: decimal port.toNat) :=
      readV4_eq_some_iff.mpr ⟨rfl, endsNumber_cons (by decide) _⟩
    rw [toList_text_v4, parse?]
    simp [readV4, haddress, readPort_decimal, whole]
  · have hends : EndsAddress (']' :: ':' :: decimal port.toNat) := by
      constructor
      · rintro c ⟨⟩
        decide
      · simp
    have hbracket : EndsGroup ('[' :: (printV6 bits ++ ']' :: ':' :: decimal port.toNat)) := by
      rintro c ⟨⟩
      decide
    have haddress := readV6_printV6 bits hends
    have hv4 :
        Address.readV4 ('[' :: (printV6 bits ++ ']' :: ':' :: decimal port.toNat)) = none := by
      rw [Address.readV4, hbracket.readOctets_eq_none]
      rfl
    rw [toList_text_v6, parse?]
    simp [readV4, hv4, readV6, readChar, haddress, skipScope, readPort_decimal, whole]

end NetworkTime.Endpoint
