import NetworkTime.Proofs.Access
import NetworkTime.Proofs.Address.Alphabet
import NetworkTime.Proofs.Text.Blank

/-! The network of one address, and the clients that it holds. -/

namespace NetworkTime.Network
variable {a b : Address} {entry : List Char}

theorem leading_width {width : Nat} (w : BitVec width) : leading width w = w := by
  rw [leading, Nat.sub_self, BitVec.shiftLeft_zero, BitVec.and_allOnes]

/-- A client counts as what it is without its mapping, and the address of the network as it is. -/
theorem contains_host_iff_unmapped : (host a).contains b = true ↔ b.unmapped = a := by
  have hlength : (host a).length = a.width := Nat.min_self _
  have haddress : (host a).address = a := rfl
  have hwidth : a.width ≠ 0 := by cases a <;> simp [Address.width]
  rw [contains, hlength, haddress, if_neg hwidth]
  cases a with
  | v4 bits =>
    cases b.unmapped with
    | v4 bits' =>
      change (leading 32 bits == leading 32 bits') = true ↔ _
      rw [leading_width, leading_width, beq_iff_eq, Address.v4.injEq, eq_comm]
    | v6 bits' => simp
  | v6 bits =>
    cases b.unmapped with
    | v4 bits' => simp
    | v6 bits' =>
      change (leading 128 bits == leading 128 bits') = true ↔ _
      rw [leading_width, leading_width, beq_iff_eq, Address.v6.injEq, eq_comm]

/-- No client has a mapped address left, so the network of one is empty. -/
theorem contains_host_iff : (host a).contains b = true ↔ ¬ a.IsMapped ∧ a.SameHost b := by
  rw [contains_host_iff_unmapped]
  constructor
  · rintro rfl
    have hplain := Address.not_isMapped_unmapped b
    exact ⟨hplain, Address.unmapped_of_not_isMapped hplain⟩
  · rintro ⟨hplain, hsame⟩
    rw [← hsame, Address.unmapped_of_not_isMapped hplain]

theorem denies_host_iff {allow : Option (List Network)} {before after : List Network} :
    (AccessControl.mk allow (some (before ++ host a :: after))).Denies b ↔
      (host a).contains b = true ∨ ∃ net ∈ before ++ after, net.contains b = true := by
  have hinsert : (AccessControl.mk allow (some (before ++ host a :: after))).Denies b ↔
      (host a).contains b = true ∨ (AccessControl.mk allow (some (before ++ after))).Denies b :=
    AccessControl.denies_insert_iff rfl
  rw [hinsert, AccessControl.denies_iff]
  rfl

/-- An address text alone is an entry for the network of the address. -/
theorem parse_of_address (h : Address.parse? (Text.trim entry) = some a) :
    parse entry = .ok (host a) := by
  have hslash : '/' ∉ Text.trim entry := (Address.parse?_eq_some_iff.mp h).slash_notMem
  rw [parse, Text.splitOnce_eq_none hslash]
  simp [h]

/-- The network of an address holds just the clients at its host, unless it is an IPv4-mapped address:
then it holds nobody. So an entry with the text of an address, wherever it stands among those that are
not served, turns away the clients at that host if the address is not a mapped one, and otherwise
turns nobody away. -/
theorem host_holds_its_host (a : Address) :
    ((∀ b, (host a).contains b = true ↔ a.SameHost b) ↔ ¬ a.IsMapped) ∧
    (a.IsMapped → ∀ b, (host a).contains b = false) ∧
    ∀ entry, Address.parse? (Text.trim entry) = some a →
      Network.parse entry = .ok (host a) ∧
      ∀ allow before after b,
        (AccessControl.mk allow (some (before ++ host a :: after))).check b = .deny ↔
          (¬ a.IsMapped ∧ a.SameHost b) ∨ ∃ net ∈ before ++ after, net.contains b = true := by
  refine ⟨⟨?_, ?_⟩, ?_, ?_⟩
  · intro hholds
    exact (contains_host_iff.mp ((hholds a).mpr rfl)).1
  · intro hplain b
    rw [contains_host_iff, and_iff_right hplain]
  · intro hmapped b
    rw [← Bool.not_eq_true, contains_host_iff]
    exact fun hholds => hholds.1 hmapped
  · intro entry h
    refine ⟨parse_of_address h, ?_⟩
    intro allow before after b
    rw [(AccessControl.check_iff _ b).1, denies_host_iff, contains_host_iff]

/-- An entry for `::ffff:192.0.2.1` does not turn away the client at that very address. -/
theorem host_mapped_empty :
    let a : Address := .mapped 0xC0000201#32
    Network.parse "::ffff:192.0.2.1".toList = .ok (host a) ∧
    a.SameHost a ∧ (host a).contains a = false ∧ (host a).contains a.unmapped = false ∧
    (AccessControl.mk none (some [host a])).check a = .allow := by
  intro a
  exact ⟨by decide +kernel, rfl, by decide, by decide, by decide⟩

end NetworkTime.Network
