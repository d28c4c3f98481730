import NetworkTime.Address
import NetworkTime.Proofs.Positional

/-! Addresses, the numbers that they are written with, and the IPv4 addresses among the IPv6 ones. -/

namespace NetworkTime.Address
variable {a b : Address} {bits : BitVec 128} {inner : BitVec 32}

theorem ofOctets_octets (bits : BitVec 32) : ofOctets (octets bits) = bits := by
  rw [ofOctets, octets, Positional.value_digits]
  exact BitVec.eq_of_toNat_eq (by simpa using bits.isLt)

theorem ofGroups_groups (bits : BitVec 128) : ofGroups (groups bits) = bits := by
  rw [ofGroups, groups, Positional.value_digits]
  exact BitVec.eq_of_toNat_eq (by simpa using bits.isLt)

/-- The IPv6 address `::ffff:a.b.c.d` of an IPv4 address. -/
def mapped (inner : BitVec 32) : Address := v6 (0xffff#96 ++ inner)

def IsMapped (a : Address) : Prop := ∃ inner, a = mapped inner

theorem toNat_mappedBits (inner : BitVec 32) :
    (0xffff#96 ++ inner).toNat = 0xffff * 2 ^ 32 + inner.toNat := by
  rw [BitVec.toNat_append, ← Nat.shiftLeft_add_eq_or_of_lt inner.isLt, Nat.shiftLeft_eq]
  rfl

theorem mapped?_eq_some_iff : mapped? bits = some inner ↔ bits = 0xffff#96 ++ inner := by
  have hinner := inner.isLt
  have hbits := bits.isLt
  have hhigh : bits >>> 32 = 0xffff#128 ↔ bits.toNat / 2 ^ 32 = 0xffff := by
    rw [← BitVec.toNat_inj, BitVec.toNat_ushiftRight, Nat.shiftRight_eq_div_pow]
    rfl
  have hlow : bits.setWidth 32 = inner ↔ bits.toNat % 2 ^ 32 = inner.toNat := by
    rw [← BitVec.toNat_inj, BitVec.toNat_setWidth]
  rw [← BitVec.toNat_inj, toNat_mappedBits, mapped?]
  split
  · rename_i h
    rw [Option.some_inj, hlow]
    have := hhigh.mp h
    omega
  · rename_i h
    have := mt hhigh.mpr h
    constructor
    · intro hnone
      cases hnone
    · omega

/-- Two addresses of one host, which has an IPv4-mapped address beside its IPv4 address. -/
def SameHost (a b : Address) : Prop := a.unmapped = b.unmapped

instance : Decidable (a.SameHost b) := inferInstanceAs (Decidable (_ = _))

@[simp] theorem unmapped_mapped (inner : BitVec 32) : (mapped inner).unmapped = v4 inner := by
  simp [mapped, unmapped, mapped?_eq_some_iff.mpr rfl]

theorem unmapped_of_not_isMapped (h : ¬ a.IsMapped) : a.unmapped = a := by
  cases a with
  | v4 bits => rfl
  | v6 bits =>
    cases hinner : mapped? bits with
    | none => simp [unmapped, hinner]
    | some inner =>
      rw [mapped?_eq_some_iff] at hinner
      exact absurd ⟨inner, congrArg v6 hinner⟩ h

theorem not_isMapped_unmapped (a : Address) : ¬ a.unmapped.IsMapped := by
  rintro ⟨inner, heq⟩
  by_cases h : a.IsMapped
  · obtain ⟨inner', rfl⟩ := h
    rw [unmapped_mapped] at heq
    cases heq
  · rw [unmapped_of_not_isMapped h] at heq
    exact h ⟨inner, heq⟩

end NetworkTime.Address
