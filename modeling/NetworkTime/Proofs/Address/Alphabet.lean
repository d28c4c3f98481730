import NetworkTime.Proofs.Address.Grammar

/-! The characters of address texts: digits, points and colons. -/

namespace NetworkTime.Address
open Text
variable {c : Char} {cs : List Char} {gs : List Nat} {dotted : Bool} {a : Address}

/-- A digit of some number in an address, or a mark between two of them. -/
def IsWritten (c : Char) : Prop := (digitValue 16 c).isSome = true ∨ c = '.' ∨ c = ':'

theorem isWritten_of_mem_printOctets (bits : BitVec 32) (h : c ∈ printOctets (octets bits)) :
    IsWritten c := by
  obtain ⟨o₁, o₂, o₃, o₄, hos⟩ := List.length_eq_four.mp (length_octets bits)
  have hdigit {o : Nat} (hc : c ∈ decimal o) : (digitValue 16 c).isSome = true :=
    isSome_digitValue_sixteen (isSome_digitValue_of_mem (by decide) (by decide) hc)
  rw [hos, ← List.append_nil (printOctets _), printOctets_append] at h
  simp only [List.mem_append, List.mem_cons, List.not_mem_nil, or_false] at h
  rcases h with h | h | h | h | h | h | h
  all_goals first | exact Or.inl (hdigit h) | exact Or.inr (Or.inl h)

theorem WritesGroups.isWritten (h : WritesGroups cs gs dotted) : ∀ c ∈ cs, IsWritten c := by
  induction h with
  | none => simp
  | last h => exact fun c hc => Or.inl (h.isNumeral.isSome c hc)
  | inner bits => exact fun c => isWritten_of_mem_printOctets bits
  | next h hrest hne ih =>
    intro c hc
    rcases List.mem_append.mp hc with hc | hc
    · exact Or.inl (h.isNumeral.isSome c hc)
    · rcases List.mem_cons.mp hc with hc | hc
      · exact Or.inr (Or.inr hc)
      · exact ih c hc

theorem WritesV6.isWritten (h : WritesV6 cs gs) : ∀ c ∈ cs, IsWritten c := by
  cases h with
  | full h => exact h.isWritten
  | gap zeros hpre hpost hzeros hlen =>
    intro c hc
    simp only [List.mem_append, List.mem_cons] at hc
    rcases hc with hc | hc | hc | hc
    · exact hpre.isWritten c hc
    · exact Or.inr (Or.inr hc)
    · exact Or.inr (Or.inr hc)
    · exact hpost.isWritten c hc

/-- An address text is made of characters of addresses, and nothing else. -/
theorem Writes.isWritten (h : Writes cs a) : ∀ c ∈ cs, IsWritten c := by
  cases h with
  | v4 bits => exact fun c => isWritten_of_mem_printOctets bits
  | v6 h => exact h.isWritten

theorem Writes.slash_notMem (h : Writes cs a) : '/' ∉ cs := by
  intro hmem
  rcases h.isWritten _ hmem with hdigit | hpoint | hcolon
  · exact absurd hdigit (by decide)
  · exact absurd hpoint (by decide)
  · exact absurd hcolon (by decide)

theorem Writes.isBlank_eq_false (h : Writes cs a) : ∀ c ∈ cs, isBlank c = false := by
  intro c hc
  rcases h.isWritten c hc with hdigit | rfl | rfl
  · exact isBlank_of_digitValue hdigit
  · decide
  · decide

end NetworkTime.Address
