import NetworkTime.Proofs.Address.Groups

/-! Which texts write an address. An address is read from all of them, whatever follows it that does
not belong to it, and from no others. -/

namespace NetworkTime.Address
open Text
variable {cs rest : List Char} {gs : List Nat} {a : Address} {bits : BitVec 128}

/-- Eight groups, or a double colon for one or more groups that are zero. -/
inductive WritesV6 : List Char → List Nat → Prop
  | full {cs : List Char} {gs : List Nat} {dotted : Bool} (h : WritesGroups cs gs dotted)
      (hlen : gs.length = 8) : WritesV6 cs gs
  | gap {pre post : List Char} {gs gs' : List Nat} {dotted : Bool} (zeros : Nat)
      (hpre : WritesGroups pre gs false) (hpost : WritesGroups post gs' dotted)
      (hzeros : 0 < zeros) (hlen : gs.length + zeros + gs'.length = 8) :
      WritesV6 (pre ++ ':' :: ':' :: post) (gs ++ List.replicate zeros 0 ++ gs')

/-- The texts of an address. An IPv4 address has one. -/
inductive Writes : List Char → Address → Prop
  | v4 (bits : BitVec 32) : Writes (printOctets (octets bits)) (.v4 bits)
  | v6 {cs : List Char} {gs : List Nat} (h : WritesV6 cs gs) : Writes cs (.v6 (ofGroups gs))

/-- What ends an address ends its last group and all of them. -/
structure EndsAddress (rest : List Char) : Prop where
  group : EndsGroup rest
  noColon : rest.head? ≠ some ':'

theorem EndsAddress.run (h : EndsAddress rest) : EndsRun rest := by
  refine ⟨h.group, ?_⟩
  rintro cs rfl
  exact absurd rfl h.noColon

theorem endsAddress_nil : EndsAddress [] := ⟨by simp [EndsGroup], by simp⟩

theorem WritesV6.readV6_append (h : WritesV6 cs gs) (hrest : EndsAddress rest) :
    readV6 (cs ++ rest) = some (ofGroups gs, rest) := by
  cases h with
  | full h hlen =>
    rw [readV6, h.readGroups_append (Nat.le_of_eq hlen) hrest.run]
    exact if_pos hlen
  | @gap pre post gs gs' dotted zeros hpre hpost hzeros hlen =>
    have hhead : readGroups true 8 (pre ++ ':' :: ':' :: (post ++ rest)) = _ :=
      hpre.readGroups_append (by omega) (.cons_colons (post ++ rest))
    have htail : readGroups true (7 - gs.length) (post ++ rest) = _ :=
      hpost.readGroups_append (by omega) hrest.run
    -- The gap has a place of its own, so that seven are left for the groups around it.
    have hgap : 8 - gs.length - gs'.length = zeros := by omega
    have hshort : gs.length ≠ 8 := by omega
    rw [List.append_assoc, List.cons_append, List.cons_append, readV6, hhead]
    simp [hshort, readChar, htail, hgap]

theorem exists_writesV6_of_readV6 (h : readV6 cs = some (bits, rest)) :
    ∃ ds gs, cs = ds ++ rest ∧ WritesV6 ds gs ∧ bits = ofGroups gs := by
  obtain ⟨pre, hcs, hpre, hlen⟩ := writesGroups_readGroups 8 cs
  unfold readV6 at h
  dsimp only at h
  generalize readGroups true 8 cs = head at h hcs hpre hlen
  split at h
  · rename_i hfull
    cases h
    exact ⟨pre, _, hcs, .full hpre hfull, rfl⟩
  · rename_i hshort
    split at h
    · cases h
    · rename_i hplain
      simp only [Option.bind_eq_bind, Option.bind_eq_some_iff, Option.pure_def, Option.some.injEq,
        Prod.mk.injEq, readChar_eq_some_iff] at h
      obtain ⟨cs', ⟨_, hcolon, rfl⟩, rfl, rfl⟩ := h
      obtain ⟨post, hcs', hpost, hlen'⟩ := writesGroups_readGroups (7 - head.groups.length) cs'
      rw [Bool.not_eq_true] at hplain
      rw [hplain] at hpre
      refine ⟨_, _, ?_, .gap _ hpre hpost ?_ ?_, rfl⟩
      · rw [List.append_assoc, List.cons_append, List.cons_append, ← hcs', ← hcolon, hcs]
      · omega
      · omega

/-- An IPv6 address starts with a group or a colon, and never with octets. -/
theorem WritesV6.readOctets_append (h : WritesV6 cs gs) (rest : List Char) :
    readOctets (cs ++ rest) = none := by
  have hgroup {ds : List Char} {g : Nat} (hds : WritesGroup ds g) (tail : List Char) :
      readOctets (ds ++ ':' :: tail) = none :=
    (EndsGroup.cons_colon tail).readOctets_append hds.isNumeral.isSome
  cases h with
  | full h hlen =>
    cases h with
    | none => cases hlen
    | last => cases hlen
    | inner bits => rw [length_groupsOfOctets] at hlen; cases hlen
    | next h hmore hne =>
      rw [List.append_assoc, List.cons_append]
      exact hgroup h _
  | gap zeros hpre hpost hzeros hlen =>
    cases hpre with
    | none => exact (EndsGroup.cons_colon _).readOctets_eq_none
    | last h =>
      rw [List.append_assoc, List.cons_append]
      exact hgroup h _
    | next h hmore hne =>
      rw [List.append_assoc, List.append_assoc, List.cons_append]
      exact hgroup h _

/-- An address is read from its texts, and from no others. -/
theorem parse?_eq_some_iff : parse? cs = some a ↔ Writes cs a := by
  constructor
  · intro h
    unfold parse? at h
    cases hread : read cs with
    | none =>
      rw [hread] at h
      cases h
    | some r =>
      obtain ⟨b, rest⟩ := r
      rw [hread] at h
      cases rest with
      | cons c rest => cases h
      | nil =>
        cases h
        rw [read] at hread
        split at hread
        · rename_i bits rest hv4
          cases hread
          obtain ⟨rfl, -⟩ := readV4_eq_some_iff.mp hv4
          rw [List.append_nil]
          exact .v4 bits
        · obtain ⟨⟨bits, rest⟩, hv6, heq⟩ := Option.map_eq_some_iff.mp hread
          cases heq
          obtain ⟨ds, gs, rfl, hwrites, rfl⟩ := exists_writesV6_of_readV6 hv6
          rw [List.append_nil]
          exact .v6 hwrites
  · intro h
    cases h with
    | v4 bits =>
      have hv4 : readV4 (printOctets (octets bits)) = some (bits, []) :=
        readV4_eq_some_iff.mpr ⟨(List.append_nil _).symm, by simp [EndsNumber]⟩
      rw [parse?, read, hv4]
      rfl
    | v6 h =>
      have hread := h.readV6_append endsAddress_nil
      have hoctets := h.readOctets_append []
      rw [List.append_nil] at hread hoctets
      have hv4 : readV4 cs = none := by rw [readV4, hoctets]; rfl
      rw [parse?, read, hv4, hread]
      rfl

end NetworkTime.Address
