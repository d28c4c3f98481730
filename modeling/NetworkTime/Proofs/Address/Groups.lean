import NetworkTime.Proofs.Address.Octets

/-! Which texts write a run of groups. The reader takes as many groups as it can, and this is always
enough: a run followed by what does not belong to it is read to its end. -/

namespace NetworkTime.Address
open Text
variable {room g : Nat} {dotted : Bool} {cs ds mid rest : List Char} {gs : List Nat}

/-- Hexadecimal digits of either case, four at most. -/
structure WritesGroup (cs : List Char) (g : Nat) : Prop where
  isNumeral : IsNumeral 16 cs g
  length_le : cs.length ≤ 4

/-- Groups with colons between them. The last two may be written as an IPv4 address, with points. -/
inductive WritesGroups : List Char → List Nat → (dotted : Bool) → Prop
  | none : WritesGroups [] [] false
  | last {cs : List Char} {g : Nat} (h : WritesGroup cs g) : WritesGroups cs [g] false
  | inner (bits : BitVec 32) :
      WritesGroups (printOctets (octets bits)) (groupsOfOctets (octets bits)) true
  | next {cs rest : List Char} {g : Nat} {gs : List Nat} {dotted : Bool} (h : WritesGroup cs g)
      (hrest : WritesGroups rest gs dotted) (hne : gs ≠ []) :
      WritesGroups (cs ++ ':' :: rest) (g :: gs) dotted

/-- A text that no group goes on into, and no octet. -/
def EndsGroup (rest : List Char) : Prop := ∀ c ∈ rest.head?, digitValue 16 c = none ∧ c ≠ '.'

/-- No group starts where the text is over, or where there is a second colon. -/
def EndsRun (rest : List Char) : Prop :=
  EndsGroup rest ∧ ∀ cs, rest = ':' :: cs → EndsGroup cs

theorem EndsGroup.endsNumber (h : EndsGroup rest) : EndsNumber 16 rest := fun c hc => (h c hc).1

theorem EndsGroup.endsOctet (h : EndsGroup rest) : EndsNumber 10 rest := fun c hc =>
  digitValue_sixteen_eq_none (h c hc).1

theorem EndsGroup.cons_colon (cs : List Char) : EndsGroup (':' :: cs) := by
  rintro c ⟨⟩
  decide

theorem EndsRun.cons_colons (cs : List Char) : EndsRun (':' :: ':' :: cs) := by
  refine ⟨.cons_colon _, ?_⟩
  rintro cs heq
  cases heq
  exact .cons_colon _

/-- There are no octets where the digits at the front have no point after them. -/
theorem EndsGroup.readOctets_append (h : EndsGroup rest)
    (hds : ∀ c ∈ ds, (digitValue 16 c).isSome = true) : readOctets (ds ++ rest) = none := by
  rw [Option.eq_none_iff_forall_ne_some]
  rintro ⟨os, rest'⟩ hread
  obtain ⟨heq, hlen, -⟩ := readOctets_eq_some_iff.mp hread
  obtain ⟨a, b, c, d, rfl⟩ := List.length_eq_four.mp hlen
  rw [printOctets_append] at heq
  have hpoint (cs : List Char) : EndsNumber 16 ('.' :: cs) := endsNumber_cons (by decide) cs
  have hdecimal : ∀ c ∈ decimal a, (digitValue 16 c).isSome = true := fun c hc =>
    isSome_digitValue_sixteen (isSome_digitValue_of_mem (by decide) (by decide) hc)
  -- The digits at the front are those of the first octet, so its point comes next.
  have hfront := congrArg (List.takeWhile fun c => (digitValue 16 c).isSome) heq
  rw [takeWhile_append hds h.endsNumber, takeWhile_append hdecimal (hpoint _)] at hfront
  rw [hfront, List.append_cancel_left_eq] at heq
  exact (h '.' (by rw [heq]; rfl)).2 rfl

theorem EndsGroup.readOctets_eq_none (h : EndsGroup rest) : readOctets rest = none := by
  have hnone : readOctets ([] ++ rest) = none := h.readOctets_append (by simp)
  exact hnone

theorem WritesGroup.readNumber_append (h : WritesGroup cs g) (hrest : EndsNumber 16 rest) :
    readNumber 16 4 0xffff true (cs ++ rest) = some (g, rest) := by
  have hlt : g < 16 ^ 4 :=
    Nat.lt_of_lt_of_le h.isNumeral.lt_pow (Nat.pow_le_pow_right (by decide) h.length_le)
  exact readNumber_eq_some_iff.mpr ⟨cs, rfl, hrest, h.isNumeral, h.length_le, by omega, .inl rfl⟩

theorem writesGroup_of_readNumber (h : readNumber 16 4 0xffff true cs = some (g, rest)) :
    ∃ ds, cs = ds ++ rest ∧ WritesGroup ds g := by
  obtain ⟨ds, rfl, -, hds, hlen, -⟩ := readNumber_eq_some_iff.mp h
  exact ⟨ds, rfl, hds, hlen⟩

theorem length_groupsOfOctets (bits : BitVec 32) : (groupsOfOctets (octets bits)).length = 2 := by
  obtain ⟨a, b, c, d, hos⟩ := List.length_eq_four.mp (length_octets bits)
  rw [hos]
  rfl

theorem readGroups_succ {first : Bool} (hsep : readSeparator first cs = some mid) :
    readGroups first (room + 1) cs =
      match if room = 0 then none else readOctets mid with
      | some (os, rest) => ⟨groupsOfOctets os, true, rest⟩
      | none =>
        match readNumber 16 4 0xffff true mid with
        | none => ⟨[], false, cs⟩
        | some (g, rest) =>
          let more := readGroups false room rest
          { more with groups := g :: more.groups } := by
  rw [readGroups, hsep]
  rfl

theorem readOctets_eq_some_octets {os : List Nat} (h : readOctets cs = some (os, rest)) :
    ∃ bits, os = octets bits ∧ cs = printOctets os ++ rest := by
  obtain ⟨rfl, hlen, hos, -⟩ := readOctets_eq_some_iff.mp h
  exact ⟨ofOctets os, (octets_ofOctets hlen hos).symm, rfl⟩

/-- A colon belongs to the group after it. -/
theorem readGroups_colon (room : Nat) (cs : List Char) : readGroups false room (':' :: cs) =
    if (readGroups true room cs).groups = [] then ⟨[], false, ':' :: cs⟩
    else readGroups true room cs := by
  cases room with
  | zero => rfl
  | succ room =>
    have hcolon : readSeparator false (':' :: cs) = some cs := rfl
    have hfirst : readSeparator true cs = some cs := rfl
    rw [readGroups_succ hcolon, readGroups_succ hfirst]
    cases hoctets : if room = 0 then none else readOctets cs with
    | some r =>
      obtain ⟨os, rest⟩ := r
      obtain ⟨-, hoctets⟩ := Option.ite_none_left_eq_some.mp hoctets
      obtain ⟨bits, rfl, -⟩ := readOctets_eq_some_octets hoctets
      have hne : groupsOfOctets (octets bits) ≠ [] :=
        List.ne_nil_of_length_pos (by rw [length_groupsOfOctets]; decide)
      simp [hne]
    | none =>
      cases readNumber 16 4 0xffff true cs with
      | none => rfl
      | some r => rfl

theorem readGroups_of_no_colon (h : cs.head? ≠ some ':') :
    readGroups false room cs = ⟨[], false, cs⟩ := by
  have hsep : readSeparator false cs = none := by
    rw [Option.eq_none_iff_forall_ne_some]
    intro mid hmid
    rw [readChar_eq_some_iff.mp hmid] at h
    exact h rfl
  cases room with
  | zero => rfl
  | succ room =>
    rw [readGroups, hsep]
    simp

theorem readGroups_cases (room : Nat) (cs : List Char) :
    readGroups false room cs = ⟨[], false, cs⟩ ∨ ∃ mid, cs = ':' :: mid ∧
      (readGroups true room mid).groups ≠ [] ∧
        readGroups false room cs = readGroups true room mid := by
  by_cases hcolon : cs.head? = some ':'
  · obtain ⟨mid, rfl⟩ := List.head?_eq_some_iff.mp hcolon
    rw [readGroups_colon]
    by_cases hne : (readGroups true room mid).groups = []
    · exact Or.inl (if_pos hne)
    · exact Or.inr ⟨mid, rfl, hne, if_neg hne⟩
  · exact Or.inl (readGroups_of_no_colon hcolon)

theorem EndsGroup.readGroups_eq (h : EndsGroup rest) (room : Nat) :
    readGroups true room rest = ⟨[], false, rest⟩ := by
  cases room with
  | zero => rfl
  | succ room =>
    rw [readGroups_succ rfl, h.readOctets_eq_none, ite_self, readNumber_eq_none h.endsNumber]

theorem EndsRun.readGroups_eq (h : EndsRun rest) (room : Nat) :
    readGroups false room rest = ⟨[], false, rest⟩ := by
  by_cases hcolon : rest.head? = some ':'
  · obtain ⟨cs, rfl⟩ := List.head?_eq_some_iff.mp hcolon
    rw [readGroups_colon, (h.2 cs rfl).readGroups_eq, if_pos rfl]
  · exact readGroups_of_no_colon hcolon

/-- A group is read, whatever is read after it. -/
theorem WritesGroup.readGroups_append (h : WritesGroup cs g) (hrest : EndsGroup rest) :
    readGroups true (room + 1) (cs ++ rest) =
      { readGroups false room rest with groups := g :: (readGroups false room rest).groups } := by
  rw [readGroups_succ rfl, hrest.readOctets_append h.isNumeral.isSome, ite_self,
    h.readNumber_append hrest.endsNumber]

/-- All groups of a text are read if there is room for them. -/
theorem WritesGroups.readGroups_append (h : WritesGroups cs gs dotted) (hlen : gs.length ≤ room)
    (hrest : EndsRun rest) : readGroups true room (cs ++ rest) = ⟨gs, dotted, rest⟩ := by
  induction h generalizing room with
  | none => exact hrest.1.readGroups_eq room
  | last h =>
    obtain ⟨room, rfl⟩ := Nat.exists_eq_add_of_le' hlen
    rw [List.length_singleton, h.readGroups_append hrest.1, hrest.readGroups_eq]
  | inner bits =>
    rw [length_groupsOfOctets] at hlen
    obtain ⟨room, rfl⟩ := Nat.exists_eq_add_of_le' hlen
    have hoctets : readOctets (printOctets (octets bits) ++ rest) = some (octets bits, rest) :=
      readOctets_eq_some_iff.mpr ⟨rfl, length_octets bits, octet_le bits, hrest.1.endsOctet⟩
    rw [readGroups_succ rfl, if_neg (Nat.succ_ne_zero room), hoctets]
  | @next cs more g gs dotted h hmore hne ih =>
    obtain ⟨room, rfl⟩ := Nat.exists_eq_add_of_le' (Nat.le_trans (Nat.le_add_left 1 _) hlen)
    have hrun := ih (Nat.le_of_succ_le_succ hlen)
    rw [List.append_assoc, List.cons_append, h.readGroups_append (.cons_colon _),
      readGroups_colon, hrun, if_neg hne]

/-- What is taken of a text writes the groups that are found. -/
theorem writesGroups_readGroups (room : Nat) (cs : List Char) :
    ∃ ds, cs = ds ++ (readGroups true room cs).rest ∧
      WritesGroups ds (readGroups true room cs).groups (readGroups true room cs).octets ∧
      (readGroups true room cs).groups.length ≤ room := by
  induction room generalizing cs with
  | zero => exact ⟨[], rfl, .none, Nat.le_refl 0⟩
  | succ room ih =>
    rw [readGroups_succ rfl]
    cases hoctets : if room = 0 then none else readOctets cs with
    | some r =>
      obtain ⟨os, rest⟩ := r
      obtain ⟨hroom, hoctets⟩ := Option.ite_none_left_eq_some.mp hoctets
      obtain ⟨bits, rfl, hcs⟩ := readOctets_eq_some_octets hoctets
      refine ⟨_, hcs, .inner bits, ?_⟩
      rw [length_groupsOfOctets]
      omega
    | none =>
      cases hnumber : readNumber 16 4 0xffff true cs with
      | none => exact ⟨[], rfl, .none, Nat.zero_le _⟩
      | some r =>
        obtain ⟨g, rest⟩ := r
        obtain ⟨ds, rfl, hds⟩ := writesGroup_of_readNumber hnumber
        dsimp only
        -- A colon with no group after it is left in the text, and the run ends before it.
        rcases readGroups_cases room rest with heq | ⟨mid, rfl, hne, heq⟩
        · rw [heq]
          exact ⟨ds, rfl, .last hds, Nat.succ_le_succ (Nat.zero_le room)⟩
        · obtain ⟨ds', hmid, hwrites, hlen⟩ := ih mid
          rw [heq]
          refine ⟨ds ++ ':' :: ds', ?_, .next hds hwrites hne, Nat.succ_le_succ hlen⟩
          rw [List.append_assoc, List.cons_append, ← hmid]

end NetworkTime.Address
