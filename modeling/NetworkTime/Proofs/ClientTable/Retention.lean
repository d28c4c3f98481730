import NetworkTime.Proofs.ClientTable.Run

/-! A client is remembered for a day, unless too many others come. -/

namespace NetworkTime.ClientTable
variable {t : ClientTable} {a : Address} {c : Client} {d : Call} {calls : List Call}
  {others : Finset Address}

/-- The entry of a client is in the table, and every other one is older or belongs to one of the
clients that came since. -/
structure Holds (t : ClientTable) (a : Address) (c : Client) (others : Finset Address) : Prop where
  wellFormed : t.WellFormed
  mem : (a, c) ∈ t.entries
  older_or_since : ∀ e ∈ t.entries, e.1 ≠ a → e.2.lastSeen < c.lastSeen ∨ e.1 ∈ others

/-- If an entry is the oldest of a full table, as many clients came since as the table holds. -/
theorem capacity_le_card (h : t.Holds a c others) (hfull : t.capacity ≤ t.size)
    (hnew : t.contains d.client = false)
    (hle : ∀ e ∈ t.entries, c.lastSeen ≤ e.2.lastSeen) :
    t.capacity ≤ (insert d.client others).card := by
  have hkeys : insert d.client (t.entries.map Prod.fst).toFinset ⊆
      insert a (insert d.client others) := by
    intro b hb
    rw [Finset.mem_insert, List.mem_toFinset, List.mem_map] at hb
    rw [Finset.mem_insert, Finset.mem_insert]
    rcases hb with rfl | ⟨e, he, rfl⟩
    · exact Or.inr (Or.inl rfl)
    · by_cases hea : e.1 = a
      · exact Or.inl hea
      · rcases h.older_or_since e he hea with hlt | hmem
        · exact absurd (hle e he) (Nat.not_le_of_lt hlt)
        · exact Or.inr (Or.inr hmem)
  have hmany := capacity_lt_card_insert h.wellFormed hfull hnew
  have hcard := Finset.card_le_card hkeys
  have hinsert := Finset.card_insert_le a (insert d.client others)
  omega

/-- A request of another client takes the entry of this one only if a day has passed or if there is
no room for all who came since. -/
theorem holds_next (h : t.Holds a c others) (hne : d.client ≠ a)
    (hday : d.moment - c.lastSeen < staleAfter)
    (hfew : (insert d.client others).card < t.capacity) :
    (t.next d).Holds a c (insert d.client others) where
  wellFormed := wellFormed_next h.wellFormed d
  mem := by
    refine (mem_judge h.wellFormed).mpr (Or.inr ⟨?_, hne.symm⟩)
    rcases roomFor_cases t d.client d.moment with ⟨-, heq⟩ | ⟨hnew, hfull, heq⟩
    · rw [heq]
      exact h.mem
    · rw [heq]
      rcases makeRoom_cases h.wellFormed hfull d.moment with ⟨-, heq⟩ | ⟨-, e, he, hle, heq⟩
      · rw [heq]
        exact mem_fresh.mpr ⟨h.mem, hday⟩
      · have hea : a ≠ e.1 := by
          rintro rfl
          have hec : (e.1, c) = e := h.wellFormed.unique h.mem he rfl
          have hc : e.2 = c := (congrArg Prod.snd hec).symm
          exact absurd (capacity_le_card h hfull hnew (hc ▸ hle)) (Nat.not_le_of_lt hfew)
        rw [heq]
        exact List.mem_filter.mpr ⟨h.mem, by simpa using hea⟩
  older_or_since := by
    intro e he hea
    rcases mem_next h.wellFormed he with ⟨heq, -⟩ | ⟨-, hmem⟩
    · exact Or.inr (Finset.mem_insert.mpr (Or.inl heq))
    · rcases h.older_or_since e hmem hea with hlt | hsince
      · exact Or.inl hlt
      · exact Or.inr (Finset.mem_insert_of_mem hsince)

theorem holds_after (h : t.Holds a c others) (habsent : ∀ d ∈ calls, d.client ≠ a)
    (hday : ∀ d ∈ calls, d.moment - c.lastSeen < staleAfter)
    (hfew : ((calls.map Call.client).toFinset ∪ others).card < t.capacity) :
    (t.after calls).Holds a c ((calls.map Call.client).toFinset ∪ others) := by
  induction calls generalizing t others with
  | nil => simpa using h
  | cons d calls ih =>
    have hunion : ((d :: calls).map Call.client).toFinset ∪ others =
        (calls.map Call.client).toFinset ∪ insert d.client others := by
      rw [List.map_cons, List.toFinset_cons, Finset.insert_union, Finset.union_insert]
    rw [hunion] at hfew ⊢
    have hnext : (t.next d).Holds a c (insert d.client others) := by
      refine holds_next h (habsent d List.mem_cons_self) (hday d List.mem_cons_self) ?_
      exact Nat.lt_of_le_of_lt (Finset.card_le_card Finset.subset_union_right) hfew
    refine ih hnext (fun d' hd' => habsent d' (List.mem_cons_of_mem d hd'))
      (fun d' hd' => hday d' (List.mem_cons_of_mem d hd')) ?_
    rwa [capacity_next]

/-- Right after a request its client is the last one seen, as requests come one after another. -/
theorem holds_of_request (h : t.WellFormed) (hlater : ∀ e ∈ t.entries, e.2.lastSeen < d.moment) :
    (t.next d).Holds d.client (Client.visit (t.find? d.client) d.moment d.limit).2 ∅ where
  wellFormed := wellFormed_next h d
  mem := (mem_judge h).mpr (Or.inl rfl)
  older_or_since := by
    intro e he hne
    rcases mem_next h he with ⟨heq, -⟩ | ⟨-, hmem⟩
    · exact absurd heq hne
    · rw [Client.visit_lastSeen]
      exact Or.inl (hlater e hmem)

/-- Requests come one after another. If a client comes back within a day, and fewer others came in
between than the table has room for, then it is known as it was left. -/
theorem find?_of_few_others {capacity : Nat} {before between rest : List Call} {first again : Call}
    (increasing : (before ++ first :: (between ++ again :: rest)).Pairwise
      fun d d' => d.moment < d'.moment)
    (same : again.client = first.client)
    (absent : ∀ d ∈ between, d.client ≠ first.client)
    (recent : again.moment - first.moment < staleAfter)
    (few : (between.map Call.client).toFinset.card < max capacity 1) :
    ∃ c, c.lastSeen = first.moment ∧
      ((empty capacity).after (before ++ [first])).find? first.client = some c ∧
      ((empty capacity).after (before ++ first :: between)).find? again.client = some c := by
  have hempty := wellFormed_empty capacity
  have hbefore := wellFormed_after hempty before
  rw [List.pairwise_append, List.pairwise_cons, List.pairwise_append, List.pairwise_cons]
    at increasing
  obtain ⟨-, ⟨hfirst, -, -, hagain⟩, hearlier⟩ := increasing
  have hlater : ∀ e ∈ ((empty capacity).after before).entries, e.2.lastSeen < first.moment := by
    intro e he
    rcases lastSeen_after hempty he with hmem | ⟨d, hd, heq⟩
    · cases hmem
    · exact heq ▸ hearlier d hd first List.mem_cons_self
  have hleft := holds_of_request hbefore hlater
  generalize hc : (Client.visit (((empty capacity).after before).find? first.client)
    first.moment first.limit).2 = c at hleft
  have hseen : c.lastSeen = first.moment := by rw [← hc, Client.visit_lastSeen]
  have hday : ∀ d ∈ between, d.moment - c.lastSeen < staleAfter := by
    intro d hd
    have hlt := hagain d hd again List.mem_cons_self
    omega
  have hfew : ((between.map Call.client).toFinset ∪ ∅).card <
      (((empty capacity).after before).next first).capacity := by
    rw [Finset.union_empty, capacity_next, capacity_after]
    exact few
  have hkept := holds_after hleft absent hday hfew
  refine ⟨c, hseen, ?_, ?_⟩
  · rw [after_append]
    exact (find?_eq_some_iff hleft.wellFormed).mpr hleft.mem
  · rw [after_append, same]
    exact (find?_eq_some_iff hkept.wellFormed).mpr hkept.mem

/-- A table for two clients is full when a third comes, which takes the entry of the first. -/
theorem find?_of_few_others_full :
    let first : Call := ⟨.v4 2#32, 2, {}⟩
    let third : Call := ⟨.v4 3#32, 3, {}⟩
    ((empty 2).after [⟨.v4 1#32, 1, {}⟩, first, third]).find? (.v4 1#32) = none ∧
    ∃ c, c.lastSeen = 2 ∧
      ((empty 2).after [⟨.v4 1#32, 1, {}⟩, first]).find? (.v4 2#32) = some c ∧
      ((empty 2).after [⟨.v4 1#32, 1, {}⟩, first, third]).find? (.v4 2#32) = some c :=
  ⟨by decide, @find?_of_few_others 2 [⟨.v4 1#32, 1, {}⟩] [⟨.v4 3#32, 3, {}⟩] []
    ⟨.v4 2#32, 2, {}⟩ ⟨.v4 2#32, 4, {}⟩ (by decide) rfl (by decide) (by decide) (by decide)⟩

end NetworkTime.ClientTable
