import NetworkTime.Proofs.ClientTable.History

/-! Clients that all have room in a table do not matter to each other: each is judged as if it were
the only one. -/

namespace NetworkTime.ClientTable
variable {t : ClientTable} {a : Address} {d : Call} {calls : List Call} {clients : Finset Address}

/-- Whoever is known is one of the given clients, and there is room for all of these. -/
structure HasRoomFor (t : ClientTable) (clients : Finset Address) : Prop where
  wellFormed : t.WellFormed
  known : ∀ e ∈ t.entries, e.1 ∈ clients
  enough : clients.card ≤ t.capacity

/-- A new client among those for whom there is room finds a free place. -/
theorem roomFor_eq_self (h : t.HasRoomFor clients) (hd : d.client ∈ clients) :
    t.roomFor d.client d.moment = t := by
  rcases roomFor_cases t d.client d.moment with ⟨-, heq⟩ | ⟨hnew, hfull, -⟩
  · exact heq
  -- A full table and the new client would be more clients than there are.
  · have hkeys : insert d.client (t.entries.map Prod.fst).toFinset ⊆ clients := by
      intro b hb
      rw [Finset.mem_insert, List.mem_toFinset, List.mem_map] at hb
      rcases hb with rfl | ⟨e, he, rfl⟩
      · exact hd
      · exact h.known e he
    have hmany := capacity_lt_card_insert h.wellFormed hfull hnew
    have hcard := Finset.card_le_card hkeys
    have henough := h.enough
    omega

theorem hasRoomFor_next (h : t.HasRoomFor clients) (hd : d.client ∈ clients) :
    (t.next d).HasRoomFor clients where
  wellFormed := wellFormed_next h.wellFormed d
  known := by
    intro e he
    rcases mem_next h.wellFormed he with ⟨heq, -⟩ | ⟨-, hmem⟩
    · exact heq ▸ hd
    · exact h.known e hmem
  enough := by
    rw [capacity_next]
    exact h.enough

theorem contains_next (h : t.HasRoomFor clients) (hd : d.client ∈ clients)
    (hc : t.contains a = true) : (t.next d).contains a = true := by
  rw [contains_next_iff h.wellFormed, roomFor_eq_self h hd]
  exact Or.inr hc

/-- With room for all who come nobody is forgotten, however late they come. -/
theorem keeps_of_hasRoomFor (h : t.HasRoomFor clients) (hcalls : ∀ d ∈ calls, d.client ∈ clients)
    (a : Address) : t.Keeps a calls := by
  induction calls generalizing t with
  | nil => trivial
  | cons d calls ih =>
    obtain ⟨hd, hrest⟩ := List.forall_mem_cons.mp hcalls
    exact ⟨contains_next h hd, ih (hasRoomFor_next h hd) hrest⟩

theorem hasRoomFor_empty {capacity : Nat} (few : clients.card ≤ max capacity 1) :
    (empty capacity).HasRoomFor clients := by
  refine ⟨wellFormed_empty capacity, ?_, few⟩
  intro e he
  cases he

theorem calls_history (t : ClientTable) (calls : List Call) :
    (t.history calls).map Judgement.call = calls := by
  induction calls generalizing t with
  | nil => rfl
  | cons d calls ih => rw [history, List.map_cons, ih]

/-- The history of a table that a single client uses is the history of that client. -/
theorem historyOf_eq_self (halone : ∀ d ∈ calls, d.client = a) :
    t.historyOf a calls = t.history calls := by
  rw [historyOf, List.filter_eq_self]
  intro j hj
  have hcall : j.call ∈ calls := by
    rw [← calls_history t calls]
    exact List.mem_map.mpr ⟨j, hj, rfl⟩
  simpa using halone j.call hcall

/-- A client that has a table to itself is judged by its requests alone. -/
theorem history_empty_alone (capacity : Nat) (halone : ∀ d ∈ calls, d.client = a) :
    (empty capacity).history calls = Client.history none calls := by
  have hroom : (empty capacity).HasRoomFor {a} := by
    apply hasRoomFor_empty
    rw [Finset.card_singleton]
    exact Nat.le_max_right ..
  have hkeeps : (empty capacity).Keeps a calls := by
    apply keeps_of_hasRoomFor hroom
    intro d hd
    exact Finset.mem_singleton.mpr (halone d hd)
  have hself : calls.filter (·.client = a) = calls := by
    rw [List.filter_eq_self]
    simpa using halone
  have hnone : (empty capacity).find? a = none := rfl
  rw [← historyOf_eq_self halone, historyOf_eq_history hroom.wellFormed hkeeps, hself, hnone]

/-- A client among others for all of whom there is room is judged by its requests alone. -/
theorem historyOf_empty_of_few {capacity : Nat}
    (few : (calls.map Call.client).toFinset.card ≤ max capacity 1) (a : Address) :
    (empty capacity).historyOf a calls = Client.history none (calls.filter (·.client = a)) := by
  have hroom := hasRoomFor_empty few
  have hkeeps : (empty capacity).Keeps a calls := by
    apply keeps_of_hasRoomFor hroom
    intro d hd
    exact List.mem_toFinset.mpr (List.mem_map.mpr ⟨d, hd, rfl⟩)
  have hnone : (empty capacity).find? a = none := rfl
  rw [historyOf_eq_history hroom.wellFormed hkeeps, hnone]

theorem mem_of_filter_client_eq {calls reordered : List Call}
    (hsame : ∀ a, reordered.filter (·.client = a) = calls.filter (·.client = a))
    (hd : d ∈ reordered) : d ∈ calls := by
  have hmem : d ∈ reordered.filter (·.client = d.client) := List.mem_filter.mpr ⟨hd, by simp⟩
  rw [hsame] at hmem
  exact (List.mem_filter.mp hmem).1

/-- If a table has room for all clients of a run, each of them is judged as by a table of its own.
So nothing changes for any of them if the requests of different clients come in another order. -/
theorem historyOf_of_room_for_all {capacity : Nat} {calls : List Call}
    (few : (calls.map Call.client).toFinset.card ≤ max capacity 1) :
    (∀ a own, (empty capacity).historyOf a calls =
      (empty own).history (calls.filter (·.client = a))) ∧
    ∀ reordered : List Call,
      (∀ a, reordered.filter (·.client = a) = calls.filter (·.client = a)) →
      ∀ a, (empty capacity).historyOf a reordered = (empty capacity).historyOf a calls := by
  constructor
  · intro a own
    rw [historyOf_empty_of_few few, history_empty_alone own]
    intro d hd
    simpa using (List.mem_filter.mp hd).2
  · intro reordered hsame a
    have hsubset : (reordered.map Call.client).toFinset ⊆ (calls.map Call.client).toFinset := by
      intro b hb
      obtain ⟨d, hd, rfl⟩ := List.mem_map.mp (List.mem_toFinset.mp hb)
      have hcalls := mem_of_filter_client_eq hsame hd
      exact List.mem_toFinset.mpr (List.mem_map.mpr ⟨d, hcalls, rfl⟩)
    have fewer := Nat.le_trans (Finset.card_le_card hsubset) few
    rw [historyOf_empty_of_few fewer, hsame, historyOf_empty_of_few few]

/-- Of two clients the first comes back at an earlier time, and the second is a day ahead. -/
def dayApart : List Call :=
  [⟨.v4 1#32, 5, {}⟩, ⟨.v4 2#32, staleAfter + 5, {}⟩, ⟨.v4 1#32, 3, ⟨7, 0, 1⟩⟩]

/-- With room for one client only, the first is forgotten and served again. -/
theorem historyOf_of_room_for_all_dayApart :
    let first : Address := .v4 1#32
    ((empty 1).historyOf first dayApart).map (·.verdict) = [.allow, .allow] ∧
    ((empty 2).historyOf first dayApart).map (·.verdict) = [.allow, .rateExceeded] ∧
    (empty 2).historyOf first dayApart = (empty 1).history (dayApart.filter (·.client = first)) ∧
    (empty 2).historyOf first [dayApart[1], dayApart[0], dayApart[2]] =
      (empty 2).historyOf first dayApart := by
  have few : (dayApart.map Call.client).toFinset.card ≤ max 2 1 := by decide
  obtain ⟨halone, horder⟩ := historyOf_of_room_for_all few
  refine ⟨by decide, by decide, halone _ 1, horder _ ?_ _⟩
  intro a
  by_cases hfirst : a = .v4 1#32
  · subst hfirst
    decide
  · simp [dayApart, List.filter_cons, Ne.symm hfirst]

end NetworkTime.ClientTable
