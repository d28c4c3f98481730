import NetworkTime.Proofs.ClientTable.History

/-! A client table never has more entries than places. Whose entries a request takes from a full
one. -/

namespace NetworkTime.ClientTable
variable {t : ClientTable} {b : Address} {now : Nat} {d : Call}

/-- The request takes the entry of a client. -/
def Evicts (t : ClientTable) (d : Call) (b : Address) : Prop :=
  t.contains b = true ∧ (t.next d).contains b = false

/-- The client was not seen for a day. -/
def IsStale (t : ClientTable) (now : Nat) (b : Address) : Prop :=
  ∃ c, t.find? b = some c ∧ staleAfter ≤ now - c.lastSeen

/-- No other client was last seen before this one was. -/
def IsOldest (t : ClientTable) (b : Address) : Prop :=
  ∃ c, t.find? b = some c ∧ ∀ b' c', t.find? b' = some c' → c.lastSeen ≤ c'.lastSeen

instance : Decidable (t.Evicts d b) := inferInstanceAs (Decidable (_ ∧ _))

/-- Entries go only where room is made. -/
theorem not_evicts_of_roomFor_eq (h : t.WellFormed) (hroom : t.roomFor d.client d.moment = t) :
    ¬ t.Evicts d b := by
  rintro ⟨hknown, hgone⟩
  have hkept : (t.next d).contains b = true := by
    rw [contains_next_iff h, hroom]
    exact Or.inr hknown
  rw [hkept] at hgone
  cases hgone

theorem evicts_iff_of_full (h : t.WellFormed) (hnew : t.contains d.client = false)
    (hfull : t.capacity ≤ t.size) :
    t.Evicts d b ↔ t.contains b = true ∧ (t.makeRoom d.moment).contains b = false := by
  have hroom : t.roomFor d.client d.moment = t.makeRoom d.moment := by
    simp [roomFor, hnew, hfull]
  have hnext : (t.next d).contains b = false ↔
      b ≠ d.client ∧ (t.makeRoom d.moment).contains b = false := by
    rw [← Bool.not_eq_true, contains_next_iff h, hroom, not_or, Bool.not_eq_true]
  rw [Evicts, hnext]
  constructor
  · rintro ⟨hknown, -, hgone⟩
    exact ⟨hknown, hgone⟩
  · rintro ⟨hknown, hgone⟩
    refine ⟨hknown, ?_, hgone⟩
    rintro rfl
    rw [hnew] at hknown
    cases hknown

theorem contains_fresh_iff (h : t.WellFormed) :
    (t.fresh now).contains b = true ↔ t.contains b = true ∧ ¬ t.IsStale now b := by
  rw [contains_iff, contains_iff]
  constructor
  · rintro ⟨c, hc⟩
    obtain ⟨hmem, hday⟩ := mem_fresh.mp hc
    refine ⟨⟨c, hmem⟩, ?_⟩
    rintro ⟨c', hc', hstale⟩
    rw [(find?_eq_some_iff h).mpr hmem] at hc'
    cases hc'
    exact absurd hstale (Nat.not_le_of_lt hday)
  · rintro ⟨⟨c, hmem⟩, hfresh⟩
    refine ⟨c, mem_fresh.mpr ⟨hmem, ?_⟩⟩
    by_contra hday
    exact hfresh ⟨c, (find?_eq_some_iff h).mpr hmem, Nat.le_of_not_lt hday⟩

theorem contains_erase_iff {a : Address} :
    (t.erase a).contains b = true ↔ t.contains b = true ∧ b ≠ a := by
  simp [contains_iff, erase]

theorem evicts_iff_isStale (h : t.WellFormed) (hnew : t.contains d.client = false)
    (hfull : t.capacity ≤ t.size) (hstale : ∃ b, t.IsStale d.moment b) :
    t.Evicts d b ↔ t.IsStale d.moment b := by
  have hroom : t.makeRoom d.moment = t.fresh d.moment := by
    rcases makeRoom_cases h hfull d.moment with ⟨-, heq⟩ | ⟨hfresh, -⟩
    · exact heq
    · obtain ⟨b', c', hc', hday⟩ := hstale
      exact absurd (hfresh _ ((find?_eq_some_iff h).mp hc')) (Nat.not_lt_of_le hday)
  rw [evicts_iff_of_full h hnew hfull, hroom, ← Bool.not_eq_true, contains_fresh_iff h]
  constructor
  · rintro ⟨hknown, hgone⟩
    by_contra hfresh
    exact hgone ⟨hknown, hfresh⟩
  · intro hb
    obtain ⟨c, hc, -⟩ := id hb
    exact ⟨contains_iff.mpr ⟨c, (find?_eq_some_iff h).mp hc⟩, fun hkept => hkept.2 hb⟩

theorem exists_isOldest_evicts (h : t.WellFormed) (hnew : t.contains d.client = false)
    (hfull : t.capacity ≤ t.size) (hfresh : ∀ b, ¬ t.IsStale d.moment b) :
    ∃ b, t.IsOldest b ∧ ∀ b', t.Evicts d b' ↔ b' = b := by
  rcases makeRoom_cases h hfull d.moment with ⟨⟨e, he, hday⟩, -⟩ | ⟨-, e, he, holdest, hroom⟩
  · exact absurd ⟨e.2, (find?_eq_some_iff h).mpr he, hday⟩ (hfresh e.1)
  · refine ⟨e.1, ⟨e.2, (find?_eq_some_iff h).mpr he, ?_⟩, ?_⟩
    · intro b' c' hc'
      exact holdest _ ((find?_eq_some_iff h).mp hc')
    · intro b'
      rw [evicts_iff_of_full h hnew hfull, hroom, ← Bool.not_eq_true, contains_erase_iff]
      constructor
      · rintro ⟨hknown, hgone⟩
        by_contra hne
        exact hgone ⟨hknown, hne⟩
      · rintro rfl
        exact ⟨contains_iff.mpr ⟨e.2, he⟩, fun hkept => hkept.2 rfl⟩

/-- After every request of a run the table has a place for each of its entries, one entry for a
client, and an entry for the client of the request. A request of a known client takes no entry, and
neither does one that finds a free place. If there is none, a new client takes the entries of all
clients that were not seen for a day, or else that of one which nobody was last seen before. All
other entries stay as they are. -/
theorem evicts_after (capacity : Nat) (calls : List Call) (d : Call) :
    let t := (empty capacity).after calls
    ((t.next d).size ≤ max capacity 1 ∧ ((t.next d).entries.map Prod.fst).Nodup ∧
      ∃ c, (t.next d).find? d.client = some c ∧ c.lastSeen = d.moment) ∧
    (∀ b, b ≠ d.client → ¬ t.Evicts d b → (t.next d).find? b = t.find? b) ∧
    (t.contains d.client = true ∨ t.size < max capacity 1 → ∀ b, ¬ t.Evicts d b) ∧
    (t.contains d.client = false → max capacity 1 ≤ t.size →
      ((∃ b, t.IsStale d.moment b) → ∀ b, t.Evicts d b ↔ t.IsStale d.moment b) ∧
      ((∀ b, ¬ t.IsStale d.moment b) → ∃ b, t.IsOldest b ∧ ∀ b', t.Evicts d b' ↔ b' = b)) := by
  intro t
  have h : t.WellFormed := wellFormed_after (wellFormed_empty capacity) calls
  have hcapacity : t.capacity = max capacity 1 := capacity_after
  have hnext := wellFormed_next h d
  rw [← hcapacity]
  refine ⟨⟨?_, hnext.distinct, _, find?_judge_self h .., Client.visit_lastSeen ..⟩, ?_, ?_, ?_⟩
  · rw [← capacity_next (d := d)]
    exact hnext.size_le
  · intro b hne hkept
    apply find?_next_of_kept h hne.symm
    intro hknown
    by_contra hgone
    exact hkept ⟨hknown, by simpa using hgone⟩
  · intro hroom b
    apply not_evicts_of_roomFor_eq h
    rcases roomFor_cases t d.client d.moment with ⟨-, heq⟩ | ⟨hnew, hfull, -⟩
    · exact heq
    · rcases hroom with hknown | hfree
      · rw [hnew] at hknown
        cases hknown
      · exact absurd hfull (Nat.not_le_of_lt hfree)
  · intro hnew hfull
    exact ⟨fun hstale b => evicts_iff_isStale h hnew hfull hstale,
      exists_isOldest_evicts h hnew hfull⟩

/-- Times go back here, so that the client that came last was seen longest ago. -/
example :
    let t := (empty 2).after [⟨.v4 1#32, 9, {}⟩, ⟨.v4 2#32, 4, {}⟩]
    t.Evicts ⟨.v4 3#32, 5, {}⟩ (.v4 2#32) ∧ ¬ t.Evicts ⟨.v4 3#32, 5, {}⟩ (.v4 1#32) := by
  decide

end NetworkTime.ClientTable
