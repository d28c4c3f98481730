import NetworkTime.Proofs.ClientTable.Entries

/-! Which clients are forgotten to make room for another. -/

namespace NetworkTime.ClientTable
variable {t : ClientTable} {a : Address} {now : Nat} {e : Address × Client}
  {es : List (Address × Client)}

theorem oldest?_eq_none_iff : oldest? es = none ↔ es = [] := by
  cases es with
  | nil => simp [oldest?]
  | cons e es =>
    rw [oldest?]
    split
    · simp
    · split <;> simp

theorem oldest?_spec (h : oldest? es = some e) :
    e ∈ es ∧ ∀ f ∈ es, e.2.lastSeen ≤ f.2.lastSeen := by
  induction es generalizing e with
  | nil => simp [oldest?] at h
  | cons d es ih =>
    rw [oldest?] at h
    cases ho : oldest? es with
    | none =>
      have hes := oldest?_eq_none_iff.mp ho
      simp_all
    | some f =>
      obtain ⟨hmem, hle⟩ := ih ho
      rw [ho] at h
      by_cases hlt : f.2.lastSeen < d.2.lastSeen
      · have he : f = e := by simpa [hlt] using h
        subst he
        refine ⟨List.mem_cons_of_mem _ hmem, ?_⟩
        rintro g (_ | ⟨_, hg⟩)
        · omega
        · exact hle g hg
      · have he : d = e := by simpa [hlt] using h
        subst he
        refine ⟨List.mem_cons_self, ?_⟩
        rintro g (_ | ⟨_, hg⟩)
        · exact Nat.le_refl _
        · have := hle g hg
          omega

/-- The clients seen within a day. -/
def fresh (t : ClientTable) (now : Nat) : ClientTable :=
  { t with entries := t.entries.filter fun e => now - e.2.lastSeen < staleAfter }

theorem makeRoom_eq (t : ClientTable) (now : Nat) :
    t.makeRoom now =
      if (t.fresh now).size < t.capacity then t.fresh now
      else match oldest? (t.fresh now).entries with
        | some e => (t.fresh now).erase e.1
        | none => t.fresh now := rfl

theorem mem_fresh : e ∈ (t.fresh now).entries ↔
    e ∈ t.entries ∧ now - e.2.lastSeen < staleAfter := by
  simp [fresh]

theorem size_fresh_lt (he : e ∈ t.entries) (hstale : staleAfter ≤ now - e.2.lastSeen) :
    (t.fresh now).size < t.size := by
  rw [size, fresh, size, List.length_filter_lt_length_iff_exists]
  exact ⟨e, he, by simpa using hstale⟩

/-- A full table loses the clients not seen for a day, or else one that none was seen before. -/
theorem makeRoom_cases (h : t.WellFormed) (hfull : t.capacity ≤ t.size) (now : Nat) :
    ((∃ e ∈ t.entries, staleAfter ≤ now - e.2.lastSeen) ∧ t.makeRoom now = t.fresh now) ∨
    ((∀ e ∈ t.entries, now - e.2.lastSeen < staleAfter) ∧
      ∃ e ∈ t.entries, (∀ f ∈ t.entries, e.2.lastSeen ≤ f.2.lastSeen) ∧
        t.makeRoom now = t.erase e.1) := by
  have hsize : t.entries.length = t.capacity := Nat.le_antisymm h.size_le hfull
  rw [makeRoom_eq]
  by_cases hs : ∃ e ∈ t.entries, staleAfter ≤ now - e.2.lastSeen
  · have hlt : (t.fresh now).size < t.capacity := by
      obtain ⟨e, he, hstale⟩ := hs
      exact hsize ▸ size_fresh_lt he hstale
    exact Or.inl ⟨hs, if_pos hlt⟩
  · have hfresh : ∀ e ∈ t.entries, now - e.2.lastSeen < staleAfter := by
      intro e he
      by_contra hstale
      exact hs ⟨e, he, Nat.le_of_not_lt hstale⟩
    have hkept : t.fresh now = t := by
      rw [fresh, List.filter_eq_self.mpr fun e he => by simpa using hfresh e he]
    have hge : ¬ t.size < t.capacity := by omega
    refine Or.inr ⟨hfresh, ?_⟩
    rw [hkept, if_neg hge]
    cases ho : oldest? t.entries with
    | none =>
      have hpos := h.capacity_pos
      rw [oldest?_eq_none_iff.mp ho, List.length_nil] at hsize
      omega
    | some e =>
      obtain ⟨hmem, hle⟩ := oldest?_spec ho
      exact ⟨e, hmem, hle, rfl⟩

@[simp] theorem capacity_makeRoom : (t.makeRoom now).capacity = t.capacity := by
  simp only [makeRoom]
  split
  · rfl
  · split <;> rfl

theorem makeRoom_sublist (h : t.WellFormed) (hfull : t.capacity ≤ t.size) (now : Nat) :
    (t.makeRoom now).entries.Sublist t.entries := by
  rcases makeRoom_cases h hfull now with ⟨-, heq⟩ | ⟨-, e, -, -, heq⟩
  · rw [heq]
    exact List.filter_sublist
  · rw [heq]
    exact List.filter_sublist

theorem size_makeRoom_lt (h : t.WellFormed) (hfull : t.capacity ≤ t.size) (now : Nat) :
    (t.makeRoom now).size < t.capacity := by
  refine Nat.lt_of_lt_of_le ?_ h.size_le
  rcases makeRoom_cases h hfull now with ⟨⟨e, he, hstale⟩, heq⟩ | ⟨-, e, he, -, heq⟩
  · rw [heq]
    exact size_fresh_lt he hstale
  · rw [heq, size, erase, size, List.length_filter_lt_length_iff_exists]
    exact ⟨e, he, by simp⟩

theorem wellFormed_of_sublist {u : ClientTable} (h : t.WellFormed)
    (hs : u.entries.Sublist t.entries) (hc : u.capacity = t.capacity) : u.WellFormed where
  distinct := (hs.map Prod.fst).nodup h.distinct
  size_le := hc ▸ Nat.le_trans hs.length_le h.size_le
  capacity_pos := hc ▸ h.capacity_pos

theorem roomFor_cases (t : ClientTable) (a : Address) (now : Nat) :
    ((t.contains a = true ∨ t.size < t.capacity) ∧ t.roomFor a now = t) ∨
    (t.contains a = false ∧ t.capacity ≤ t.size ∧ t.roomFor a now = t.makeRoom now) := by
  rw [roomFor]
  by_cases hc : t.contains a = true
  · simp [hc]
  · by_cases hfull : t.capacity ≤ t.size
    · simp [hc, hfull]
    · simp [hc, hfull, Nat.lt_of_not_le hfull]

@[simp] theorem capacity_roomFor : (t.roomFor a now).capacity = t.capacity := by
  unfold roomFor
  split <;> simp

theorem roomFor_sublist (h : t.WellFormed) (a : Address) (now : Nat) :
    (t.roomFor a now).entries.Sublist t.entries := by
  rcases roomFor_cases t a now with ⟨-, heq⟩ | ⟨-, hfull, heq⟩
  · rw [heq]
  · rw [heq]
    exact makeRoom_sublist h hfull now

theorem wellFormed_roomFor (h : t.WellFormed) (a : Address) (now : Nat) :
    (t.roomFor a now).WellFormed :=
  wellFormed_of_sublist h (roomFor_sublist h a now) capacity_roomFor

/-- Room is made for other clients: what is known of the client itself stays. -/
theorem find?_roomFor_self (h : t.WellFormed) (a : Address) (now : Nat) :
    (t.roomFor a now).find? a = t.find? a := by
  rcases roomFor_cases t a now with ⟨-, heq⟩ | ⟨hc, hfull, heq⟩
  · rw [heq]
  · have hnone := find?_eq_none_iff.mpr hc
    rw [hnone]
    rw [find?, List.lookup_eq_none_iff] at hnone ⊢
    intro e he
    exact hnone e ((roomFor_sublist h a now).subset he)

end NetworkTime.ClientTable
