import Mathlib.Data.Finset.Card
import Mathlib.Data.Finset.Dedup
import Mathlib.Data.List.Nodup
import NetworkTime.ClientTable

/-! What each operation on a client table does to its entries. -/

namespace NetworkTime
variable {t : ClientTable} {a b : Address} {c : Client} {now : Nat} {limit : RateLimit}
  {e f : Address × Client} {es : List (Address × Client)}

namespace Client

@[simp] theorem judge_lastSeen (c : Client) (now : Nat) (limit : RateLimit) :
    (c.judge now limit).2.lastSeen = c.lastSeen := by
  have hr : (c.roll now limit).lastSeen = c.lastSeen := by
    unfold roll
    split <;> rfl
  simp only [judge]
  split
  · rfl
  · split <;> exact hr

/-- The verdict on a request, and the entry of its client from then on. -/
def visit (known : Option Client) (now : Nat) (limit : RateLimit) : Verdict × Client :=
  judge { known.getD (.new now) with lastSeen := now } now limit

@[simp] theorem visit_lastSeen (known : Option Client) (now : Nat) (limit : RateLimit) :
    (visit known now limit).2.lastSeen = now := by
  rw [visit, judge_lastSeen]

end Client

namespace ClientTable

/-- A table has one entry for a client at most, and no more entries than there is room for. -/
structure WellFormed (t : ClientTable) : Prop where
  distinct : (t.entries.map Prod.fst).Nodup
  size_le : t.size ≤ t.capacity
  capacity_pos : 0 < t.capacity

theorem wellFormed_empty (capacity : Nat) : (empty capacity).WellFormed :=
  ⟨List.nodup_nil, Nat.zero_le _, Nat.le_max_right ..⟩

theorem contains_iff : t.contains a = true ↔ ∃ c, (a, c) ∈ t.entries := by
  simp [contains, find?]

theorem find?_eq_none_iff : t.find? a = none ↔ t.contains a = false := by
  simp [contains]

theorem lookup_eq_some_iff_mem (hd : (es.map Prod.fst).Nodup) :
    es.lookup a = some c ↔ (a, c) ∈ es := by
  induction es with
  | nil => simp
  | cons e es ih =>
    obtain ⟨b, d⟩ := e
    rw [List.map_cons, List.nodup_cons] at hd
    rw [List.lookup_cons, List.mem_cons]
    by_cases hab : a = b
    · subst hab
      have hout : (a, c) ∉ es := fun hm => hd.1 (List.mem_map.mpr ⟨(a, c), hm, rfl⟩)
      simp [hout, eq_comm]
    · have hb : (a == b) = false := beq_eq_false_iff_ne.mpr hab
      simp [hb, hab, ih hd.2]

/-- The entries are the table, as far as looking clients up can tell. -/
theorem find?_eq_some_iff (h : t.WellFormed) : t.find? a = some c ↔ (a, c) ∈ t.entries :=
  lookup_eq_some_iff_mem h.distinct

theorem WellFormed.unique (h : t.WellFormed) (he : e ∈ t.entries) (hf : f ∈ t.entries)
    (hk : e.1 = f.1) : e = f := by
  have hc : t.find? e.1 = some e.2 := (find?_eq_some_iff h).mpr he
  have hc' : t.find? f.1 = some f.2 := (find?_eq_some_iff h).mpr hf
  rw [hk, hc'] at hc
  exact Prod.ext hk (Option.some.inj hc).symm

theorem mem_keys_iff : a ∈ t.entries.map Prod.fst ↔ t.contains a = true := by
  simp [contains_iff]

/-- The clients of a full table are too many by one if a new one is counted with them. -/
theorem capacity_lt_card_insert (h : t.WellFormed) (hfull : t.capacity ≤ t.size)
    (hnew : t.contains a = false) :
    t.capacity < (insert a (t.entries.map Prod.fst).toFinset).card := by
  have hfresh : a ∉ (t.entries.map Prod.fst).toFinset := by
    rw [List.mem_toFinset, mem_keys_iff, hnew]
    exact Bool.false_ne_true
  rw [Finset.card_insert_of_notMem hfresh, List.toFinset_card_of_nodup h.distinct,
    List.length_map]
  exact Nat.lt_succ_of_le hfull

@[simp] theorem capacity_put : (t.put a c).capacity = t.capacity := by
  unfold put
  split <;> rfl

theorem mem_put : e ∈ (t.put a c).entries ↔ e = (a, c) ∨ (e ∈ t.entries ∧ e.1 ≠ a) := by
  unfold put
  split
  · rename_i hc
    obtain ⟨d, hd⟩ := contains_iff.mp hc
    rw [List.mem_map]
    constructor
    · rintro ⟨f, hf, rfl⟩
      by_cases hfa : f.1 = a <;> simp [hfa, hf]
    · rintro (rfl | ⟨he, hne⟩)
      · exact ⟨(a, d), hd, if_pos rfl⟩
      · exact ⟨e, he, if_neg hne⟩
  · rename_i hc
    have hne : e ∈ t.entries → e.1 ≠ a := by
      rintro he rfl
      exact hc (contains_iff.mpr ⟨e.2, he⟩)
    rw [List.mem_append, List.mem_singleton]
    constructor
    · rintro (he | rfl)
      · exact Or.inr ⟨he, hne he⟩
      · exact Or.inl rfl
    · rintro (rfl | ⟨he, -⟩)
      · exact Or.inr rfl
      · exact Or.inl he

theorem keys_put_of_contains (h : t.contains a = true) :
    (t.put a c).entries.map Prod.fst = t.entries.map Prod.fst := by
  rw [put, if_pos h, List.map_map]
  refine List.map_congr_left fun e _ => ?_
  by_cases he : e.1 = a <;> simp [he]

theorem wellFormed_put (h : t.WellFormed) (hroom : t.contains a = true ∨ t.size < t.capacity) :
    (t.put a c).WellFormed := by
  by_cases hc : t.contains a = true
  · have hk := keys_put_of_contains (c := c) hc
    have hsize : (t.put a c).size = t.size := by
      rw [size, size, ← List.length_map Prod.fst, hk, List.length_map]
    exact ⟨hk ▸ h.distinct, by rw [hsize, capacity_put]; exact h.size_le,
      by rw [capacity_put]; exact h.capacity_pos⟩
  · have hfresh : a ∉ t.entries.map Prod.fst := mt mem_keys_iff.mp hc
    have hlt : t.size < t.capacity := hroom.resolve_left hc
    refine ⟨?_, ?_, by rw [capacity_put]; exact h.capacity_pos⟩
    · rw [put, if_neg hc, List.map_append, List.map_singleton, ← List.concat_eq_append]
      exact h.distinct.concat hfresh
    · rw [capacity_put, put, if_neg hc, size, List.length_append, List.length_singleton]
      exact hlt

end ClientTable
end NetworkTime
