import NetworkTime.Proofs.ClientTable.Room

/-! One request on a client table, and runs of requests. -/

namespace NetworkTime

/-- A request, as a client table sees it. -/
structure Call where
  client : Address
  moment : Nat
  limit : RateLimit
deriving DecidableEq, Repr

namespace ClientTable
variable {t : ClientTable} {a b : Address} {c : Client} {now : Nat} {limit : RateLimit}
  {d : Call} {calls : List Call} {e : Address × Client}

theorem judge_eq (h : t.WellFormed) (a : Address) (now : Nat) (limit : RateLimit) :
    t.judge a now limit = ((Client.visit (t.find? a) now limit).1,
      (t.roomFor a now).put a (Client.visit (t.find? a) now limit).2) := by
  rw [← find?_roomFor_self h a now]
  rfl

@[simp] theorem capacity_judge : (t.judge a now limit).2.capacity = t.capacity := by
  simp [judge]

theorem wellFormed_judge (h : t.WellFormed) (a : Address) (now : Nat) (limit : RateLimit) :
    (t.judge a now limit).2.WellFormed := by
  rw [judge_eq h]
  refine wellFormed_put (wellFormed_roomFor h a now) ?_
  rw [capacity_roomFor]
  rcases roomFor_cases t a now with ⟨hroom, heq⟩ | ⟨-, hfull, heq⟩
  · rw [heq]
    exact hroom
  · rw [heq]
    exact Or.inr (size_makeRoom_lt h hfull now)

theorem mem_judge (h : t.WellFormed) :
    e ∈ (t.judge a now limit).2.entries ↔
      e = (a, (Client.visit (t.find? a) now limit).2) ∨
        (e ∈ (t.roomFor a now).entries ∧ e.1 ≠ a) := by
  rw [judge_eq h]
  exact mem_put

theorem find?_judge_self (h : t.WellFormed) (a : Address) (now : Nat) (limit : RateLimit) :
    (t.judge a now limit).2.find? a = some (Client.visit (t.find? a) now limit).2 :=
  (find?_eq_some_iff (wellFormed_judge h a now limit)).mpr ((mem_judge h).mpr (Or.inl rfl))

/-- The entry of another client goes or stays as it is. -/
theorem find?_judge_of_ne (h : t.WellFormed) (hne : b ≠ a)
    (hc : (t.judge a now limit).2.find? b = some c) : t.find? b = some c := by
  rw [find?_eq_some_iff (wellFormed_judge h a now limit), mem_judge h] at hc
  rw [find?_eq_some_iff h]
  rcases hc with heq | ⟨hmem, -⟩
  · exact absurd (congrArg Prod.fst heq) hne
  · exact (roomFor_sublist h a now).subset hmem

/-- The table after one request. -/
def next (t : ClientTable) (d : Call) : ClientTable := (t.judge d.client d.moment d.limit).2

/-- The table after a run of requests. -/
def after (t : ClientTable) (calls : List Call) : ClientTable := calls.foldl next t

@[simp] theorem after_nil : t.after [] = t := rfl

@[simp] theorem after_cons : t.after (d :: calls) = (t.next d).after calls := rfl

theorem after_append (t : ClientTable) (calls later : List Call) :
    t.after (calls ++ later) = (t.after calls).after later :=
  List.foldl_append ..

theorem wellFormed_next (h : t.WellFormed) (d : Call) : (t.next d).WellFormed :=
  wellFormed_judge h ..

theorem wellFormed_after (h : t.WellFormed) (calls : List Call) : (t.after calls).WellFormed := by
  induction calls generalizing t with
  | nil => exact h
  | cons d calls ih => exact ih (wellFormed_next h d)

@[simp] theorem capacity_next : (t.next d).capacity = t.capacity := capacity_judge

@[simp] theorem capacity_after : (t.after calls).capacity = t.capacity := by
  induction calls generalizing t with
  | nil => rfl
  | cons d calls ih => rw [after_cons, ih, capacity_next]

/-- An entry after a request is that of its client, or was there before. -/
theorem mem_next (h : t.WellFormed) (he : e ∈ (t.next d).entries) :
    (e.1 = d.client ∧ e.2.lastSeen = d.moment) ∨ (e.1 ≠ d.client ∧ e ∈ t.entries) := by
  rcases (mem_judge h).mp he with rfl | ⟨hroom, hne⟩
  · exact Or.inl ⟨rfl, Client.visit_lastSeen ..⟩
  · exact Or.inr ⟨hne, (roomFor_sublist h d.client d.moment).subset hroom⟩

/-- A client is known after a request if it made it, or if its entry outlived the making of room. -/
theorem contains_next_iff (h : t.WellFormed) : (t.next d).contains a = true ↔
    a = d.client ∨ (t.roomFor d.client d.moment).contains a = true := by
  rw [contains_iff, contains_iff]
  constructor
  · rintro ⟨c, hc⟩
    rcases (mem_judge h).mp hc with heq | ⟨hroom, -⟩
    · exact Or.inl (congrArg Prod.fst heq)
    · exact Or.inr ⟨c, hroom⟩
  · intro ha
    by_cases hself : a = d.client
    · exact ⟨_, (mem_judge h).mpr (Or.inl (by rw [hself]))⟩
    · obtain ⟨c, hroom⟩ := ha.resolve_left hself
      exact ⟨c, (mem_judge h).mpr (Or.inr ⟨hroom, hself⟩)⟩

/-- Every client was seen at the moment of some request. -/
theorem lastSeen_after (h : t.WellFormed) (he : e ∈ (t.after calls).entries) :
    e ∈ t.entries ∨ ∃ d ∈ calls, e.2.lastSeen = d.moment := by
  induction calls generalizing t with
  | nil => exact Or.inl he
  | cons d calls ih =>
    rcases ih (wellFormed_next h d) he with hnext | ⟨d', hd', heq⟩
    · rcases mem_next h hnext with ⟨-, heq⟩ | ⟨-, hmem⟩
      · exact Or.inr ⟨d, List.mem_cons_self, heq⟩
      · exact Or.inl hmem
    · exact Or.inr ⟨d', List.mem_cons_of_mem d hd', heq⟩

end ClientTable
end NetworkTime
