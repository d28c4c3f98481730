import NetworkTime.Proofs.RateLimit.Window

/-! A client that has stayed away for long enough is served again, whatever came before. All that an
entry can hold against its client are times of its own earlier requests. -/

namespace NetworkTime
variable {t : ClientTable} {a : Address} {c : Client} {known : Option Client} {now : Nat}
  {limit : RateLimit} {d : Call} {calls earlier : List Call} {times later : List Nat}
  {e : Address × Client}

namespace Client

/-- The times in an entry are among the given ones. -/
structure DatedBy (c : Client) (times : List Nat) : Prop where
  windowStart : c.windowStart ∈ times
  lastAdmitted : ∀ last, c.lastAdmitted = some last → last ∈ times

theorem DatedBy.mono (h : c.DatedBy times) (hsub : times ⊆ later) : c.DatedBy later :=
  ⟨hsub h.windowStart, fun last hlast => hsub (h.lastAdmitted last hlast)⟩

theorem datedBy_judge (h : c.DatedBy times) (hnow : now ∈ times) :
    (c.judge now limit).2.DatedBy times := by
  have hroll : (c.roll now limit).DatedBy times := by
    rcases roll_cases c now limit with ⟨-, heq⟩ | ⟨-, heq⟩
    · rw [heq]
      exact h
    · rw [heq]
      exact ⟨hnow, h.lastAdmitted⟩
  rcases judge_cases c now limit with ⟨-, heq⟩ | ⟨-, -, heq⟩ | ⟨-, -, heq⟩
  · rw [heq]
    exact h
  · rw [heq]
    exact ⟨hroll.windowStart, hroll.lastAdmitted⟩
  · rw [heq]
    refine ⟨hroll.windowStart, ?_⟩
    rintro last ⟨⟩
    exact hnow

theorem datedBy_visit (h : ∀ c, known = some c → c.DatedBy times) (hnow : now ∈ times) :
    (visit known now limit).2.DatedBy times := by
  cases known with
  | none =>
    have hnew : (new now).DatedBy times := by
      refine ⟨hnow, ?_⟩
      rintro last ⟨⟩
    exact datedBy_judge hnew hnow
  | some c =>
    have hc := h c rfl
    have hseen : Client.DatedBy { c with lastSeen := now } times :=
      ⟨hc.windowStart, hc.lastAdmitted⟩
    exact datedBy_judge hseen hnow

/-- A request that starts a window and comes late enough is the first to count, and is served. -/
theorem judge_eq_allow (hmax : 0 < limit.maxRequests)
    (hcount : (c.roll now limit).windowCount = 0)
    (hgap : ∀ last, c.lastAdmitted = some last → last + limit.minInterval ≤ now) :
    (c.judge now limit).1 = .allow := by
  have hlate : c.isTooSoon now limit = false := by
    cases hlast : c.lastAdmitted with
    | none => simp [isTooSoon, hlast]
    | some last =>
      have := hgap last hlast
      simp only [isTooSoon, hlast, Option.any_some, decide_eq_false_iff_not]
      omega
  have hfirst : nextCount (c.roll now limit).windowCount ≤ limit.maxRequests := by
    rw [hcount]
    exact UInt32.le_iff_toNat_le.mpr (UInt32.lt_iff_toNat_lt.mp hmax)
  rcases judge_cases c now limit with ⟨hsoon, -⟩ | ⟨-, hover, -⟩ | ⟨-, -, heq⟩
  · rw [hlate] at hsoon
    cases hsoon
  · exact absurd hfirst (UInt32.not_le.mpr hover)
  · rw [heq]

theorem visit_eq_allow (hmax : 0 < limit.maxRequests) (h : ∀ c, known = some c → c.DatedBy times)
    (hlate : ∀ time ∈ times, time + limit.window < now ∧ time + limit.minInterval ≤ now) :
    (visit known now limit).1 = .allow := by
  cases known with
  | none =>
    apply judge_eq_allow hmax
    · simp [roll, new]
    · rintro last ⟨⟩
  | some c =>
    have hc := h c rfl
    apply judge_eq_allow hmax
    · have hover : limit.window < now - c.windowStart := by
        have := (hlate _ hc.windowStart).1
        omega
      exact congrArg Client.windowCount (if_pos hover)
    · intro last hlast
      exact (hlate last (hc.lastAdmitted last hlast)).2

end Client

namespace ClientTable

/-- The times of the requests of one client. -/
def moments (a : Address) (calls : List Call) : List Nat :=
  (calls.filter (·.client = a)).map Call.moment

theorem mem_moments : now ∈ moments a calls ↔ ∃ d ∈ calls, d.client = a ∧ d.moment = now := by
  simp [moments, and_assoc]

theorem moments_append_subset (calls later : List Call) :
    moments a calls ⊆ moments a (calls ++ later) := by
  intro now hnow
  obtain ⟨d, hd, hcall⟩ := mem_moments.mp hnow
  exact mem_moments.mpr ⟨d, List.mem_append_left later hd, hcall⟩

/-- Every time in an entry is that of some request of its client. -/
def DatedBy (t : ClientTable) (calls : List Call) : Prop :=
  ∀ e ∈ t.entries, e.2.DatedBy (moments e.1 calls)

theorem datedBy_next (h : t.WellFormed) (hd : t.DatedBy earlier) :
    (t.next d).DatedBy (earlier ++ [d]) := by
  intro e he
  rcases (mem_judge h).mp he with rfl | ⟨hroom, -⟩
  · apply Client.datedBy_visit
    · intro c hc
      exact (hd _ ((find?_eq_some_iff h).mp hc)).mono (moments_append_subset ..)
    · exact mem_moments.mpr ⟨d, List.mem_append_right earlier List.mem_cons_self, rfl, rfl⟩
  · have hmem := (roomFor_sublist h d.client d.moment).subset hroom
    exact (hd e hmem).mono (moments_append_subset ..)

theorem datedBy_after (h : t.WellFormed) (hd : t.DatedBy earlier) (calls : List Call) :
    (t.after calls).DatedBy (earlier ++ calls) := by
  induction calls generalizing t earlier with
  | nil => rwa [List.append_nil]
  | cons d calls ih =>
    rw [List.append_cons]
    exact ih (wellFormed_next h d) (datedBy_next h hd)

/-- A request is served if it comes later than all earlier ones of its client by more than a window
and by the shortest gap, however many of these were refused, whatever limits they met, and whoever
else came. The first request of a client is served in any case. -/
theorem allow_after_pause {capacity : Nat} (hmax : 0 < d.limit.maxRequests)
    (hlate : ∀ d' ∈ calls, d'.client = d.client →
      d'.moment + d.limit.window < d.moment ∧ d'.moment + d.limit.minInterval ≤ d.moment) :
    (((empty capacity).after calls).judge d.client d.moment d.limit).1 = .allow := by
  have h := wellFormed_after (wellFormed_empty capacity) calls
  have hempty : (empty capacity).DatedBy [] := by
    rintro e ⟨⟩
  have hdated := datedBy_after (wellFormed_empty capacity) hempty calls
  have hknown : ∀ c, ((empty capacity).after calls).find? d.client = some c →
      c.DatedBy (moments d.client calls) := by
    intro c hc
    exact hdated _ ((find?_eq_some_iff h).mp hc)
  rw [judge_eq h]
  refine Client.visit_eq_allow hmax hknown ?_
  intro time htime
  obtain ⟨d', hd', hclient, rfl⟩ := mem_moments.mp htime
  exact hlate d' hd' hclient

/-- The first client asks again and again, under different limits, and loses its entry to the second
in between. -/
def insisting : List Call :=
  [(1, 0, ⟨1, 10, 3⟩), (1, 4, ⟨1, 10, 3⟩), (1, 5, ⟨0, 2, 3⟩), (2, 6, ⟨1, 10, 3⟩),
    (1, 7, ⟨1, 10, 3⟩), (1, 8, ⟨1, 10, 3⟩)].map fun (a, now, limit) => ⟨.v4 a, now, limit⟩

theorem allow_after_pause_insisting :
    let first : Address := .v4 1#32
    let limit : RateLimit := ⟨1, 10, 3⟩
    ((empty 1).historyOf first insisting).map (·.verdict) =
      [.allow, .rateExceeded, .rateExceeded, .allow, .rateExceeded] ∧
    (((empty 1).after insisting).judge first 17 limit).1 = .rateExceeded ∧
    (((empty 1).after insisting).judge first 19 limit).1 = .allow :=
  ⟨by decide, by decide,
    allow_after_pause (d := ⟨.v4 1#32, 19, ⟨1, 10, 3⟩⟩) (by decide) (by decide)⟩

end ClientTable
end NetworkTime
