import Mathlib.Tactic.SplitIfs
import NetworkTime.Proofs.ClientTable.History

/-! The windows of a single client: how many of its requests are served in each, and how far they
lie apart. -/

namespace NetworkTime
variable {c c' : Client} {known : Option Client} {now w : Nat} {limit : RateLimit} {v : Verdict}
  {d : Call} {calls : List Call} {j k : Judgement}

namespace Client

/-- How many requests more may be served in the window of a client. -/
def remaining (limit : RateLimit) (c : Client) : Nat :=
  limit.maxRequests.toNat - c.windowCount.toNat

theorem toNat_nextCount (count : UInt32) :
    (nextCount count).toNat = min (count.toNat + 1) 4294967295 := by
  have hcount := count.toNat_lt
  unfold nextCount
  split
  · rename_i heq
    subst heq
    rfl
  · rename_i hne
    have hlt : count.toNat ≠ 4294967295 := fun h => hne (UInt32.toNat_inj.mp h)
    rw [UInt32.toNat_add]
    change (count.toNat + 1) % 2 ^ 32 = _
    omega

/-- Everything that judging a request can do to an entry. -/
theorem judge_cases (c : Client) (now : Nat) (limit : RateLimit) :
    (c.isTooSoon now limit = true ∧ c.judge now limit = (.rateExceeded, c)) ∨
    (c.isTooSoon now limit = false ∧
      limit.maxRequests < nextCount (c.roll now limit).windowCount ∧
      c.judge now limit = (.rateExceeded,
        { c.roll now limit with windowCount := nextCount (c.roll now limit).windowCount })) ∨
    (c.isTooSoon now limit = false ∧
      nextCount (c.roll now limit).windowCount ≤ limit.maxRequests ∧
      c.judge now limit = (.allow,
        { c.roll now limit with
          windowCount := nextCount (c.roll now limit).windowCount, lastAdmitted := some now })) := by
  unfold judge
  cases hs : c.isTooSoon now limit with
  | true => simp
  | false =>
    by_cases hlt : limit.maxRequests < nextCount (c.roll now limit).windowCount
    · simp [hlt]
    · simp [hlt, UInt32.not_lt.mp hlt]

theorem roll_cases (c : Client) (now : Nat) (limit : RateLimit) :
    (now - c.windowStart ≤ limit.window ∧ c.roll now limit = c) ∨
    (limit.window < now - c.windowStart ∧
      c.roll now limit = { c with windowStart := now, windowCount := 0 }) := by
  unfold roll
  by_cases h : limit.window < now - c.windowStart
  · simp [h]
  · simp [h, Nat.le_of_not_lt h]

/-- What a verdict takes from the requests that may be served. -/
def cost : Verdict → Nat
  | .allow => 1
  | .rateExceeded => 0

/-- A request is judged in the window of its client, or in a new one that starts with it. A count
that has stopped at its largest value is beyond every limit below that. -/
theorem judge_window (hmax : limit.maxRequests < 4294967295)
    (hj : c.judge now limit = (v, c')) :
    (c'.windowStart = c.windowStart ∧ cost v + c'.remaining limit ≤ c.remaining limit ∧
      (v = .allow → now - c.windowStart ≤ limit.window)) ∨
    (c'.windowStart = now ∧ c.windowStart + limit.window < now ∧
      cost v + c'.remaining limit ≤ limit.maxRequests.toNat) := by
  have hmax : limit.maxRequests.toNat < 4294967295 := UInt32.lt_iff_toNat_lt.mp hmax
  have hnext := toNat_nextCount (c.roll now limit).windowCount
  have hcount := (c.roll now limit).windowCount.toNat_lt
  rcases judge_cases c now limit with ⟨-, heq⟩ | ⟨-, -, heq⟩ | ⟨-, hle, heq⟩
  · obtain ⟨rfl, rfl⟩ := Prod.mk.inj (heq.symm.trans hj)
    refine Or.inl ⟨rfl, by simp [cost], ?_⟩
    intro h
    cases h
  · obtain ⟨rfl, rfl⟩ := Prod.mk.inj (heq.symm.trans hj)
    simp only [cost, remaining, hnext]
    rcases roll_cases c now limit with ⟨-, hr⟩ | ⟨hover, hr⟩
    · rw [hr] at hcount ⊢
      refine Or.inl ⟨rfl, by omega, ?_⟩
      intro h
      cases h
    · rw [hr]
      exact Or.inr ⟨rfl, by omega, by omega⟩
  · obtain ⟨rfl, rfl⟩ := Prod.mk.inj (heq.symm.trans hj)
    rw [UInt32.le_iff_toNat_le, hnext] at hle
    simp only [cost, remaining, hnext]
    rcases roll_cases c now limit with ⟨hin, hr⟩ | ⟨hover, hr⟩
    · rw [hr] at hle ⊢
      exact Or.inl ⟨rfl, by omega, fun _ => hin⟩
    · rw [hr] at hle ⊢
      exact Or.inr ⟨rfl, by omega, by omega⟩

/-- The same for a client that may be new: its first request starts its first window. -/
theorem visit_window (hmax : limit.maxRequests < 4294967295) (known : Option Client) (now : Nat) :
    (∃ c, known = some c ∧ (visit known now limit).2.windowStart = c.windowStart ∧
      cost (visit known now limit).1 + (visit known now limit).2.remaining limit ≤
        c.remaining limit ∧
      ((visit known now limit).1 = .allow → now - c.windowStart ≤ limit.window)) ∨
    ((visit known now limit).2.windowStart = now ∧
      (∀ c, known = some c → c.windowStart + limit.window < now) ∧
      cost (visit known now limit).1 + (visit known now limit).2.remaining limit ≤
        limit.maxRequests.toNat) := by
  have hv : visit known now limit = ((visit known now limit).1, (visit known now limit).2) := rfl
  cases known with
  | some c =>
    rcases judge_window hmax hv with hstay | ⟨hstart, hover, hcost⟩
    · exact Or.inl ⟨c, rfl, hstay⟩
    · refine Or.inr ⟨hstart, ?_, hcost⟩
      intro c₀ hc₀
      cases hc₀
      exact hover
  | none =>
    have hnone : ∀ c, (none : Option Client) = some c → c.windowStart + limit.window < now := by
      intro c hc
      cases hc
    rcases judge_window hmax hv with ⟨hstart, hcost, -⟩ | ⟨hstart, -, hcost⟩
    · exact Or.inr ⟨hstart, hnone, Nat.le_trans hcost (Nat.sub_le ..)⟩
    · exact Or.inr ⟨hstart, hnone, hcost⟩

/-- How many requests more may be served in the window with the given start. -/
def allowance (limit : RateLimit) : Option Client → Nat → Nat
  | none, _ => limit.maxRequests.toNat
  | some c, w =>
    if w < c.windowStart then 0
    else if w = c.windowStart then c.remaining limit
    else limit.maxRequests.toNat

theorem allowance_le (limit : RateLimit) (known : Option Client) (w : Nat) :
    allowance limit known w ≤ limit.maxRequests.toNat := by
  cases known with
  | none => exact Nat.le_refl _
  | some c =>
    simp only [allowance, remaining]
    split_ifs <;> omega

theorem visit_allowance (hmax : limit.maxRequests < 4294967295) (known : Option Client)
    (now w : Nat) :
    (if (visit known now limit).2.windowStart = w then cost (visit known now limit).1 else 0) +
      allowance limit (some (visit known now limit).2) w ≤ allowance limit known w := by
  rcases visit_window hmax known now with ⟨c, rfl, hstart, hcost, -⟩ | ⟨hstart, hover, hcost⟩
  · simp only [allowance, hstart]
    split_ifs <;> omega
  · cases known with
    | none =>
      simp only [allowance]
      split_ifs <;> omega
    | some c =>
      have hlt := hover c rfl
      simp only [allowance]
      split_ifs <;> omega

/-- Of the requests in one window no more are served than are left. -/
theorem countP_window_le (hmax : limit.maxRequests < 4294967295)
    (hfixed : ∀ d ∈ calls, d.limit = limit) (known : Option Client) (w : Nat) :
    (history known calls).countP (fun j => j.IsAllowed ∧ j.window = w) ≤
      allowance limit known w := by
  induction calls generalizing known with
  | nil => exact Nat.zero_le _
  | cons d calls ih =>
    obtain ⟨hd, hrest⟩ := List.forall_mem_cons.mp hfixed
    have hstep := visit_allowance hmax known d.moment w
    have htail := ih hrest (some (visit known d.moment limit).2)
    rw [history_cons, hd, List.countP_cons]
    generalize visit known d.moment limit = r at hstep htail ⊢
    have hhead : (if decide ((⟨d, r.1, known, some r.2⟩ : Judgement).IsAllowed ∧
        (⟨d, r.1, known, some r.2⟩ : Judgement).window = w) = true then 1 else 0) =
        if r.2.windowStart = w then cost r.1 else 0 := by
      cases hr : r.1 <;> simp [Judgement.IsAllowed, Judgement.window, cost]
    rw [hhead]
    omega

/-- A client stays in its window or starts one that is out of reach of it. -/
theorem window_eq_or_lt (hmax : limit.maxRequests < 4294967295)
    (hfixed : ∀ d ∈ calls, d.limit = limit) (hj : j ∈ history (some c) calls) :
    j.window = c.windowStart ∨ c.windowStart + limit.window < j.window := by
  induction calls generalizing c with
  | nil => cases hj
  | cons d calls ih =>
    obtain ⟨hd, hrest⟩ := List.forall_mem_cons.mp hfixed
    have hstep : (visit (some c) d.moment limit).2.windowStart = c.windowStart ∨
        c.windowStart + limit.window < (visit (some c) d.moment limit).2.windowStart := by
      rcases visit_window hmax (some c) d.moment with ⟨_, hc, hstart, -, -⟩ | ⟨hstart, hover, -⟩
      · cases hc
        exact Or.inl hstart
      · rw [hstart]
        exact Or.inr (hover c rfl)
    rw [history_cons, hd] at hj
    rcases List.mem_cons.mp hj with rfl | hj
    · exact hstep
    · rcases ih hrest hj with hw | hw <;> omega

/-- The windows of a client do not overlap. -/
theorem pairwise_window (hmax : limit.maxRequests < 4294967295)
    (hfixed : ∀ d ∈ calls, d.limit = limit) (known : Option Client) :
    (history known calls).Pairwise
      fun j k => j.window = k.window ∨ j.window + limit.window < k.window := by
  induction calls generalizing known with
  | nil => exact .nil
  | cons d calls ih =>
    obtain ⟨-, hrest⟩ := List.forall_mem_cons.mp hfixed
    rw [history_cons, List.pairwise_cons]
    refine ⟨?_, ih hrest _⟩
    intro k hk
    rcases window_eq_or_lt hmax hrest hk with hw | hw
    · exact Or.inl hw.symm
    · exact Or.inr hw

theorem window_eq_or_apart (hmax : limit.maxRequests < 4294967295)
    (hfixed : ∀ d ∈ calls, d.limit = limit) (hj : j ∈ history known calls)
    (hk : k ∈ history known calls) :
    j.window = k.window ∨ j.window + limit.window < k.window ∨
      k.window + limit.window < j.window := by
  have hpair := pairwise_window hmax hfixed known
  refine List.Pairwise.forall_of_forall_of_flip (R := fun j k : Judgement =>
    j.window = k.window ∨ j.window + limit.window < k.window ∨
      k.window + limit.window < j.window) ?_ ?_ ?_ hj hk
  · intro j _
    exact Or.inl rfl
  · apply hpair.imp
    omega
  · apply hpair.imp
    intro j k h
    change k.window = j.window ∨ k.window + limit.window < j.window ∨ _
    omega

/-- Requests come one after another, and none before the window of the client started. -/
structure Ordered (known : Option Client) (calls : List Call) : Prop where
  started : ∀ c, known = some c → ∀ d ∈ calls, c.windowStart ≤ d.moment
  moments : calls.Pairwise fun d d' => d.moment ≤ d'.moment

theorem ordered_visit (hmax : limit.maxRequests < 4294967295)
    (h : Ordered known (d :: calls)) :
    Ordered (some (visit known d.moment limit).2) calls := by
  obtain ⟨hfirst, hrest⟩ := List.pairwise_cons.mp h.moments
  refine ⟨?_, hrest⟩
  intro c hc d' hd'
  cases hc
  rcases visit_window hmax known d.moment with ⟨c, hknown, hstart, -, -⟩ | ⟨hstart, -, -⟩
  · rw [hstart]
    exact h.started c hknown d' (List.mem_cons_of_mem d hd')
  · rw [hstart]
    exact hfirst d' hd'

/-- A request that is served lies in its window. -/
theorem moment_mem_window (hmax : limit.maxRequests < 4294967295)
    (hfixed : ∀ d ∈ calls, d.limit = limit) (hordered : Ordered known calls)
    (hj : j ∈ history known calls) (hallow : j.IsAllowed) :
    j.window ≤ j.call.moment ∧ j.call.moment ≤ j.window + limit.window := by
  induction calls generalizing known with
  | nil => cases hj
  | cons d calls ih =>
    obtain ⟨hd, hrest⟩ := List.forall_mem_cons.mp hfixed
    rw [history_cons, hd] at hj
    rcases List.mem_cons.mp hj with rfl | hj
    · change (visit known d.moment limit).2.windowStart ≤ d.moment ∧
        d.moment ≤ (visit known d.moment limit).2.windowStart + limit.window
      rcases visit_window hmax known d.moment with ⟨c, hknown, hstart, -, hin⟩ | ⟨hstart, -, -⟩
      · have hstarted := hordered.started c hknown d List.mem_cons_self
        have hwindow := hin hallow
        omega
      · omega
    · exact ih hrest (ordered_visit hmax hordered) hj

end Client
end NetworkTime
