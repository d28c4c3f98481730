import NetworkTime.Proofs.RateLimit.Window

/-! What a rate limit promises of the requests of one client, among those of any others. -/

namespace NetworkTime
variable {a : Address} {c c' : Client} {known : Option Client} {now : Nat} {limit : RateLimit}
  {v : Verdict} {calls : List Call} {j k : Judgement}

/-- Judgements on the requests of one client that keep to a rate limit. -/
structure RateLimit.KeptBy (limit : RateLimit) (js : List Judgement) : Prop where
  /-- From one reset of the window to the next. -/
  window : ∀ done j more todo, js = done ++ j :: more ++ todo → (∀ k ∈ more, ¬ k.Resets) →
    (j :: more).countP (·.IsAllowed) ≤ limit.maxRequests.toNat
  /-- In any interval that is no longer than a window, wherever the windows lie. -/
  interval : ∀ start stop, stop ≤ start + limit.window →
    js.countP (fun j => j.IsAllowed ∧ start ≤ j.call.moment ∧ j.call.moment ≤ stop) ≤
      2 * limit.maxRequests.toNat
  gap : (js.filter (·.IsAllowed)).Pairwise fun j k =>
    j.call.moment + limit.minInterval ≤ k.call.moment

/-- A list whose values are of two kinds has no more entries than two of its kinds can have. -/
theorem length_le_two_mul {α : Type} {l : List α} {f : α → Nat} {m : Nat}
    (hkind : ∀ w, l.countP (f · = w) ≤ m)
    (htwo : ∀ x ∈ l, ∀ y ∈ l, ∀ z ∈ l, f x = f y ∨ f y = f z ∨ f x = f z) :
    l.length ≤ 2 * m := by
  cases l with
  | nil => exact Nat.zero_le _
  | cons x l =>
    have hsplit := List.length_eq_countP_add_countP (fun y => decide (f y = f x)) (l := x :: l)
    have hx := hkind (f x)
    by_cases hother : ∃ y ∈ x :: l, f y ≠ f x
    · obtain ⟨y, hy, hne⟩ := hother
      have hle : (x :: l).countP (fun z => ¬ decide (f z = f x)) ≤
          (x :: l).countP (f · = f y) := by
        apply List.countP_mono_left
        intro z hz hzx
        have hzx : f z ≠ f x := by simpa using hzx
        rcases htwo x List.mem_cons_self y hy z hz with h | h | h
        · exact (hne h.symm).elim
        · simpa using h.symm
        · exact (hzx h.symm).elim
      have hyle := hkind (f y)
      omega
    · have hzero : (x :: l).countP (fun z => ¬ decide (f z = f x)) = 0 := by
        rw [List.countP_eq_zero]
        intro z hz hzx
        exact hother ⟨z, hz, by simpa using hzx⟩
      omega

namespace Client

/-- Two windows have room for all the requests of an interval that is no longer than one: a third
would start after the interval has ended. -/
theorem countP_interval_le (hmax : limit.maxRequests < 4294967295)
    (hfixed : ∀ d ∈ calls, d.limit = limit) (hordered : Ordered known calls) {start stop : Nat}
    (hstop : stop ≤ start + limit.window) :
    (history known calls).countP
      (fun j => j.IsAllowed ∧ start ≤ j.call.moment ∧ j.call.moment ≤ stop) ≤
      2 * limit.maxRequests.toNat := by
  rw [List.countP_eq_length_filter]
  apply length_le_two_mul (f := Judgement.window)
  · intro w
    rw [List.countP_filter]
    calc _ ≤ (history known calls).countP (fun j => j.IsAllowed ∧ j.window = w) := by
          apply List.countP_mono_left
          intro j _ hj
          simp only [Bool.and_eq_true, decide_eq_true_eq] at hj
          simpa using ⟨hj.2.1, hj.1⟩
      _ ≤ allowance limit known w := countP_window_le hmax hfixed known w
      _ ≤ limit.maxRequests.toNat := allowance_le limit known w
  · intro x hx y hy z hz
    simp only [List.mem_filter, decide_eq_true_eq] at hx hy hz
    have hxw := moment_mem_window hmax hfixed hordered hx.1 hx.2.1
    have hyw := moment_mem_window hmax hfixed hordered hy.1 hy.2.1
    have hzw := moment_mem_window hmax hfixed hordered hz.1 hz.2.1
    have hxy := window_eq_or_apart hmax hfixed hx.1 hy.1
    have hyz := window_eq_or_apart hmax hfixed hy.1 hz.1
    have hxz := window_eq_or_apart hmax hfixed hx.1 hz.1
    omega

theorem countP_segment_le (hmax : limit.maxRequests < 4294967295)
    (hfixed : ∀ d ∈ calls, d.limit = limit) {done more todo : List Judgement}
    (hsplit : history known calls = done ++ j :: more ++ todo)
    (hkept : ∀ k ∈ more, ¬ k.Resets) :
    (j :: more).countP (·.IsAllowed) ≤ limit.maxRequests.toNat := by
  have hpart : j :: more <:+: history known calls := ⟨done, todo, by rw [hsplit]⟩
  have hchain := isChain_history known calls
  rw [hsplit] at hchain
  replace hchain := hchain.left_of_append.right_of_append
  have hsame : ∀ k ∈ j :: more, k.window = j.window := by
    intro k hk
    rcases List.mem_cons.mp hk with rfl | hk
    · rfl
    · exact window_eq_of_not_resets hchain hkept hk
  calc (j :: more).countP (·.IsAllowed)
      ≤ (j :: more).countP (fun k => k.IsAllowed ∧ k.window = j.window) := by
        apply List.countP_mono_left
        intro k hk hallow
        simpa using ⟨by simpa using hallow, hsame k hk⟩
    _ ≤ (history known calls).countP (fun k => k.IsAllowed ∧ k.window = j.window) :=
        hpart.sublist.countP_le
    _ ≤ allowance limit known j.window := countP_window_le hmax hfixed known j.window
    _ ≤ limit.maxRequests.toNat := allowance_le limit known j.window

/-- The last request that was served moves only to one that comes late enough. -/
theorem judge_lastAdmitted (hj : c.judge now limit = (v, c')) :
    (v = .allow ∧ c'.lastAdmitted = some now ∧
      ∀ last, c.lastAdmitted = some last → limit.minInterval ≤ now - last) ∨
    (v = .rateExceeded ∧ c'.lastAdmitted = c.lastAdmitted) := by
  have hroll : (c.roll now limit).lastAdmitted = c.lastAdmitted := by
    rcases roll_cases c now limit with ⟨-, hr⟩ | ⟨-, hr⟩ <;> rw [hr]
  rcases judge_cases c now limit with ⟨-, heq⟩ | ⟨-, -, heq⟩ | ⟨hsoon, -, heq⟩
  · obtain ⟨rfl, rfl⟩ := Prod.mk.inj (heq.symm.trans hj)
    exact Or.inr ⟨rfl, rfl⟩
  · obtain ⟨rfl, rfl⟩ := Prod.mk.inj (heq.symm.trans hj)
    exact Or.inr ⟨rfl, hroll⟩
  · obtain ⟨rfl, rfl⟩ := Prod.mk.inj (heq.symm.trans hj)
    refine Or.inl ⟨rfl, rfl, ?_⟩
    intro last hlast
    simpa [isTooSoon, hlast] using hsoon

/-- The moment at which a client that may be new was served last. -/
def lastServed (known : Option Client) : Option Nat := known.bind Client.lastAdmitted

theorem visit_lastServed (known : Option Client) (now : Nat) (limit : RateLimit) :
    ((visit known now limit).1 = .allow ∧ lastServed (some (visit known now limit).2) = some now ∧
      ∀ last, lastServed known = some last → limit.minInterval ≤ now - last) ∨
    ((visit known now limit).1 = .rateExceeded ∧
      lastServed (some (visit known now limit).2) = lastServed known) := by
  cases known with
  | some c => exact judge_lastAdmitted (c := { c with lastSeen := now }) rfl
  | none => exact judge_lastAdmitted (c := Client.new now) rfl

/-- No request is served before the gap since the last one that was served has passed. -/
theorem le_moment_of_lastServed (hfixed : ∀ d ∈ calls, d.limit = limit) {last : Nat}
    (hlast : lastServed known = some last) (hlate : ∀ d ∈ calls, last ≤ d.moment)
    (hmoments : calls.Pairwise fun d d' => d.moment ≤ d'.moment)
    (hk : k ∈ history known calls) (hallow : k.IsAllowed) :
    last + limit.minInterval ≤ k.call.moment := by
  induction calls generalizing known last with
  | nil => cases hk
  | cons d calls ih =>
    obtain ⟨hd, hrest⟩ := List.forall_mem_cons.mp hfixed
    obtain ⟨hdlate, hlater⟩ := List.forall_mem_cons.mp hlate
    obtain ⟨hfirst, hmoments⟩ := List.pairwise_cons.mp hmoments
    rw [history_cons, hd] at hk
    have hstep := visit_lastServed known d.moment limit
    generalize visit known d.moment limit = r at hk hstep
    rcases hstep with ⟨-, hmoved, hwait⟩ | ⟨hrefused, hunmoved⟩
    · have hgap := hwait last hlast
      rcases List.mem_cons.mp hk with rfl | hk
      · change last + limit.minInterval ≤ d.moment
        omega
      · have htail := ih hrest hmoved hfirst hmoments hk
        omega
    · rcases List.mem_cons.mp hk with rfl | hk
      · cases hrefused.symm.trans hallow
      · exact ih hrest (hunmoved.trans hlast) hlater hmoments hk

theorem pairwise_gap (hfixed : ∀ d ∈ calls, d.limit = limit)
    (hmoments : calls.Pairwise fun d d' => d.moment ≤ d'.moment) (known : Option Client) :
    ((history known calls).filter (·.IsAllowed)).Pairwise fun j k =>
      j.call.moment + limit.minInterval ≤ k.call.moment := by
  induction calls generalizing known with
  | nil => exact .nil
  | cons d calls ih =>
    obtain ⟨hd, hrest⟩ := List.forall_mem_cons.mp hfixed
    obtain ⟨hfirst, hmoments⟩ := List.pairwise_cons.mp hmoments
    rw [history_cons, hd]
    have hstep := visit_lastServed known d.moment limit
    generalize visit known d.moment limit = r at hstep
    rcases hstep with ⟨hallow, hmoved, -⟩ | ⟨hrefused, -⟩
    · have hserved : Judgement.IsAllowed ⟨d, r.1, known, some r.2⟩ := hallow
      rw [List.filter_cons_of_pos (by simpa using hserved), List.pairwise_cons]
      refine ⟨?_, ih hrest hmoments _⟩
      intro k hk
      obtain ⟨hk, hserved⟩ := List.mem_filter.mp hk
      exact le_moment_of_lastServed hrest hmoved hfirst hmoments hk (by simpa using hserved)
    · rw [List.filter_cons_of_neg (by simp [Judgement.IsAllowed, hrefused])]
      exact ih hrest hmoments _

theorem keptBy_history (hmax : limit.maxRequests < 4294967295)
    (hfixed : ∀ d ∈ calls, d.limit = limit) (hordered : Ordered known calls) :
    limit.KeptBy (history known calls) where
  window _ _ _ _ hsplit hkept := countP_segment_le hmax hfixed hsplit hkept
  interval _ _ hstop := countP_interval_le hmax hfixed hordered hstop
  gap := pairwise_gap hfixed hordered.moments known

end Client

namespace ClientTable

/-- A client whose entry is kept is served within its limit, whatever the other clients do. -/
theorem keptBy_historyOf {capacity : Nat} (hmax : limit.maxRequests < 4294967295)
    (hfixed : ∀ d ∈ calls, d.limit = limit)
    (hmoments : calls.Pairwise fun d d' => d.moment ≤ d'.moment)
    (hkeeps : (empty capacity).Keeps a calls) :
    limit.KeptBy ((empty capacity).historyOf a calls) := by
  have hnone : (empty capacity).find? a = none := rfl
  rw [historyOf_eq_history (wellFormed_empty capacity) hkeeps, hnone]
  apply Client.keptBy_history hmax
  · intro d hd
    exact hfixed d (List.mem_filter.mp hd).1
  · refine ⟨?_, hmoments.filter _⟩
    intro c hc
    cases hc

/-- Requests of two clients in turn, under a limit of two in a window of 10 with a gap of 3. -/
def interleaved : List Call :=
  [(1, 0), (2, 1), (1, 2), (1, 4), (1, 8), (2, 9), (1, 11), (1, 14)].map
    fun (a, now) => ⟨.v4 (BitVec.ofNat 32 a), now, ⟨2, 10, 3⟩⟩

/-- The third request comes too soon, the fifth is one too many, and the seventh starts a new
window. -/
theorem keptBy_historyOf_interleaved :
    ((empty 2).historyOf (.v4 1#32) interleaved).map (·.verdict) =
      [.allow, .rateExceeded, .allow, .rateExceeded, .allow, .allow] ∧
    RateLimit.KeptBy ⟨2, 10, 3⟩ ((empty 2).historyOf (.v4 1#32) interleaved) :=
  ⟨by decide, keptBy_historyOf (by decide) (by decide) (by decide) (by decide)⟩

end ClientTable
end NetworkTime
