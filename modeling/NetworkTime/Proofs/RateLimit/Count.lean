import NetworkTime.Proofs.RateLimit.Guarantee

/-! Which requests count in a window. Those that come too soon after one that was served do not, so
that only the others use the window up. -/

namespace NetworkTime
variable {t : ClientTable} {a : Address} {c : Client} {now n : Nat} {limit : RateLimit}
  {calls : List Call} {j k : Judgement} {more todo : List Judgement}

namespace Client

theorem judge_of_isTooSoon (h : c.isTooSoon now limit = true) :
    c.judge now limit = (.rateExceeded, c) := by
  rw [judge, if_pos h]

/-- A request that does not come too soon counts, and then the count decides. -/
theorem judge_of_not_isTooSoon (h : c.isTooSoon now limit = false) :
    (c.judge now limit).2.windowCount = nextCount (c.roll now limit).windowCount ∧
    ((c.judge now limit).1 = .rateExceeded ↔
      limit.maxRequests < nextCount (c.roll now limit).windowCount) := by
  rcases judge_cases c now limit with ⟨hsoon, -⟩ | ⟨-, hover, heq⟩ | ⟨-, hle, heq⟩
  · rw [h] at hsoon
    cases hsoon
  · rw [heq]
    exact ⟨rfl, iff_of_true rfl hover⟩
  · rw [heq]
    refine ⟨rfl, iff_of_false ?_ (UInt32.not_lt.mpr hle)⟩
    rintro ⟨⟩

end Client

namespace Judgement

/-- The entry that the request meets. -/
def met (j : Judgement) : Client :=
  { j.before.getD (.new j.call.moment) with lastSeen := j.call.moment }

/-- The verdict and the entry afterwards are those for the request and the entry that it meets. -/
structure IsDue (j : Judgement) : Prop where
  verdict : j.verdict = (j.met.judge j.call.moment j.call.limit).1
  after : j.after = some (j.met.judge j.call.moment j.call.limit).2

/-- The request came less than the shortest gap after the last one that was served. -/
def isEarly (j : Judgement) : Bool :=
  (Client.lastServed j.before).any fun last => j.call.moment - last < j.call.limit.minInterval

/-- The request starts a window: nothing is known of its client, or the last window is over. One
that comes too soon starts none. -/
def Opens (j : Judgement) : Prop :=
  ∀ c ∈ j.before, j.isEarly = false ∧ c.windowStart + j.call.limit.window < j.call.moment

instance : Decidable j.Opens := inferInstanceAs (Decidable (∀ c ∈ j.before, _))

/-- How many requests have counted in the window so far. -/
def countBefore (j : Judgement) : Nat := j.before.elim 0 fun c => c.windowCount.toNat

/-- How many requests have counted in the window by now. -/
def countAfter (j : Judgement) : Nat := j.after.elim 0 fun c => c.windowCount.toNat

theorem isTooSoon_met (j : Judgement) :
    j.met.isTooSoon j.call.moment j.call.limit = j.isEarly := by
  cases hb : j.before <;> simp [met, isEarly, Client.isTooSoon, Client.lastServed, hb, Client.new]

theorem opens_of_unknown (h : j.before = none) : j.Opens := by
  intro c hc
  rw [h] at hc
  cases hc

theorem not_isEarly_of_opens (h : j.Opens) : j.isEarly = false := by
  cases hb : j.before with
  | none => simp [isEarly, Client.lastServed, hb]
  | some c => exact (h c hb).1

theorem windowCount_roll_of_opens (h : j.Opens) :
    (j.met.roll j.call.moment j.call.limit).windowCount = 0 := by
  cases hb : j.before with
  | none =>
    have hmet : j.met = .new j.call.moment := by rw [met, hb]; rfl
    rcases Client.roll_cases j.met j.call.moment j.call.limit with ⟨-, heq⟩ | ⟨-, heq⟩
    · rw [heq, hmet]
      rfl
    · rw [heq]
  | some c =>
    have hmet : j.met.windowStart = c.windowStart := by rw [met, hb]; rfl
    have hover := (h c hb).2
    rcases Client.roll_cases j.met j.call.moment j.call.limit with ⟨hin, -⟩ | ⟨-, heq⟩
    · omega
    · rw [heq]

theorem windowCount_roll_of_stays (hstay : ¬ j.Opens) (hlate : j.isEarly = false) :
    (j.met.roll j.call.moment j.call.limit).windowCount.toNat = j.countBefore := by
  cases hb : j.before with
  | none => exact absurd (opens_of_unknown hb) hstay
  | some c =>
    have hmet : j.met = { c with lastSeen := j.call.moment } := by rw [met, hb]; rfl
    have hin : j.call.moment ≤ c.windowStart + j.call.limit.window := by
      by_contra hover
      apply hstay
      intro c' hc'
      cases hb.symm.trans hc'
      exact ⟨hlate, Nat.lt_of_not_le hover⟩
    rcases Client.roll_cases j.met j.call.moment j.call.limit with ⟨-, heq⟩ | ⟨hover, -⟩
    · rw [heq, hmet, countBefore, hb]
      rfl
    · rw [hmet] at hover
      dsimp only at hover
      omega

namespace IsDue

theorem countAfter_of_opens (hj : j.IsDue) (h : j.Opens) : j.countAfter = 1 := by
  have hlate := (isTooSoon_met j).trans (not_isEarly_of_opens h)
  rw [countAfter, hj.after, Option.elim_some, (Client.judge_of_not_isTooSoon hlate).1,
    windowCount_roll_of_opens h]
  rfl

theorem countAfter_of_early (hj : j.IsDue) (hstay : ¬ j.Opens) (hearly : j.isEarly = true) :
    j.countAfter = j.countBefore := by
  have hsoon := (isTooSoon_met j).trans hearly
  rw [countAfter, hj.after, Client.judge_of_isTooSoon hsoon]
  cases hb : j.before with
  | none => exact absurd (opens_of_unknown hb) hstay
  | some c => simp [countBefore, met, hb]

theorem countAfter_of_late (hj : j.IsDue) (hstay : ¬ j.Opens) (hlate : j.isEarly = false) :
    j.countAfter = min (j.countBefore + 1) 4294967295 := by
  rw [countAfter, hj.after, Option.elim_some,
    (Client.judge_of_not_isTooSoon ((isTooSoon_met j).trans hlate)).1, Client.toNat_nextCount,
    windowCount_roll_of_stays hstay hlate]

theorem rateExceeded_iff (hj : j.IsDue) (hstay : ¬ j.Opens) : j.verdict = .rateExceeded ↔
    j.isEarly = true ∨
      j.call.limit.maxRequests.toNat < min (j.countBefore + 1) 4294967295 := by
  rw [hj.verdict]
  cases hearly : j.isEarly with
  | true =>
    rw [Client.judge_of_isTooSoon ((isTooSoon_met j).trans hearly)]
    simp
  | false =>
    rw [(Client.judge_of_not_isTooSoon ((isTooSoon_met j).trans hearly)).2,
      UInt32.lt_iff_toNat_lt, Client.toNat_nextCount, windowCount_roll_of_stays hstay hearly]
    simp

end IsDue

/-- What was known of the client before is what was known after its last request, or is lost. -/
def Precedes (j k : Judgement) : Prop := k.before = none ∨ k.before = j.after

theorem countBefore_of_precedes (h : j.Precedes k) (hstay : ¬ k.Opens) :
    k.countBefore = j.countAfter := by
  have heq : k.before = j.after := h.resolve_left fun hnone => hstay (opens_of_unknown hnone)
  rw [countBefore, countAfter, heq]

/-- While no window starts, the count goes up by one with each request that does not come too soon,
as far as it can. -/
theorem countBefore_of_isChain (hchain : (j :: (more ++ k :: todo)).IsChain Precedes)
    (hdue : ∀ i ∈ more, i.IsDue) (hstay : ∀ i ∈ more ++ [k], ¬ i.Opens)
    (hcount : j.countAfter = min n 4294967295) :
    k.countBefore = min (n + more.countP (!·.isEarly)) 4294967295 := by
  induction more generalizing j n with
  | nil =>
    obtain ⟨hnext, -⟩ := List.isChain_cons_cons.mp hchain
    rw [countBefore_of_precedes hnext (hstay k (by simp)), hcount]
    rfl
  | cons i more ih =>
    obtain ⟨hnext, hchain⟩ := List.isChain_cons_cons.mp hchain
    obtain ⟨hi, hdue⟩ := List.forall_mem_cons.mp hdue
    obtain ⟨histay, hstay⟩ := List.forall_mem_cons.mp hstay
    have hbefore := (countBefore_of_precedes hnext histay).trans hcount
    cases hearly : i.isEarly with
    | true =>
      have hafter := (hi.countAfter_of_early histay hearly).trans hbefore
      rw [ih hchain hdue hstay hafter, List.countP_cons_of_neg (by simp [hearly])]
    | false =>
      have hafter : i.countAfter = min (n + 1) 4294967295 := by
        rw [hi.countAfter_of_late histay hearly, hbefore]
        omega
      rw [ih hchain hdue hstay hafter, List.countP_cons_of_pos (by simp [hearly])]
      omega

end Judgement

namespace ClientTable

theorem isDue_of_mem_historyOf (h : t.WellFormed) (hj : j ∈ t.historyOf a calls) : j.IsDue := by
  induction calls generalizing t with
  | nil => cases hj
  | cons d calls ih =>
    have hnext := wellFormed_next h d
    by_cases ha : d.client = a
    · subst ha
      rw [historyOf_cons_self] at hj
      rcases List.mem_cons.mp hj with rfl | hj
      · exact ⟨congrArg Prod.fst (judge_eq h ..), find?_judge_self h ..⟩
      · exact ih hnext hj
    · rw [historyOf_cons_of_ne ha] at hj
      exact ih hnext hj

theorem before_of_mem_head?_historyOf (h : t.WellFormed)
    (hj : j ∈ (t.historyOf a calls).head?) : j.before = none ∨ j.before = t.find? a := by
  induction calls generalizing t with
  | nil => cases hj
  | cons d calls ih =>
    by_cases ha : d.client = a
    · subst ha
      rw [historyOf_cons_self] at hj
      cases hj
      exact Or.inr rfl
    · rw [historyOf_cons_of_ne ha] at hj
      rcases ih (wellFormed_next h d) hj with hnone | heq
      · exact Or.inl hnone
      · cases hc : (t.next d).find? a with
        | none => exact Or.inl (heq.trans hc)
        | some c =>
          rw [hc] at heq
          exact Or.inr (heq.trans (find?_judge_of_ne h (Ne.symm ha) hc).symm)

/-- Between two requests of a client its entry stays as it is, or is lost to others. -/
theorem isChain_historyOf (h : t.WellFormed) (a : Address) (calls : List Call) :
    (t.historyOf a calls).IsChain Judgement.Precedes := by
  induction calls generalizing t with
  | nil => exact .nil
  | cons d calls ih =>
    have hnext := wellFormed_next h d
    by_cases ha : d.client = a
    · subst ha
      rw [historyOf_cons_self, List.isChain_cons]
      refine ⟨?_, ih hnext⟩
      intro k hk
      exact before_of_mem_head?_historyOf hnext hk
    · rw [historyOf_cons_of_ne ha]
      exact ih hnext

/-- A window starts, and no other one starts up to some request. Then this request is refused just if
it comes too soon, or if so many requests as the limit allows have come in the window before it,
those not counted that came too soon. A limit as high as the count can get is never passed. -/
theorem rateExceeded_iff_of_window {capacity : Nat} {first : Judgement} {done : List Judgement}
    (hsplit : (empty capacity).historyOf a calls = done ++ first :: (more ++ j :: todo))
    (hopens : first.Opens) (hstay : ∀ k ∈ more ++ [j], ¬ k.Opens) :
    j.verdict = .rateExceeded ↔ j.isEarly = true ∨
      (j.call.limit.maxRequests < 4294967295 ∧
        j.call.limit.maxRequests.toNat ≤ (first :: more).countP (!·.isEarly)) := by
  have h := wellFormed_empty capacity
  have hdue : ∀ i ∈ first :: (more ++ j :: todo), i.IsDue := by
    intro i hi
    apply isDue_of_mem_historyOf h (a := a)
    rw [hsplit]
    exact List.mem_append_right done hi
  have hchain := isChain_historyOf h a calls
  rw [hsplit] at hchain
  have hfirst : first.countAfter = min 1 4294967295 :=
    (hdue first List.mem_cons_self).countAfter_of_opens hopens
  have hcount := Judgement.countBefore_of_isChain hchain.right_of_append
    (fun i hi => hdue i (by simp [hi])) hstay hfirst
  have hcounted : (first :: more).countP (!·.isEarly) = more.countP (!·.isEarly) + 1 :=
    List.countP_cons_of_pos (by simp [Judgement.not_isEarly_of_opens hopens])
  rw [(hdue j (by simp)).rateExceeded_iff (hstay j (by simp)), hcount, hcounted,
    UInt32.lt_iff_toNat_lt]
  apply or_congr Iff.rfl
  change _ ↔ j.call.limit.maxRequests.toNat < 4294967295 ∧ _
  omega

/-- Requests of one client, of which two are served in 60 seconds, at least 2 seconds apart. -/
def impatient : List Call :=
  [0, 1000000000, 2000000000, 5000000000].map fun now =>
    ⟨.v4 1#32, now, ⟨2, 60000000000, 2000000000⟩⟩

/-- The fourth request is one too many, as only one of the three before it came too soon. -/
theorem rateExceeded_iff_of_window_impatient :
    let js := (empty 16).historyOf (.v4 1#32) impatient
    js.map (·.isEarly) = [false, true, false, false] ∧
    ∃ j, js = js.take 3 ++ [j] ∧ j.verdict = .rateExceeded := by
  intro js
  refine ⟨by decide, js[3], by decide, ?_⟩
  have hsplit : js = [] ++ js[0] :: ([js[1], js[2]] ++ js[3] :: []) := by decide
  exact (rateExceeded_iff_of_window hsplit (by decide) (by decide)).mpr
    (Or.inr ⟨by decide, by decide⟩)

/-- Two requests have come in the window before the third, which is served all the same, as the
second of them was refused for coming too soon. -/
theorem allow_after_uncounted :
    let js := (empty 16).historyOf (.v4 1#32) impatient
    (∀ d ∈ impatient, d.limit.maxRequests = 2 ∧ d.moment ≤ d.limit.window) ∧
    js.map (·.window) = [0, 0, 0, 0] ∧
    js.map (·.verdict) = [.allow, .rateExceeded, .allow, .rateExceeded] := by
  intro js
  exact ⟨by decide, by decide, by decide⟩

end ClientTable
end NetworkTime
