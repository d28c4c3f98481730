import Mathlib.Data.List.Chain
import NetworkTime.Proofs.ClientTable.Run

/-! What becomes of the requests of one client. On a table that keeps its entry, it is what would
become of them if there were no other clients. -/

namespace NetworkTime

/-- A request that was judged, with the entry of its client before and after. -/
structure Judgement where
  call : Call
  verdict : Verdict
  before : Option Client
  after : Option Client
deriving DecidableEq, Repr

namespace Judgement

/-- The start of the window in which a request was judged. -/
def window (j : Judgement) : Nat := j.after.elim 0 Client.windowStart

/-- The request started a new window of a client that was known already. -/
def Resets (j : Judgement) : Prop :=
  ∃ c c', j.before = some c ∧ j.after = some c' ∧ c'.windowStart ≠ c.windowStart

def IsAllowed (j : Judgement) : Prop := j.verdict = .allow

instance (j : Judgement) : Decidable j.IsAllowed := inferInstanceAs (Decidable (_ = _))

end Judgement

variable {t : ClientTable} {a : Address} {c : Client} {known : Option Client} {d : Call}
  {calls : List Call} {j k : Judgement}

namespace Client

/-- The judgements on requests of a single client. -/
def history (known : Option Client) : List Call → List Judgement
  | [] => []
  | d :: calls =>
    let (verdict, c) := visit known d.moment d.limit
    ⟨d, verdict, known, some c⟩ :: history (some c) calls

theorem history_cons (known : Option Client) (d : Call) (calls : List Call) :
    history known (d :: calls) =
      ⟨d, (visit known d.moment d.limit).1, known, some (visit known d.moment d.limit).2⟩ ::
        history (some (visit known d.moment d.limit).2) calls := rfl

/-- From one request to the next the window of a client stays, unless it is reset. -/
theorem isChain_history (known : Option Client) (calls : List Call) :
    (history known calls).IsChain fun j k => k.Resets ∨ k.window = j.window := by
  induction calls generalizing known with
  | nil => exact .nil
  | cons d calls ih =>
    rw [history_cons]
    generalize visit known d.moment d.limit = r
    cases calls with
    | nil => exact .singleton _
    | cons d' calls =>
      have htail := ih (some r.2)
      rw [history_cons] at htail ⊢
      refine List.isChain_cons_cons.mpr ⟨?_, htail⟩
      by_cases hw : (visit (some r.2) d'.moment d'.limit).2.windowStart = r.2.windowStart
      · exact Or.inr hw
      · exact Or.inl ⟨_, _, rfl, rfl, hw⟩

end Client

theorem window_eq_of_not_resets {js : List Judgement}
    (hchain : (j :: js).IsChain fun j k => k.Resets ∨ k.window = j.window)
    (hkept : ∀ k ∈ js, ¬ k.Resets) (hk : k ∈ js) : k.window = j.window := by
  induction js generalizing j with
  | nil => cases hk
  | cons k' js ih =>
    obtain ⟨hrel, htail⟩ := List.isChain_cons_cons.mp hchain
    have hw : k'.window = j.window := hrel.resolve_left (hkept k' List.mem_cons_self)
    rcases List.mem_cons.mp hk with rfl | hk
    · exact hw
    · exact (ih htail (fun l hl => hkept l (List.mem_cons_of_mem k' hl)) hk).trans hw

namespace ClientTable

/-- The judgements on a run of requests. -/
def history (t : ClientTable) : List Call → List Judgement
  | [] => []
  | d :: calls =>
    ⟨d, (t.judge d.client d.moment d.limit).1, t.find? d.client, (t.next d).find? d.client⟩ ::
      (t.next d).history calls

/-- The judgements on the requests of one client among others. -/
def historyOf (t : ClientTable) (a : Address) (calls : List Call) : List Judgement :=
  (t.history calls).filter (·.call.client = a)

theorem historyOf_cons_self (t : ClientTable) (d : Call) (calls : List Call) :
    t.historyOf d.client (d :: calls) =
      ⟨d, (t.judge d.client d.moment d.limit).1, t.find? d.client, (t.next d).find? d.client⟩ ::
        (t.next d).historyOf d.client calls :=
  List.filter_cons_of_pos (by simp)

theorem historyOf_cons_of_ne {d : Call} (h : d.client ≠ a) (t : ClientTable)
    (calls : List Call) : t.historyOf a (d :: calls) = (t.next d).historyOf a calls :=
  List.filter_cons_of_neg (by simpa using h)

/-- No request of the run takes the entry of the client. -/
def Keeps (t : ClientTable) (a : Address) : List Call → Prop
  | [] => True
  | d :: calls =>
    (t.contains a = true → (t.next d).contains a = true) ∧ (t.next d).Keeps a calls

instance decidableKeeps (a : Address) :
    (t : ClientTable) → (calls : List Call) → Decidable (t.Keeps a calls)
  | _, [] => isTrue trivial
  | t, d :: calls =>
    have := decidableKeeps a (t.next d) calls
    inferInstanceAs (Decidable (_ ∧ _))

theorem find?_next_of_kept (h : t.WellFormed) (hne : d.client ≠ a)
    (hkept : t.contains a = true → (t.next d).contains a = true) :
    (t.next d).find? a = t.find? a := by
  cases hc : (t.next d).find? a with
  | some c => exact (find?_judge_of_ne h hne.symm hc).symm
  | none =>
    symm
    rw [find?_eq_none_iff] at hc ⊢
    by_contra hcontains
    rw [hkept (by simpa using hcontains)] at hc
    cases hc

/-- Other clients do not matter to one whose entry the table keeps. -/
theorem historyOf_eq_history (h : t.WellFormed) (hkeeps : t.Keeps a calls) :
    t.historyOf a calls = Client.history (t.find? a) (calls.filter (·.client = a)) := by
  induction calls generalizing t with
  | nil => rfl
  | cons d calls ih =>
    obtain ⟨hkept, hrest⟩ := hkeeps
    have htail := ih (wellFormed_next h d) hrest
    by_cases ha : d.client = a
    · subst ha
      have hself : (t.next d).find? d.client =
          some (Client.visit (t.find? d.client) d.moment d.limit).2 := find?_judge_self h ..
      rw [historyOf_cons_self, List.filter_cons_of_pos (by simp), htail, Client.history_cons,
        hself, judge_eq h]
    · rw [historyOf_cons_of_ne ha, List.filter_cons_of_neg (by simpa using ha), htail,
        find?_next_of_kept h ha hkept]

end ClientTable
end NetworkTime
