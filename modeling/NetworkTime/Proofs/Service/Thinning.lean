import Mathlib.Data.List.Forall2
import NetworkTime.Proofs.Service.Fate

/-! Datagrams that are dropped, or refused by the lists, might as well not have come: nobody else is
treated otherwise if they are taken out of a run. -/

namespace NetworkTime
variable {κ : Type}

/-- What the treatment of a client hangs on: the lists, the rate and the table. -/
structure Gate where
  access : AccessControl
  rateLimit : Option RateLimit
  clients : ClientTable
deriving DecidableEq

/-- A datagram that comes to a gate, with everything else that its handler is given. -/
structure Turn (κ : Type) where
  arrival : Arrival
  state : SystemState
  clock : κ
  metrics : Option Metrics

/-- The same datagram of the same client at the same moment, while the time, the state and the
counters of the server may be others. -/
structure Turn.Alike (t u : Turn κ) : Prop where
  bytes : u.arrival.bytes = t.arrival.bytes
  client : u.arrival.client = t.arrival.client
  moment : u.arrival.moment = t.arrival.moment

/-- The second run is the first without some datagrams that their senders are not charged for. -/
inductive Thinned : List (Turn κ × Fate) → List (Turn κ × Fate) → Prop
  | nil : Thinned [] []
  | keep (t : Turn κ × Fate) {ts us : List (Turn κ × Fate)} :
      Thinned ts us → Thinned (t :: ts) (t :: us)
  | skip {t : Turn κ × Fate} {ts us : List (Turn κ × Fate)} :
      t.2.isFree = true → Thinned ts us → Thinned (t :: ts) us

namespace Gate
variable {g : Gate} {t u : Turn κ} {ts us : List (Turn κ)} {kept : List (Turn κ × Fate)}

def service (g : Gate) (t : Turn κ) : Service κ where
  state := t.state
  access := g.access
  rateLimit := g.rateLimit
  clients := g.clients
  clock := t.clock
  metrics := t.metrics

variable [Clock κ]

def fate (g : Gate) (t : Turn κ) : Fate := (g.service t).fate t.arrival

/-- The gate after a datagram. -/
def next (g : Gate) (t : Turn κ) : Gate :=
  { g with clients := ((g.service t).handle t.arrival).service.clients }

/-- The gate after a run of datagrams. -/
def after (g : Gate) (ts : List (Turn κ)) : Gate := ts.foldl next g

/-- The datagrams of a run, each with its fate. -/
def history (g : Gate) : List (Turn κ) → List (Turn κ × Fate)
  | [] => []
  | t :: ts => (t, g.fate t) :: (g.next t).history ts

theorem next_of_isFree (h : (g.fate t).isFree = true) : g.next t = g := by
  rw [next, Service.clients_of_isFree h]
  rfl

theorem alike_congr (h : t.Alike u) : g.fate u = g.fate t ∧ g.next u = g.next t := by
  have hservice : g.fate u = g.fate t ∧ ((g.service u).handle u.arrival).service.clients =
      ((g.service t).handle t.arrival).service.clients :=
    Service.fate_congr rfl rfl rfl h.bytes h.client h.moment
  exact ⟨hservice.1, by rw [next, next, hservice.2]⟩

theorem history_cons (g : Gate) (t : Turn κ) (ts : List (Turn κ)) :
    g.history (t :: ts) = (t, g.fate t) :: (g.next t).history ts := rfl

theorem after_cons (g : Gate) (t : Turn κ) (ts : List (Turn κ)) :
    g.after (t :: ts) = (g.next t).after ts := rfl

theorem history_after_of_thinned (hthinned : Thinned (g.history ts) kept)
    (halike : List.Forall₂ Turn.Alike (kept.map Prod.fst) us) :
    (g.history us).map Prod.snd = kept.map Prod.snd ∧ g.after us = g.after ts := by
  -- The gate is the same before each datagram of the two runs: one that is left out of the second
  -- does not move it in the first.
  induction ts generalizing g kept us with
  | nil =>
    cases hthinned
    cases halike
    exact ⟨rfl, rfl⟩
  | cons t ts ih =>
    rw [history_cons] at hthinned
    cases hthinned with
    | keep _ hrest =>
      cases halike with
      | @cons _ u _ us ht halike =>
        obtain ⟨hfate, hnext⟩ := alike_congr (g := g) ht
        obtain ⟨hfates, hafter⟩ := ih hrest halike
        constructor
        · rw [history_cons, List.map_cons, List.map_cons, hfate, hnext, hfates]
        · rw [after_cons, after_cons, hnext, hafter]
    | skip hfree hrest =>
      have hnext : g.next t = g := next_of_isFree hfree
      rw [hnext] at hrest
      rw [after_cons, hnext]
      exact ih hrest halike

/-- If datagrams that are dropped or refused by the lists are taken out of a run, the same becomes
of each of the others, and the table ends the same. A fate is what the sender sees, and no datagram
that its sender is not charged for changes the table at all. -/
theorem fates_of_thinned (hthinned : Thinned (g.history ts) kept)
    (halike : List.Forall₂ Turn.Alike (kept.map Prod.fst) us) :
    (g.history us).map Prod.snd = kept.map Prod.snd ∧ g.after us = g.after ts ∧
    ∀ (g' : Gate) (t : Turn κ), (g'.service t).Shows t.arrival (g'.fate t) ∧
      ((g'.fate t).isFree = true → g'.next t = g') := by
  obtain ⟨hfates, hafter⟩ := history_after_of_thinned hthinned halike
  refine ⟨hfates, hafter, ?_⟩
  intro g' t
  exact ⟨Service.shows_fate _ _, next_of_isFree⟩

/-- One client is denied, and there is room for another. -/
def narrow : Gate where
  access := { deny := some [.host (.v4 0xC0000209#32)] }
  rateLimit := some {}
  clients := .empty 1

/-- A client asks at a moment, of a server that stands at the same time. -/
def asks (client : Address) (moment : Nat) (bytes : Bytes) : Turn ManualClock where
  arrival := ⟨bytes, client, ⟨5, 0⟩, moment⟩
  state := {}
  clock := ⟨0x500000000, 1⟩
  metrics := none

/-- If the denied client were looked up, it would take the place of the other one, which could then
come back too soon. -/
theorem fates_of_thinned_narrow :
    let request := Packet.serialize { poll := 6 }
    let client : Address := .v4 0xC0000201#32
    let first := asks client 0 request
    let denied := asks (.v4 0xC0000209#32) 1 request
    let torn := asks (.v4 0xC0000202#32) 2 [0]
    let again := asks client 3 request
    let later := { again with state := { stratum := 1 }, clock := ⟨0x600000000, 2⟩ }
    (narrow.history [first, denied, torn, again]).map Prod.snd =
      [.served, .refused .deny, .dropped .tooShort, .refused .rate] ∧
    (narrow.history [first, later]).map Prod.snd = [.served, .refused .rate] ∧
    narrow.after [first, later] = narrow.after [first, denied, torn, again] := by
  intro request client first denied torn again later
  have hfates : (narrow.history [first, denied, torn, again]).map Prod.snd =
      [.served, .refused .deny, .dropped .tooShort, .refused .rate] := by
    decide +kernel
  have hhistory : narrow.history [first, denied, torn, again] = [(first, .served),
      (denied, .refused .deny), (torn, .dropped .tooShort), (again, .refused .rate)] := by
    simp only [history_cons, List.map_cons, List.cons.injEq] at hfates ⊢
    simp only [hfates, true_and]
    rfl
  have hthinned : Thinned (narrow.history [first, denied, torn, again])
      [(first, .served), (again, .refused .rate)] := by
    rw [hhistory]
    exact .keep _ (.skip rfl (.skip rfl (.keep _ .nil)))
  have halike : List.Forall₂ Turn.Alike [first, again] [first, later] :=
    .cons ⟨rfl, rfl, rfl⟩ (.cons ⟨rfl, rfl, rfl⟩ .nil)
  obtain ⟨hkept, hafter, -⟩ := fates_of_thinned hthinned halike
  exact ⟨hfates, hkept, hafter⟩

end Gate
end NetworkTime
