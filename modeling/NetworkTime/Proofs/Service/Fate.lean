import NetworkTime.Proofs.Service.Answer

/-! What a datagram comes to, whatever the times in an answer to it are. -/

namespace NetworkTime
open Wire Header
variable {κ : Type} {s : Service κ} {a : Arrival} {request : Packet} {fault : RequestFault}
  {k : Kiss}

/-- A datagram is dropped, or its client is turned away or told the time. -/
inductive Fate
  | dropped (reason : DropReason)
  | refused (k : Kiss)
  | served
deriving DecidableEq, Repr

/-- What a client is not charged for: a datagram that is dropped, or refused by the lists. -/
def Fate.isFree : Fate → Bool
  | dropped _ | refused .deny | refused .restrict => true
  | refused .rate | served => false

theorem Request.spec_of_ok {datagram : Bytes} (h : ofDatagram datagram = .ok request) :
    48 ≤ datagram.length ∧ KeepsRules datagram ∧ request = decode datagram := by
  rcases ofDatagram_cases datagram with ⟨-, hd⟩ | ⟨-, -, vs, -, hd⟩ | ⟨-, -, -, hd⟩ |
    ⟨hl, hk, -, hd⟩
  · cases hd.symm.trans h
  · cases hd.symm.trans h
  · cases hd.symm.trans h
  · exact ⟨hl, hk, (Except.ok.inj (hd.symm.trans h)).symm⟩

namespace Service

theorem judged_congr {s s' : Service κ} (hlimit : s'.rateLimit = s.rateLimit)
    (hclients : s'.clients = s.clients) (client : Address) (moment : Nat) :
    (s'.judged client moment).1 = (s.judged client moment).1 ∧
      (s'.judged client moment).2.clients = (s.judged client moment).2.clients := by
  unfold judged
  rw [hlimit, hclients]
  cases s.rateLimit with
  | none => exact ⟨rfl, hclients⟩
  | some limit => exact ⟨rfl, rfl⟩

/-- Lists, rate and table decide on a client at a moment, and nothing else does. -/
theorem refusal_congr {s s' : Service κ} {a b : Arrival} (haccess : s'.access = s.access)
    (hlimit : s'.rateLimit = s.rateLimit) (hclients : s'.clients = s.clients)
    (hclient : b.client = a.client) (hmoment : b.moment = a.moment) :
    s'.refusal? b = s.refusal? a := by
  have hverdict := (judged_congr hlimit hclients a.client a.moment).1
  rw [refusal?, refusal?, haccess, hclient, hmoment, hverdict]

theorem settled_clients_congr {s s' : Service κ} {a b : Arrival} (haccess : s'.access = s.access)
    (hlimit : s'.rateLimit = s.rateLimit) (hclients : s'.clients = s.clients)
    (hclient : b.client = a.client) (hmoment : b.moment = a.moment) :
    (s'.settled b).clients = (s.settled a).clients := by
  have hjudged := (judged_congr hlimit hclients a.client a.moment).2
  rw [settled, settled, haccess, hclient, hmoment]
  split
  · exact hclients
  · exact hjudged

/-- A client that the lists turn away is not looked up in the table. -/
theorem settled_of_isFree (h : s.refusal? a = some k) (hfree : (Fate.refused k).isFree = true) :
    s.settled a = s := by
  cases hk : (s.access.check a.client).kiss? with
  | some k' => simp only [settled, hk]
  | none =>
    rw [refusal?, hk] at h
    dsimp only at h
    split at h
    · cases h
      cases hfree
    · cases h

variable [Clock κ]

def fate (s : Service κ) (a : Arrival) : Fate :=
  match (s.handle a).outcome with
  | .drop reason => .dropped reason
  | .respond _ => (s.refusal? a).elim .served .refused

/-- What the sender of a datagram sees of its fate. -/
def Shows (s : Service κ) (a : Arrival) : Fate → Prop
  | .dropped reason => (s.handle a).outcome = .drop reason
  | .refused k => ∃ answer p, (s.handle a).outcome = .respond answer ∧
      Packet.parse answer = .ok p ∧ IsKiss k a.bytes p
  | .served => ∃ answer p, (s.handle a).outcome = .respond answer ∧
      Packet.parse answer = .ok p ∧ IsAnswer s.state a.received p

theorem handle_outcome_of_ok (h : Request.ofDatagram a.bytes = .ok request) :
    (s.handle a).outcome = .respond
      (Packet.serialize { s.reply request a with transmitTime := (Clock.now s.clock).1 }) := by
  rw [handle_of_ok h, answered_outcome, reply_count, count_clock]

theorem fate_of_error (h : Request.ofDatagram a.bytes = .error fault) :
    s.fate a = .dropped fault.dropReason := by
  rw [fate, handle_of_error h]

theorem fate_of_ok (h : Request.ofDatagram a.bytes = .ok request) :
    s.fate a = (s.refusal? a).elim .served .refused := by
  rw [fate, handle_outcome_of_ok h]

theorem fate_of_refusal (h : Request.ofDatagram a.bytes = .ok request)
    (hk : s.refusal? a = some k) : s.fate a = .refused k := by
  rw [fate_of_ok h, hk]
  rfl

theorem fate_of_no_refusal (h : Request.ofDatagram a.bytes = .ok request)
    (hk : s.refusal? a = none) : s.fate a = .served := by
  rw [fate_of_ok h, hk]
  rfl

theorem outcome_of_refusal (h : Request.ofDatagram a.bytes = .ok request)
    (hk : s.refusal? a = some k) : (s.handle a).outcome = .respond (Packet.serialize
      { Response.kiss request k with transmitTime := (Clock.now s.clock).1 }) := by
  rw [handle_outcome_of_ok h, reply, hk]

theorem outcome_of_no_refusal (h : Request.ofDatagram a.bytes = .ok request)
    (hk : s.refusal? a = none) : (s.handle a).outcome = .respond (Packet.serialize
      { Response.answer request s.state a.received with transmitTime := (Clock.now s.clock).1 }) := by
  rw [handle_outcome_of_ok h, reply, hk]

theorem shows_fate (s : Service κ) (a : Arrival) : s.Shows a (s.fate a) := by
  cases h : Request.ofDatagram a.bytes with
  | error fault =>
    rw [fate_of_error h]
    exact handle_of_error h
  | ok request =>
    have houtcome := handle_outcome_of_ok (s := s) h
    have hparse := Packet.parse_serialize
      { s.reply request a with transmitTime := (Clock.now s.clock).1 }
    obtain ⟨-, -, rfl⟩ := Request.spec_of_ok h
    cases hk : s.refusal? a with
    | some k =>
      rw [fate_of_refusal h hk]
      exact ⟨_, _, houtcome, hparse, isKiss_reply _ hk⟩
    | none =>
      rw [fate_of_no_refusal h hk]
      exact ⟨_, _, houtcome, hparse, isAnswer_reply _ hk⟩

theorem clients_of_error (h : Request.ofDatagram a.bytes = .error fault) :
    (s.handle a).service.clients = s.clients := by
  rw [handle_service_of_error h, count_clients, count_clients]

theorem clients_of_ok (h : Request.ofDatagram a.bytes = .ok request) :
    (s.handle a).service.clients = (s.settled a).clients := by
  rw [handle_of_ok h, answered_clients]
  exact settled_clients_congr rfl rfl rfl rfl rfl

/-- A datagram that its sender is not charged for leaves the table as it is. -/
theorem clients_of_isFree (h : (s.fate a).isFree = true) :
    (s.handle a).service.clients = s.clients := by
  cases hd : Request.ofDatagram a.bytes with
  | error fault => exact clients_of_error hd
  | ok request =>
    rw [clients_of_ok hd]
    cases hk : s.refusal? a with
    | none =>
      rw [fate_of_no_refusal hd hk] at h
      cases h
    | some k =>
      rw [fate_of_refusal hd hk] at h
      rw [settled_of_isFree hk h]

/-- The time, the state and the counters of a server have no part in the fate of a datagram, nor in
what it changes in the table. -/
theorem fate_congr {s s' : Service κ} {a b : Arrival} (haccess : s'.access = s.access)
    (hlimit : s'.rateLimit = s.rateLimit) (hclients : s'.clients = s.clients)
    (hbytes : b.bytes = a.bytes) (hclient : b.client = a.client) (hmoment : b.moment = a.moment) :
    s'.fate b = s.fate a ∧ (s'.handle b).service.clients = (s.handle a).service.clients := by
  cases ha : Request.ofDatagram a.bytes with
  | error fault =>
    have hb : Request.ofDatagram b.bytes = .error fault := by rw [hbytes, ha]
    rw [fate_of_error ha, fate_of_error hb, clients_of_error ha, clients_of_error hb]
    exact ⟨rfl, hclients⟩
  | ok request =>
    have hb : Request.ofDatagram b.bytes = .ok request := by rw [hbytes, ha]
    rw [fate_of_ok ha, fate_of_ok hb, clients_of_ok ha, clients_of_ok hb,
      refusal_congr haccess hlimit hclients hclient hmoment]
    exact ⟨rfl, settled_clients_congr haccess hlimit hclients hclient hmoment⟩

end Service
end NetworkTime
