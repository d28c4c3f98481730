import Mathlib.Algebra.GroupWithZero.Nat
import NetworkTime.Plan
import NetworkTime.Proofs.Service.Reception

/-! The counters of a server at work tell what became of its datagrams, up to multiples of 2^64. -/

namespace NetworkTime
variable {κ : Type} {m : Metrics} {n : Nat}

namespace Metrics

@[simp] theorem activeClients_countRequest : m.countRequest.activeClients = m.activeClients := rfl

@[simp] theorem activeClients_countBytesReceived :
    (m.countBytesReceived n).activeClients = m.activeClients := rfl

@[simp] theorem activeClients_countDrop (reason : DropReason) :
    (m.countDrop reason).activeClients = m.activeClients := by
  cases reason <;> rfl

theorem setActiveClients_self (h : m.activeClients = .ofNat n) : m.setActiveClients n = m := by
  rw [setActiveClients, ← h]

theorem countRefusal_setActiveClients (k? : Option Kiss) :
    (m.setActiveClients n).countRefusal k? = (m.countRefusal k?).setActiveClients n := by
  rcases k? with _ | _ | _ | _ <;> rfl

end Metrics

/-- The gauge of clients follows the table. While the rate is not limited neither of them moves. -/
theorem Service.settled_metrics {s : Service κ} {a : Arrival} (hm : s.metrics = some m)
    (hgauge : m.activeClients = .ofNat s.clients.size) :
    (s.settled a).metrics = some (m.setActiveClients (s.settled a).clients.size) := by
  unfold settled
  split
  · rw [hm, Metrics.setActiveClients_self hgauge]
  · cases hr : s.rateLimit with
    -- The gauge is not set here: it is right because it was right before.
    | none => simp [judged, hr, hm, Metrics.setActiveClients_self hgauge]
    | some limit => simp [judged, hr, hm]

theorem Reception.countAnswer_setActiveClients (r : Reception κ) (bytes : Nat) :
    r.countAnswer bytes (m.setActiveClients n) = (r.countAnswer bytes m).setActiveClients n := by
  unfold countAnswer
  split <;> rfl

variable [Clock κ]

namespace Reception
variable {r : Reception κ}

/-- What a datagram adds to the counters. -/
def countIn (r : Reception κ) (m : Metrics) : Metrics :=
  let m := (m.countBytesReceived (min r.datagram.length receiveLimit)).countRequest
  match r.outcome with
  | .drop reason => m.countDrop reason
  | .respond _ => r.countAnswer 48 (m.countRefusal r.kiss?)

theorem countIn_of_drop {reason : DropReason} (h : r.outcome = .drop reason) :
    r.countIn m =
      ((m.countBytesReceived (min r.datagram.length receiveLimit)).countRequest).countDrop
        reason := by
  simp only [countIn, h]

theorem countIn_of_isAnswered (h : r.isAnswered = true) :
    r.countIn m = r.countAnswer 48
      (((m.countBytesReceived (min r.datagram.length receiveLimit)).countRequest).countRefusal
        r.kiss?) := by
  cases ho : r.outcome with
  | drop reason => simp [isAnswered_of_drop ho] at h
  | respond answer => simp only [countIn, ho]

theorem prepared_metrics (hm : r.before.metrics = some m) :
    r.prepared.metrics = some (m.countBytesReceived (min r.datagram.length receiveLimit)) := by
  simp [prepared, arrival, hm, Nat.min_comm]

/-- A datagram adds its share to the counters and leaves the gauge at the size of the table. -/
theorem after_metrics (hm : r.before.metrics = some m)
    (hgauge : m.activeClients = .ofNat r.before.clients.size) :
    r.after.metrics = some ((r.countIn m).setActiveClients r.after.clients.size) := by
  have hcounted : (r.prepared.count (·.countRequest)).metrics =
      some ((m.countBytesReceived (min r.datagram.length receiveLimit)).countRequest) := by
    rw [Service.count_metrics, prepared_metrics hm]
    rfl
  cases hd : Request.ofDatagram r.arrival.bytes with
  | error fault =>
    obtain ⟨houtcome, hafter⟩ := of_error hd
    have hclients : r.after.clients = r.before.clients := by
      rw [hafter]
      rfl
    have hmetrics : r.after.metrics = some (r.countIn m) := by
      rw [hafter, Service.count_metrics, hcounted, countIn_of_drop houtcome]
      rfl
    rw [hmetrics, hclients, Metrics.setActiveClients_self]
    simpa [countIn_of_drop houtcome] using hgauge
  | ok request =>
    obtain ⟨hanswered, hafter⟩ := of_ok hd
    have hkiss : r.kiss? = r.before.refusal? r.arrival := by simp [kiss?, hanswered]
    have hclients : r.after.clients =
        ((r.prepared.count (·.countRequest)).settled r.arrival).clients := by
      rw [hafter, Service.count_clients, Service.answered_clients]
    rw [hclients, hafter, Service.count_metrics, Service.answered_metrics,
      Service.settled_metrics hcounted hgauge, countIn_of_isAnswered hanswered, hkiss]
    simp [Metrics.countRefusal_setActiveClients, countAnswer_setActiveClients]

end Reception

namespace Metrics
variable (rs : List (Reception κ))

/-- The counters that belong to the datagrams so far and to a table of some size. -/
def tally (rs : List (Reception κ)) (clients : Nat) : Metrics where
  requestsReceived := .ofNat rs.length
  responsesSent := .ofNat (rs.countP (·.isSent))
  requestsDropped := .ofNat (rs.countP (!·.isAnswered))
  droppedTooShort := .ofNat (rs.countP (·.outcome = .drop .tooShort))
  droppedInvalid := .ofNat (rs.countP (·.outcome = .drop .invalid))
  droppedNotClient := .ofNat (rs.countP (·.outcome = .drop .notClientRequest))
  kissDenySent := .ofNat (rs.countP (·.kiss? = some .deny))
  kissRestrictSent := .ofNat (rs.countP (·.kiss? = some .restrict))
  kissRateSent := .ofNat (rs.countP (·.kiss? = some .rate))
  bytesReceived := .ofNat (rs.map fun r => min r.datagram.length receiveLimit).sum
  bytesSent := .ofNat (48 * rs.countP (·.isSent))
  sendErrors := .ofNat (rs.countP (·.isLost))
  activeClients := .ofNat clients

theorem tally_append (r : Reception κ) (n n' : Nat) :
    tally (rs ++ [r]) n' = (r.countIn (tally rs n)).setActiveClients n' := by
  cases ho : r.outcome with
  | drop reason =>
    have hanswered := Reception.isAnswered_of_drop ho
    rw [Reception.countIn_of_drop ho]
    cases reason <;>
      simp [tally, Reception.isSent, Reception.isLost, Reception.kiss?, ho, hanswered,
        UInt64.ofNat_add, setActiveClients, countDrop, countRequest, countBytesReceived]
  | respond answer =>
    have hanswered := Reception.isAnswered_of_respond ho
    rw [Reception.countIn_of_isAnswered hanswered]
    cases hf : r.failure <;> rcases hk : r.kiss? with _ | _ | _ | _ <;>
      simp [tally, Reception.isSent, Reception.isLost, Reception.countAnswer, ho, hanswered, hf,
        hk, UInt64.ofNat_add, Nat.mul_add, setActiveClients, countRefusal, countKiss,
        countRequest, countBytesReceived, countResponse, countSendError]

/-- The counters agree with each other: every drop has its reason, every request is dropped,
answered or lost on the way out, and every answer is a header. -/
structure Balanced (m : Metrics) : Prop where
  drops : m.requestsDropped = m.droppedTooShort + m.droppedInvalid + m.droppedNotClient
  requests : m.requestsReceived = m.requestsDropped + m.responsesSent + m.sendErrors
  bytes : m.bytesSent = 48 * m.responsesSent

theorem countP_dropped : rs.countP (!·.isAnswered) =
    rs.countP (·.outcome = .drop .tooShort) + rs.countP (·.outcome = .drop .invalid) +
      rs.countP (·.outcome = .drop .notClientRequest) := by
  induction rs with
  | nil => rfl
  | cons r rs ih =>
    simp only [List.countP_cons, ih]
    cases ho : r.outcome with
    | respond answer => simp [Reception.isAnswered_of_respond ho]
    | drop reason =>
      cases reason <;> simp [Reception.isAnswered_of_drop ho] <;> omega

theorem length_eq_countP : rs.length =
    rs.countP (!·.isAnswered) + rs.countP (·.isSent) + rs.countP (·.isLost) := by
  induction rs with
  | nil => rfl
  | cons r rs ih =>
    simp only [List.length_cons, List.countP_cons, Reception.isSent, Reception.isLost] at ih ⊢
    cases r.isAnswered <;> cases r.failure <;> simp <;> omega

theorem balanced_tally : (tally rs n).Balanced where
  drops := by simp only [tally, countP_dropped, UInt64.ofNat_add]
  requests := by
    rw [tally, length_eq_countP, UInt64.ofNat_add, UInt64.ofNat_add]
  bytes := UInt64.ofNat_mul ..

end Metrics

namespace Service
variable {s : Service κ}

/-- Only datagrams are counted. -/
theorem step_metrics (rs : List (Reception κ)) (e : Session.Event κ)
    (h : s.metrics = some (.tally rs s.clients.size)) :
    (s.step e).2.metrics =
      some (.tally (rs ++ (s.reception? e).toList) (s.step e).2.clients.size) := by
  cases e with
  | datagram bytes sender moment failure =>
    have hafter := Reception.after_metrics (r := ⟨s, bytes, sender, moment, failure⟩) h rfl
    exact hafter.trans (congrArg some (Metrics.tally_append rs _ s.clients.size _).symm)
  | setState state => simpa [reception?, step] using h
  | setClock clock => simpa [reception?, step] using h
  | setAccess access => simpa [reception?, step] using h
  | setRateLimit limit => simpa [reception?, step] using h

theorem run_metrics (rs : List (Reception κ)) (es : List (Session.Event κ))
    (h : s.metrics = some (.tally rs s.clients.size)) :
    (s.run es).2.metrics = some (.tally (rs ++ s.receptions es) (s.run es).2.clients.size) := by
  -- What has been counted so far is carried along, and each event adds to its end.
  induction es generalizing s rs with
  | nil => simpa [receptions, run] using h
  | cons e es ih =>
    rw [receptions, ← List.append_assoc]
    exact ih _ (step_metrics rs e h)

/-- Whatever arrives, and whatever is changed in between, the counters of a new server are the tally
of its datagrams, the gauge is the size of its table, and the counters agree with each other. -/
theorem counters_of_run (p : Plan) (clock : κ) (es : List (Session.Event κ)) :
    let s := p.service clock (some {})
    let rs := s.receptions es
    let final := (s.run es).2
    rs.map (·.datagram) = es.filterMap Session.Event.datagram? ∧
    rs.map (·.outcome) = (s.run es).1 ∧
    (∀ r ∈ rs, ∀ answer, r.outcome = .respond answer → ∃ p, Packet.parse answer = .ok p ∧
      (∀ k, r.kiss? = some k → IsKiss k r.arrival.bytes p) ∧
      (r.kiss? = none → IsAnswer r.before.state r.arrival.received p)) ∧
    final.metrics = some (.tally rs final.clients.size) ∧
    (Metrics.tally rs final.clients.size).Balanced := by
  intro s rs final
  exact ⟨datagrams_receptions s es, outcomes_receptions s es,
    fun r _ answer h => Reception.parse_answer_cases h, run_metrics [] es rfl,
    Metrics.balanced_tally rs⟩

/-- A client asks twice, and a third time when there is no limit any more. Its last datagram is too
short. -/
example :
    let ask := Packet.serialize {}
    let sender : Endpoint := ⟨.v4 0xC0000201#32, 40000⟩
    let s := Plan.service { rateLimit := some {} } (default : ManualClock) (some {})
    (s.run [.datagram ask sender 0 none, .datagram ask sender 1 none, .setRateLimit none,
        .datagram ask sender 2 none, .datagram [0] sender 3 none]).2.metrics =
      some { requestsReceived := 4, responsesSent := 3, requestsDropped := 1, droppedTooShort := 1,
             kissRateSent := 1, bytesReceived := 145, bytesSent := 144, activeClients := 1 } := by
  decide +kernel

end Service
end NetworkTime
