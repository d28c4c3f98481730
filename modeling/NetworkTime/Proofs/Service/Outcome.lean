import NetworkTime.Proofs.Packet.Header
import NetworkTime.Proofs.Packet.Stamp
import NetworkTime.Service

/-! Which datagrams are answered, and why the others are not. Their bytes alone decide that: lists,
rates, clocks and counters only choose the answer. -/

namespace NetworkTime

/-- The counters after a client was turned away, if it was. -/
def Metrics.countRefusal (m : Metrics) : Option Kiss → Metrics
  | some k => m.countKiss k
  | none => m

namespace Service
open Wire Header
variable {κ : Type} {s : Service κ} {a : Arrival} {request : Packet}

@[simp] theorem count_clock (f : Metrics → Metrics) : (s.count f).clock = s.clock := rfl

@[simp] theorem count_state (f : Metrics → Metrics) : (s.count f).state = s.state := rfl

@[simp] theorem count_access (f : Metrics → Metrics) : (s.count f).access = s.access := rfl

@[simp] theorem count_rateLimit (f : Metrics → Metrics) :
    (s.count f).rateLimit = s.rateLimit := rfl

@[simp] theorem count_clients (f : Metrics → Metrics) : (s.count f).clients = s.clients := rfl

@[simp] theorem count_metrics (f : Metrics → Metrics) : (s.count f).metrics = s.metrics.map f := rfl

@[simp] theorem count_self : s.count (fun m => m) = s := by
  simp [count]

/-- Judging a request leaves the clock and the state of the server alone. -/
theorem judged_frame (s : Service κ) (client : Address) (moment : Nat) :
    (s.judged client moment).2.clock = s.clock ∧ (s.judged client moment).2.state = s.state := by
  cases hr : s.rateLimit <;> simp [judged, hr]

theorem judged_verdict_count (f : Metrics → Metrics) (client : Address) (moment : Nat) :
    ((s.count f).judged client moment).1 = (s.judged client moment).1 := by
  cases hr : s.rateLimit <;> simp [judged, hr]

/-- The kiss that a request is turned away with. -/
def refusal? (s : Service κ) (a : Arrival) : Option Kiss :=
  match (s.access.check a.client).kiss? with
  | some k => some k
  | none => if (s.judged a.client a.moment).1 = .rateExceeded then some .rate else none

/-- The service once its lists and its table have been asked about the sender of a request. -/
def settled (s : Service κ) (a : Arrival) : Service κ :=
  match (s.access.check a.client).kiss? with
  | some _ => s
  | none => (s.judged a.client a.moment).2

theorem settled_clock (s : Service κ) (a : Arrival) : (s.settled a).clock = s.clock := by
  unfold settled
  split
  · rfl
  · exact (judged_frame s a.client a.moment).1

theorem settled_state (s : Service κ) (a : Arrival) : (s.settled a).state = s.state := by
  unfold settled
  split
  · rfl
  · exact (judged_frame s a.client a.moment).2

/-- The answer to a request, of which the transmit time is still open. -/
def reply (s : Service κ) (request : Packet) (a : Arrival) : Packet :=
  match s.refusal? a with
  | some k => Response.kiss request k
  | none => Response.answer request s.state a.received

@[simp] theorem refusal_count (f : Metrics → Metrics) :
    (s.count f).refusal? a = s.refusal? a := by
  simp [refusal?, judged_verdict_count]

theorem reply_count (f : Metrics → Metrics) : (s.count f).reply request a = s.reply request a := by
  simp [reply]

variable [Clock κ]

/-- What is sent is the answer with one reading of the clock as its transmit time. -/
theorem responded_outcome (p : Packet) (log : List Log.Event) :
    (s.responded p log).outcome =
      .respond (Packet.serialize { p with transmitTime := (Clock.now s.clock).1 }) := by
  rw [responded, Response.send_eq]

/-- However a request is judged, it is answered by the service that the judgement leaves. -/
theorem answered_eq_responded (s : Service κ) (request : Packet) (a : Arrival) :
    ∃ log, s.answered request a =
      ((s.settled a).count (·.countRefusal (s.refusal? a))).responded (s.reply request a) log := by
  cases hk : (s.access.check a.client).kiss? with
  | some k =>
    refine ⟨[event .debug "refusing client" a.client [("code", k.code)]], ?_⟩
    simp only [answered, hk, settled, reply, refusal?, kissed, Metrics.countRefusal]
  | none =>
    have hstate := (judged_frame s a.client a.moment).2
    cases hj : s.judged a.client a.moment with
    | mk verdict s' =>
      rw [hj] at hstate
      dsimp only at hstate
      cases verdict with
      | rateExceeded =>
        refine ⟨[event .debug "rate limit exceeded" a.client []], ?_⟩
        simp only [answered, hk, hj, settled, reply, refusal?, kissed, Metrics.countRefusal,
          if_true]
      | allow =>
        refine ⟨[], ?_⟩
        simp [answered, hk, hj, settled, reply, refusal?, Metrics.countRefusal, hstate]

theorem answered_outcome (s : Service κ) (request : Packet) (a : Arrival) :
    (s.answered request a).outcome = .respond
      (Packet.serialize { s.reply request a with transmitTime := (Clock.now s.clock).1 }) := by
  obtain ⟨log, heq⟩ := answered_eq_responded s request a
  rw [heq, responded_outcome, count_clock, settled_clock]

theorem answered_clock (s : Service κ) (request : Packet) (a : Arrival) :
    (s.answered request a).service.clock = (Clock.now s.clock).2 := by
  obtain ⟨log, heq⟩ := answered_eq_responded s request a
  rw [heq, ← settled_clock s a]
  rfl

theorem answered_state (s : Service κ) (request : Packet) (a : Arrival) :
    (s.answered request a).service.state = s.state := by
  obtain ⟨log, heq⟩ := answered_eq_responded s request a
  rw [heq, ← settled_state s a]
  rfl

theorem answered_metrics (s : Service κ) (request : Packet) (a : Arrival) :
    (s.answered request a).service.metrics =
      (s.settled a).metrics.map (·.countRefusal (s.refusal? a)) := by
  obtain ⟨log, heq⟩ := answered_eq_responded s request a
  rw [heq]
  rfl

theorem answered_clients (s : Service κ) (request : Packet) (a : Arrival) :
    (s.answered request a).service.clients = (s.settled a).clients := by
  obtain ⟨log, heq⟩ := answered_eq_responded s request a
  rw [heq]
  rfl

theorem handle_of_error {fault : RequestFault} (h : Request.ofDatagram a.bytes = .error fault) :
    (s.handle a).outcome = .drop fault.dropReason := by
  simp [handle, h, dropped]

theorem handle_service_of_error {fault : RequestFault}
    (h : Request.ofDatagram a.bytes = .error fault) :
    (s.handle a).service = (s.count (·.countRequest)).count (·.countDrop fault.dropReason) := by
  simp [handle, h, dropped]

theorem handle_of_ok (h : Request.ofDatagram a.bytes = .ok request) :
    s.handle a = (s.count (·.countRequest)).answered request a := by
  simp [handle, h]

/-- A datagram is answered exactly if it has room for a header, keeps the rules on its fields and is
of client mode. Of the reasons to drop one, its length comes first, then its fields, then its
mode. -/
theorem handle_outcome_iff (s : Service κ) (a : Arrival) :
    ((∃ answer, (s.handle a).outcome = .respond answer) ↔
      48 ≤ a.bytes.length ∧ KeepsRules a.bytes ∧ modeBits a.bytes = 3) ∧
    ((s.handle a).outcome = .drop .tooShort ↔ a.bytes.length < 48) ∧
    ((s.handle a).outcome = .drop .invalid ↔ 48 ≤ a.bytes.length ∧ ¬ KeepsRules a.bytes) ∧
    ((s.handle a).outcome = .drop .notClientRequest ↔
      48 ≤ a.bytes.length ∧ KeepsRules a.bytes ∧ modeBits a.bytes ≠ 3) ∧
    (∀ answer, (s.handle a).outcome = .respond answer →
      answer.length = 48 ∧ answer.length ≤ a.bytes.length) := by
  rcases Request.ofDatagram_cases a.bytes with ⟨hl, hd⟩ | ⟨hl, hk, vs, -, hd⟩ | ⟨hl, hk, hm, hd⟩ |
    ⟨hl, hk, hm, hd⟩
  · have hout := handle_of_error (s := s) hd
    simp [hout, RequestFault.dropReason, hl, Nat.not_le.mpr hl]
  · have hout := handle_of_error (s := s) hd
    simp [hout, RequestFault.dropReason, hl, hk, Nat.not_lt.mpr hl]
  · have hout := handle_of_error (s := s) hd
    simp [hout, RequestFault.dropReason, hl, hk, hm, Nat.not_lt.mpr hl]
  · have hout := handle_of_ok (s := s) hd
    simp [hout, answered_outcome, hl, hk, hm, Nat.not_lt.mpr hl]

end Service
end NetworkTime
