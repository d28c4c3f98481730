import NetworkTime.Proofs.Service.Answer
import NetworkTime.Session

/-! Datagrams as a server at work receives them, and what each of them comes to. -/

namespace NetworkTime
open Wire

/-- A datagram, with the service that it comes to and the reason for which an answer cannot be sent,
if it cannot. -/
structure Reception (κ : Type) where
  before : Service κ
  datagram : Bytes
  sender : Endpoint
  moment : Nat
  failure : Option SystemFailure

variable {κ : Type} [Clock κ]

namespace Reception
variable {r : Reception κ} {answer : Bytes}

/-- The datagram as far as it is read. -/
def arrival (r : Reception κ) : Arrival :=
  ⟨r.datagram.take receiveLimit, r.sender.address, (Clock.now r.before.clock).1, r.moment⟩

def handled (r : Reception κ) : Service.Handled κ :=
  r.before.receive r.datagram r.sender r.moment r.failure

def outcome (r : Reception κ) : Outcome := r.handled.outcome

def after (r : Reception κ) : Service κ := r.handled.service

def isAnswered (r : Reception κ) : Bool :=
  match r.outcome with
  | .respond _ => true
  | .drop _ => false

/-- The answer gets away. -/
def isSent (r : Reception κ) : Bool := r.isAnswered && r.failure.isNone

/-- The answer cannot be sent. -/
def isLost (r : Reception κ) : Bool := r.isAnswered && r.failure.isSome

/-- The kiss that the datagram is answered with. -/
def kiss? (r : Reception κ) : Option Kiss :=
  if r.isAnswered then r.before.refusal? r.arrival else none

theorem isAnswered_of_respond (h : r.outcome = .respond answer) : r.isAnswered = true := by
  rw [isAnswered, h]

theorem isAnswered_of_drop {reason : DropReason} (h : r.outcome = .drop reason) :
    r.isAnswered = false := by
  rw [isAnswered, h]

/-- The service when it turns to the datagram: the clock is read, and the bytes are counted. -/
def prepared (r : Reception κ) : Service κ :=
  { r.before with clock := (Clock.now r.before.clock).2 }.count
    (·.countBytesReceived r.arrival.bytes.length)

/-- What is counted when an answer is sent, or cannot be. -/
def countAnswer (r : Reception κ) (bytes : Nat) (m : Metrics) : Metrics :=
  match r.failure with
  | none => m.countResponse bytes
  | some _ => m.countSendError

@[simp] theorem prepared_refusal (r : Reception κ) :
    r.prepared.refusal? r.arrival = r.before.refusal? r.arrival := by
  cases hr : r.before.rateLimit <;> simp [prepared, Service.refusal?, Service.judged, hr]

theorem outcome_eq (r : Reception κ) : r.outcome = (r.prepared.handle r.arrival).outcome := by
  unfold outcome handled Service.receive
  dsimp only
  split <;> rfl

/-- Sending the answer to a datagram changes nothing but counters. -/
theorem after_eq (r : Reception κ) : r.after =
    match r.outcome with
    | .drop _ => (r.prepared.handle r.arrival).service
    | .respond answer =>
      (r.prepared.handle r.arrival).service.count (r.countAnswer answer.length) := by
  rw [outcome_eq]
  unfold after handled Service.receive countAnswer
  dsimp only
  generalize hx : Service.handle (_ : Service κ) _ = x
  rw [show r.prepared.handle r.arrival = x from hx]
  split <;> simp [*]

theorem of_error {fault : RequestFault} (h : Request.ofDatagram r.arrival.bytes = .error fault) :
    r.outcome = .drop fault.dropReason ∧
      r.after = (r.prepared.count (·.countRequest)).count (·.countDrop fault.dropReason) := by
  have houtcome : r.outcome = .drop fault.dropReason := by
    rw [outcome_eq, Service.handle_of_error h]
  exact ⟨houtcome, by rw [after_eq, houtcome, Service.handle_service_of_error h]⟩

theorem of_ok {request : Packet} (h : Request.ofDatagram r.arrival.bytes = .ok request) :
    r.isAnswered = true ∧
      r.after = ((r.prepared.count (·.countRequest)).answered request r.arrival).service.count
        (r.countAnswer 48) := by
  have hhandle := Service.handle_of_ok (s := r.prepared) h
  have houtcome := outcome_eq r
  rw [hhandle, Service.answered_outcome] at houtcome
  refine ⟨isAnswered_of_respond houtcome, ?_⟩
  rw [after_eq, houtcome, hhandle]
  simp only [Packet.length_serialize]

/-- Datagrams do not change what a server says about itself. -/
theorem after_state (r : Reception κ) : r.after.state = r.before.state := by
  cases h : Request.ofDatagram r.arrival.bytes with
  | error fault =>
    rw [(of_error h).2]
    rfl
  | ok request =>
    rw [(of_ok h).2, Service.count_state, Service.answered_state]
    rfl

/-- The client of an answer reads the kiss that it is turned away with, or else the time of the
server. -/
theorem parse_answer_cases (h : r.outcome = .respond answer) :
    ∃ p, Packet.parse answer = .ok p ∧ (∀ k, r.kiss? = some k → IsKiss k r.arrival.bytes p) ∧
      (r.kiss? = none → IsAnswer r.before.state r.arrival.received p) := by
  have hrespond := (outcome_eq r).symm.trans h
  obtain ⟨-, heq⟩ := Service.handle_of_respond hrespond
  rw [heq, Service.answered_outcome, Service.reply_count, Service.count_clock] at hrespond
  have hkiss : r.kiss? = r.prepared.refusal? r.arrival := by
    rw [kiss?, isAnswered_of_respond h, prepared_refusal]
    rfl
  refine ⟨{ r.prepared.reply (decode r.arrival.bytes) r.arrival with
    transmitTime := (Clock.now r.prepared.clock).1 }, ?_, ?_, ?_⟩
  · rw [← Outcome.respond.inj hrespond]
    simpa using Packet.parse_serialize_append _ []
  · intro k hk
    exact Service.isKiss_reply _ (hkiss.symm.trans hk)
  · intro hk
    exact Service.isAnswer_reply _ (hkiss.symm.trans hk)

end Reception

/-- The datagram of an event, if one arrives. -/
def Session.Event.datagram? : Session.Event κ → Option Bytes
  | .datagram bytes _ _ _ => some bytes
  | _ => none

namespace Service

def reception? (s : Service κ) : Session.Event κ → Option (Reception κ)
  | .datagram bytes sender moment failure => some ⟨s, bytes, sender, moment, failure⟩
  | _ => none

/-- The datagrams of a session, each with the service that it comes to. -/
def receptions (s : Service κ) : List (Session.Event κ) → List (Reception κ)
  | [] => []
  | e :: es => (s.reception? e).toList ++ (s.step e).2.receptions es

/-- The state of a server stays as it is until another one is set. -/
theorem state_of_mem_receptions {s : Service κ} {es : List (Session.Event κ)} {r : Reception κ}
    (hes : ∀ state, Session.Event.setState state ∉ es) (hr : r ∈ s.receptions es) :
    r.before.state = s.state := by
  induction es generalizing s with
  | nil => cases hr
  | cons e es ih =>
    have hstep : (s.step e).2.state = s.state := by
      cases e with
      | datagram bytes sender moment failure =>
        exact Reception.after_state ⟨s, bytes, sender, moment, failure⟩
      | setState state => exact absurd List.mem_cons_self (hes state)
      | setClock clock => rfl
      | setAccess access => rfl
      | setRateLimit limit => rfl
    rcases List.mem_append.mp hr with hr | hr
    · cases e with
      | datagram bytes sender moment failure =>
        rw [List.mem_singleton.mp hr]
      | _ => cases hr
    · exact (ih (fun state h => hes state (List.mem_cons_of_mem e h)) hr).trans hstep

variable (s : Service κ) (es : List (Session.Event κ))

theorem datagrams_receptions :
    (s.receptions es).map (·.datagram) = es.filterMap Session.Event.datagram? := by
  induction es generalizing s with
  | nil => rfl
  | cons e es ih =>
    rw [receptions, List.map_append, ih]
    cases e <;> rfl

theorem outcomes_receptions : (s.receptions es).map (·.outcome) = (s.run es).1 := by
  induction es generalizing s with
  | nil => rfl
  | cons e es ih =>
    rw [receptions, List.map_append, ih]
    cases e <;> rfl

end Service
end NetworkTime
