import NetworkTime.Proofs.Access
import NetworkTime.Proofs.Service.Outcome

/-! What a request is answered with, as its sender reads the answer. -/

namespace NetworkTime
open Wire Header
variable {κ : Type} {s : Service κ} {a : Arrival} {p request : Packet} {k : Kiss}

/-- A packet that turns away the client of a request. -/
structure IsKiss (k : Kiss) (datagram : Bytes) (p : Packet) : Prop where
  stratum : p.stratum = 0
  leap : p.leap = .unsynchronized
  referenceId : p.referenceId = .ofKiss k
  poll : p.poll = Header.poll datagram
  precision : p.precision = 0
  rootDelay : p.rootDelay = ⟨0, 0⟩
  rootDispersion : p.rootDispersion = ⟨0, 0⟩
  referenceTime : p.referenceTime = ⟨0, 0⟩
  receiveTime : p.receiveTime = ⟨0, 0⟩

/-- A packet that tells a client the time, on behalf of a server in the given state. -/
structure IsAnswer (state : SystemState) (received : Timestamp) (p : Packet) : Prop where
  leap : p.leap = state.leap
  stratum : p.stratum = state.stratum
  poll : p.poll = state.poll
  precision : p.precision = state.precision
  rootDelay : p.rootDelay = state.rootDelay
  rootDispersion : p.rootDispersion = state.rootDispersion
  referenceId : p.referenceId = state.referenceId
  referenceTime : p.referenceTime = received
  receiveTime : p.receiveTime = received

/-- A kiss stays one when it is stamped. -/
theorem Response.isKiss_kiss (datagram : Bytes) (k : Kiss) (t : Timestamp) :
    IsKiss k datagram { kiss (decode datagram) k with transmitTime := t } :=
  ⟨rfl, rfl, rfl, Packet.decode_poll datagram, rfl, rfl, rfl, rfl, rfl⟩

namespace Service

/-- The rate is limited, and the table finds that the client asks too often. -/
def Throttles (s : Service κ) (a : Arrival) : Prop :=
  ∃ limit, s.rateLimit = some limit ∧
    (s.clients.judge a.client a.moment limit).1 = .rateExceeded

theorem judged_eq_rateExceeded_iff :
    (s.judged a.client a.moment).1 = .rateExceeded ↔ s.Throttles a := by
  cases hr : s.rateLimit <;> simp [judged, Throttles, hr]

theorem refusal_of_denies (h : s.access.Denies a.client) : s.refusal? a = some .deny := by
  simp [refusal?, AccessControl.check_of_denies h, Access.kiss?]

theorem refusal_of_excludes (hd : ¬ s.access.Denies a.client) (he : s.access.Excludes a.client) :
    s.refusal? a = some .restrict := by
  simp [refusal?, AccessControl.check_of_excludes hd he, Access.kiss?]

theorem refusal_of_throttles (hd : ¬ s.access.Denies a.client)
    (he : ¬ s.access.Excludes a.client) (ht : s.Throttles a) : s.refusal? a = some .rate := by
  have hj := judged_eq_rateExceeded_iff.mpr ht
  simp [refusal?, AccessControl.check_of_admits hd he, Access.kiss?, hj]

theorem refusal_of_serves (hd : ¬ s.access.Denies a.client)
    (he : ¬ s.access.Excludes a.client) (ht : ¬ s.Throttles a) : s.refusal? a = none := by
  have hj := mt judged_eq_rateExceeded_iff.mp ht
  simp [refusal?, AccessControl.check_of_admits hd he, Access.kiss?, hj]

theorem reply_common (s : Service κ) (request : Packet) (a : Arrival) :
    (s.reply request a).version = .v4 ∧ (s.reply request a).mode = .server ∧
      (s.reply request a).originTime = request.transmitTime := by
  rw [reply]
  cases s.refusal? a <;> exact ⟨rfl, rfl, rfl⟩

theorem isKiss_reply (t : Timestamp) (h : s.refusal? a = some k) :
    IsKiss k a.bytes { s.reply (decode a.bytes) a with transmitTime := t } := by
  rw [reply, h]
  exact Response.isKiss_kiss a.bytes k t

theorem isAnswer_reply (t : Timestamp) (h : s.refusal? a = none) :
    IsAnswer s.state a.received { s.reply request a with transmitTime := t } := by
  simp only [reply, h]
  exact ⟨rfl, rfl, rfl, rfl, rfl, rfl, rfl, rfl, rfl⟩

variable [Clock κ] {answer : Bytes}

theorem handle_of_respond (h : (s.handle a).outcome = .respond answer) :
    48 ≤ a.bytes.length ∧
      s.handle a = (s.count (·.countRequest)).answered (decode a.bytes) a := by
  rcases Request.ofDatagram_cases a.bytes with ⟨-, hd⟩ | ⟨-, -, vs, -, hd⟩ | ⟨-, -, -, hd⟩ |
    ⟨hl, -, -, hd⟩
  · simp [handle_of_error hd] at h
  · simp [handle_of_error hd] at h
  · simp [handle_of_error hd] at h
  · exact ⟨hl, handle_of_ok hd⟩

/-- An answer gives back the transmit time of its request and carries the time of the clock, which
is read for nothing else. A client that is denied learns just that; else one that is not among
those served; else one that asks too often; and any other gets the time. -/
theorem parse_answer (h : (s.handle a).outcome = .respond answer) :
    ∃ p, Packet.parse answer = .ok p ∧ answer.length = 48 ∧ p.version = .v4 ∧ p.mode = .server ∧
      encode p.originTime = (a.bytes.drop 40).take 8 ∧
      p.transmitTime = (Clock.now s.clock).1 ∧
      (s.handle a).service.clock = (Clock.now s.clock).2 ∧
      (s.access.Denies a.client → IsKiss .deny a.bytes p) ∧
      (¬ s.access.Denies a.client → s.access.Excludes a.client → IsKiss .restrict a.bytes p) ∧
      (¬ s.access.Denies a.client → ¬ s.access.Excludes a.client → s.Throttles a →
        IsKiss .rate a.bytes p) ∧
      (¬ s.access.Denies a.client → ¬ s.access.Excludes a.client → ¬ s.Throttles a →
        IsAnswer s.state a.received p) := by
  obtain ⟨hl, heq⟩ := handle_of_respond h
  rw [heq, answered_outcome, reply_count, count_clock] at h
  obtain ⟨hversion, hmode, horigin⟩ := reply_common s (decode a.bytes) a
  refine ⟨{ s.reply (decode a.bytes) a with transmitTime := (Clock.now s.clock).1 }, ?_, ?_,
    hversion, hmode, ?_, rfl, ?_, ?_, ?_, ?_, ?_⟩
  · rw [← Outcome.respond.inj h]
    simpa using Packet.parse_serialize_append _ []
  · rw [← Outcome.respond.inj h, Packet.length_serialize]
  · rw [horigin, Packet.decode_eq]
    exact encode_decode (by rw [size_timestamp, List.length_drop]; omega)
  · rw [heq, answered_clock, count_clock]
  · exact fun hd => isKiss_reply _ (refusal_of_denies hd)
  · exact fun hd he => isKiss_reply _ (refusal_of_excludes hd he)
  · exact fun hd he ht => isKiss_reply _ (refusal_of_throttles hd he ht)
  · exact fun hd he ht => isAnswer_reply _ (refusal_of_serves hd he ht)

/-- A server that limits the rate and has just served a client. -/
def justServed : Service ManualClock where
  rateLimit := some {}
  clients := ((ClientTable.empty 4).judge (.v4 0xC0000201#32) 0 {}).2
  clock := ⟨0x500000000, 1⟩

/-- The same client asks again a nanosecond later. -/
def askedAgain : Arrival where
  bytes := Packet.serialize { poll := 6, transmitTime := ⟨3, 4⟩ }
  client := .v4 0xC0000201#32
  received := ⟨5, 0⟩
  moment := 1

theorem parse_answer_askedAgain : ∃ answer p,
    (justServed.handle askedAgain).outcome = .respond answer ∧ Packet.parse answer = .ok p ∧
      encode p.originTime = [0, 0, 0, 3, 0, 0, 0, 4] ∧ p.transmitTime = ⟨5, 0⟩ ∧
      IsKiss .rate askedAgain.bytes p := by
  have houtcome : (justServed.handle askedAgain).outcome =
      .respond (Packet.serialize { Response.kiss { poll := 6, transmitTime := ⟨3, 4⟩ } .rate with
        transmitTime := ⟨5, 0⟩ }) := by
    decide +kernel
  have hdenies : ¬ justServed.access.Denies askedAgain.client := by
    rintro ⟨nets, hnets, -⟩
    cases hnets
  have hexcludes : ¬ justServed.access.Excludes askedAgain.client := by
    rintro ⟨nets, hnets, -⟩
    cases hnets
  have hthrottles : justServed.Throttles askedAgain := ⟨{}, rfl, by decide +kernel⟩
  obtain ⟨p, hp, -, -, -, horigin, htransmit, -, -, -, hrate, -⟩ := parse_answer houtcome
  refine ⟨_, p, houtcome, hp, ?_, ?_, hrate hdenies hexcludes hthrottles⟩
  · rw [horigin]
    decide +kernel
  · rw [htransmit]
    decide +kernel

end Service
end NetworkTime
