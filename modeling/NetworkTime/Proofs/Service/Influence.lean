import NetworkTime.Proofs.Service.Fate

/-! What of a datagram its answer depends on: the time at which the request left the client, and for
a kiss its poll. -/

namespace NetworkTime
open Wire

namespace Response
variable {p q : Packet}

theorem answer_eq (h : p.transmitTime = q.transmitTime) (state : SystemState)
    (received : Timestamp) : answer p state received = answer q state received := by
  rw [answer, answer, h]

/-- Kisses for requests that left their client at the same time differ in the poll alone. -/
theorem serialize_kiss (h : p.transmitTime = q.transmitTime) (k : Kiss) (sent : Timestamp) :
    Packet.serialize { kiss p k with transmitTime := sent } =
      (Packet.serialize { kiss q k with transmitTime := sent }).set 2 p.poll.toUInt8 := by
  rw [← Packet.serialize_poll, kiss, kiss, h]

end Response

theorem Request.transmitTime_eq {datagram other : Bytes} {p q : Packet}
    (hp : ofDatagram datagram = .ok p) (hq : ofDatagram other = .ok q)
    (h : (datagram.drop 40).take 8 = (other.drop 40).take 8) :
    p.transmitTime = q.transmitTime := by
  obtain ⟨hl, -, rfl⟩ := spec_of_ok hp
  obtain ⟨hl', -, rfl⟩ := spec_of_ok hq
  exact Packet.decode_transmitTime_eq hl hl' h

theorem Request.toUInt8_poll {datagram : Bytes} {p : Packet} (h : ofDatagram datagram = .ok p) :
    p.poll.toUInt8 = datagram.getD 2 0 := by
  obtain ⟨-, -, rfl⟩ := spec_of_ok h
  rw [Packet.decode_poll]
  rfl

namespace Service
variable {κ : Type} [Clock κ] {s : Service κ} {a : Arrival} {p q : Packet} {k : Kiss}

theorem handle_eq_of_ofDatagram_eq {other : Bytes}
    (h : Request.ofDatagram other = Request.ofDatagram a.bytes) :
    s.handle { a with bytes := other } = s.handle a := by
  simp only [handle, h]
  rfl

theorem handle_service_of_ok (h : Request.ofDatagram a.bytes = .ok p) :
    (s.handle a).service =
      { ((s.count (·.countRequest)).settled a).count (·.countRefusal (s.refusal? a)) with
        clock := (Clock.now s.clock).2 } := by
  obtain ⟨log, heq⟩ := answered_eq_responded (s.count (·.countRequest)) p a
  have hclock := settled_clock (s.count (·.countRequest)) a
  rw [count_clock] at hclock
  rw [handle_of_ok h, heq, refusal_count, ← hclock]
  rfl

/-- What stands behind the header, or is cut off there, makes no difference. -/
theorem handle_take {n : Nat} (h : 48 ≤ n) :
    s.handle { a with bytes := a.bytes.take n } = s.handle a := by
  apply handle_eq_of_ofDatagram_eq
  rw [Request.ofDatagram, Request.ofDatagram, Packet.parse_take h]

theorem handle_append (rest : Bytes) (h : 48 ≤ a.bytes.length) :
    s.handle { a with bytes := a.bytes ++ rest } = s.handle a := by
  have hcut := handle_take (s := s) (a := { a with bytes := a.bytes ++ rest }) h
  rw [← hcut]
  simp

/-- The state of the server and the time of arrival have no part in a kiss. -/
theorem kiss_of_refusal (h : Request.ofDatagram a.bytes = .ok p) (hk : s.refusal? a = some k)
    (state : SystemState) (received : Timestamp) :
    ({ s with state }.handle { a with received }).outcome = .respond (Packet.serialize
      { Response.kiss p k with transmitTime := (Clock.now s.clock).1 }) := by
  have hrefusal : { s with state }.refusal? { a with received } = s.refusal? a :=
    refusal_congr rfl rfl rfl rfl rfl
  exact outcome_of_refusal h (hrefusal.trans hk)

/-- Two requests that left their client at the same time are answered with the same bytes, but for
the poll of a kiss, which each client gets back from itself; and the server goes on as the same. The
state of the server has no part in a kiss, and what stands behind a header none in anything. -/
theorem handle_of_same_transmitTime {other : Bytes} (ha : Request.ofDatagram a.bytes = .ok p)
    (hb : Request.ofDatagram other = .ok q)
    (hsame : (a.bytes.drop 40).take 8 = (other.drop 40).take 8) :
    (∃ answer answer', (s.handle a).outcome = .respond answer ∧
      (s.handle { a with bytes := other }).outcome = .respond answer' ∧
      s.fate { a with bytes := other } = s.fate a ∧
      (s.fate a = .served → answer' = answer) ∧
      (∀ k, s.fate a = .refused k →
        answer = answer'.set 2 (a.bytes.getD 2 0) ∧ answer' = answer.set 2 (other.getD 2 0) ∧
        ∀ state received, ({ s with state }.handle { a with received }).outcome =
          .respond answer) ∧
      (s.handle { a with bytes := other }).service = (s.handle a).service) ∧
    ∀ c : Arrival, (∀ n, 48 ≤ n → s.handle { c with bytes := c.bytes.take n } = s.handle c) ∧
      (48 ≤ c.bytes.length → ∀ rest, s.handle { c with bytes := c.bytes ++ rest } = s.handle c) := by
  have hother : Request.ofDatagram { a with bytes := other }.bytes = .ok q := hb
  have htransmit := Request.transmitTime_eq ha hb hsame
  -- What the server becomes is told by the client and the moment, which the two requests share.
  have hservice : (s.handle { a with bytes := other }).service = (s.handle a).service := by
    rw [handle_service_of_ok ha, handle_service_of_ok hother]
    rfl
  refine ⟨?_, fun c => ⟨fun n h => handle_take h, fun h rest => handle_append rest h⟩⟩
  cases hk : s.refusal? a with
  | none =>
    have hk' : s.refusal? { a with bytes := other } = none := hk
    have hanswer := outcome_of_no_refusal hother hk'
    rw [← Response.answer_eq htransmit] at hanswer
    rw [fate_of_no_refusal ha hk, fate_of_no_refusal hother hk']
    refine ⟨_, _, outcome_of_no_refusal ha hk, hanswer, rfl, fun _ => rfl, ?_, hservice⟩
    intro k h
    cases h
  | some k =>
    have hk' : s.refusal? { a with bytes := other } = some k := hk
    rw [fate_of_refusal ha hk, fate_of_refusal hother hk']
    refine ⟨_, _, outcome_of_refusal ha hk, outcome_of_refusal hother hk', rfl, ?_, ?_, hservice⟩
    · intro h
      cases h
    · intro k' h
      cases h
      refine ⟨?_, ?_, fun state received => kiss_of_refusal ha hk state received⟩
      · rw [Response.serialize_kiss htransmit, Request.toUInt8_poll ha]
      · rw [Response.serialize_kiss htransmit.symm, Request.toUInt8_poll hb]

/-- Another request that left its client at the same time, with something behind its header. -/
def otherRequest : Packet where
  leap := .addSecond
  version := .v3
  stratum := 5
  poll := 10
  precision := -3
  rootDelay := ⟨1, 2⟩
  originTime := ⟨7, 7⟩
  transmitTime := ⟨3, 4⟩

theorem handle_of_same_transmitTime_askedAgain :
    let other := otherRequest.serialize ++ [1, 2, 3]
    ∃ answer answer', (justServed.handle askedAgain).outcome = .respond answer ∧
      (justServed.handle { askedAgain with bytes := other }).outcome = .respond answer' ∧
      justServed.fate askedAgain = .refused .rate ∧ answer = answer'.set 2 6 ∧
      answer' = answer.set 2 10 := by
  intro other
  have ha : Request.ofDatagram askedAgain.bytes =
      .ok { poll := 6, transmitTime := ⟨3, 4⟩ } := by rfl
  have hb : Request.ofDatagram other = .ok otherRequest := by
    rw [Request.ofDatagram, Packet.parse_serialize_append]
    rfl
  have hfate : justServed.fate askedAgain = .refused .rate := by decide +kernel
  obtain ⟨⟨answer, answer', houtcome, houtcome', -, -, hkiss, -⟩, -⟩ :=
    handle_of_same_transmitTime (s := justServed) ha hb (by decide +kernel)
  obtain ⟨hown, hother, -⟩ := hkiss _ hfate
  exact ⟨answer, answer', houtcome, houtcome', hfate, hown, hother⟩

end Service
end NetworkTime
