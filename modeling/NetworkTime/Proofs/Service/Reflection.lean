import NetworkTime.Proofs.Service.Fate

/-! Servers do not answer each other's answers: no datagram can go back and forth between them. -/

namespace NetworkTime
open Wire Header
variable {p : Packet} {rest datagram : Bytes} {k : Kiss}

theorem SystemState.fault?_eq_none_iff (state : SystemState) : state.fault? = none ↔
    Stratum.isServer state.stratum = true ∧ Poll.isAllowed state.poll = true ∧
      state.precision.toInt ≤ 0 := by
  have hp : ¬ 0 < state.precision ↔ state.precision.toInt ≤ 0 := by
    rw [Int8.lt_iff_toInt_lt, Int.not_lt]
    rfl
  rw [← hp, fault?]
  split
  · simp_all
  · split
    · simp_all
    · split <;> simp_all

theorem Request.ofDatagram_of_server (hmode : p.mode = .server) (rest : Bytes) :
    ∃ fault, ofDatagram (p.serialize ++ rest) = .error fault ∧
      (p.violations = [] → fault.dropReason = .notClientRequest) := by
  rw [ofDatagram, Packet.parse_serialize_append]
  cases hv : p.violations with
  | nil => exact ⟨.unexpectedMode p.mode.code, by simp [hv, Packet.kind, hmode], fun _ => rfl⟩
  | cons v vs =>
    refine ⟨.invalid (v :: vs), by simp [hv], ?_⟩
    intro h
    cases h

theorem IsKiss.violations_eq_nil (h : IsKiss k datagram p) (hversion : p.version = .v4)
    (hrules : KeepsRules datagram) : p.violations = [] := by
  rw [Packet.violations_eq_nil_iff, hversion, h.stratum, h.poll, h.precision, Poll.isAllowed_iff]
  exact ⟨rfl, Nat.zero_le 15, hrules.poll, Int.le_refl 0⟩

theorem IsAnswer.violations_eq_nil {state : SystemState} {received : Timestamp}
    (h : IsAnswer state received p) (hversion : p.version = .v4) (hstate : state.fault? = none) :
    p.violations = [] := by
  obtain ⟨hstratum, hpoll, hprecision⟩ := (SystemState.fault?_eq_none_iff state).mp hstate
  rw [Packet.violations_eq_nil_iff, hversion, h.stratum, h.poll, h.precision]
  exact ⟨rfl, ((Stratum.isServer_iff _).mp hstratum).1, hpoll, hprecision⟩

namespace Service
variable {κ κ' : Type} [Clock κ] [Clock κ'] {s : Service κ} {a : Arrival} {answer : Bytes}

/-- What is sent is the reply to the request in the datagram, with the time of the clock. -/
theorem eq_reply_of_respond (h : (s.handle a).outcome = .respond answer) :
    KeepsRules a.bytes ∧ answer = Packet.serialize
      { s.reply (decode a.bytes) a with transmitTime := (Clock.now s.clock).1 } := by
  cases hd : Request.ofDatagram a.bytes with
  | error fault =>
    rw [handle_of_error hd] at h
    cases h
  | ok request =>
    obtain ⟨-, hrules, rfl⟩ := Request.spec_of_ok hd
    rw [handle_outcome_of_ok hd] at h
    exact ⟨hrules, (Outcome.respond.inj h).symm⟩

/-- An answer is a header of server mode, and a kiss or a time. -/
theorem respond_spec (h : (s.handle a).outcome = .respond answer) :
    KeepsRules a.bytes ∧ ∃ p : Packet, answer = p.serialize ∧ p.version = .v4 ∧
      p.mode = .server ∧ ((∃ k, IsKiss k a.bytes p) ∨ IsAnswer s.state a.received p) := by
  obtain ⟨hrules, hanswer⟩ := eq_reply_of_respond h
  obtain ⟨hversion, hmode, -⟩ := reply_common s (decode a.bytes) a
  refine ⟨hrules, _, hanswer, hversion, hmode, ?_⟩
  cases hk : s.refusal? a with
  | some k => exact Or.inl ⟨k, isKiss_reply _ hk⟩
  | none => exact Or.inr (isAnswer_reply _ hk)

/-- An answer that reaches a server is dropped there, whatever has been appended to it, and neither
its table nor its clock has a part in that. It is dropped for its mode if it is a kiss, or if the
state of the server that sent it can be sent. -/
theorem handle_of_answer (h : (s.handle a).outcome = .respond answer) (other : Service κ')
    (b : Arrival) (rest : Bytes) :
    let handled := other.handle { b with bytes := answer ++ rest }
    ∃ reason, handled.outcome = .drop reason ∧ handled.service.clients = other.clients ∧
      handled.service.clock = other.clock ∧
      ((∃ k p, Packet.parse answer = .ok p ∧ IsKiss k a.bytes p) ∨ s.state.fault? = none →
        reason = .notClientRequest) := by
  intro handled
  obtain ⟨hrules, p, rfl, hversion, hmode, hkind⟩ := respond_spec h
  obtain ⟨fault, hfault, hreason⟩ := Request.ofDatagram_of_server hmode rest
  have hservice : handled.service =
      (other.count (·.countRequest)).count (·.countDrop fault.dropReason) :=
    handle_service_of_error hfault
  refine ⟨fault.dropReason, handle_of_error hfault, by rw [hservice]; rfl,
    by rw [hservice]; rfl, ?_⟩
  -- A packet that merely looks like a kiss will do, whatever it was meant to be.
  rintro (⟨k, q, hparse, hkiss⟩ | hstate)
  · rw [Packet.parse_serialize] at hparse
    cases hparse
    exact hreason (hkiss.violations_eq_nil hversion hrules)
  · rcases hkind with ⟨k, hkiss⟩ | hanswer
    · exact hreason (hkiss.violations_eq_nil hversion hrules)
    · exact hreason (hanswer.violations_eq_nil hversion hstate)

/-- A kiss comes back to the server that sent it, with a byte more. -/
theorem handle_of_answer_askedAgain : ∃ answer,
    (justServed.handle askedAgain).outcome = .respond answer ∧
    (justServed.handle { askedAgain with bytes := answer ++ [0] }).outcome =
      .drop .notClientRequest := by
  let kiss : Packet :=
    { Response.kiss { poll := 6, transmitTime := ⟨3, 4⟩ } .rate with transmitTime := ⟨5, 0⟩ }
  have houtcome : (justServed.handle askedAgain).outcome = .respond kiss.serialize := by
    decide +kernel
  have hkiss : IsKiss .rate askedAgain.bytes kiss := by
    constructor <;> decide +kernel
  obtain ⟨reason, hdrop, -, -, hreason⟩ :=
    handle_of_answer houtcome justServed askedAgain [0]
  refine ⟨kiss.serialize, houtcome, ?_⟩
  rw [hdrop, hreason (Or.inl ⟨.rate, kiss, Packet.parse_serialize kiss, hkiss⟩)]

/-- The answer of a server whose stratum cannot be sent is dropped as well, but for its fields. -/
example :
    let broken := { justServed with state := { stratum := 16 }, rateLimit := none }
    let time := Response.answer { transmitTime := ⟨3, 4⟩ } broken.state askedAgain.received
    let answer := Packet.serialize { time with transmitTime := ⟨5, 0⟩ }
    (broken.handle askedAgain).outcome = .respond answer ∧
      (justServed.handle { askedAgain with bytes := answer }).outcome = .drop .invalid := by
  decide +kernel

end Service
end NetworkTime
