import NetworkTime.Proofs.Service.Reflection

/-! The states that a server can be in, and the answers that a client can make use of. -/

namespace NetworkTime
open Wire Header
variable {state : SystemState} {request : Packet} {received : Timestamp} {datagram : Bytes}
  {k : Kiss}

namespace Response

/-- The rules on a header are those on a state, but for the stratum of a server without a source. -/
theorem violations_answer_eq_nil_iff :
    (answer request state received).violations = [] ↔
      state.stratum.toNat ≤ 15 ∧ Poll.isAllowed state.poll = true ∧ state.precision.toInt ≤ 0 := by
  rw [Packet.violations_eq_nil_iff]
  constructor
  · rintro ⟨-, hstratum, hpoll, hprecision⟩
    exact ⟨hstratum, hpoll, hprecision⟩
  · rintro ⟨hstratum, hpoll, hprecision⟩
    exact ⟨rfl, hstratum, hpoll, hprecision⟩

theorem fault?_eq_none_iff_answer :
    state.fault? = none ↔ (answer request state received).violations = [] ∧
      (answer request state received).stratum ≠ 0 := by
  rw [SystemState.fault?_eq_none_iff, violations_answer_eq_nil_iff, Stratum.isServer_iff]
  constructor
  · rintro ⟨⟨hstratum, hzero⟩, hpoll, hprecision⟩
    exact ⟨⟨hstratum, hpoll, hprecision⟩, hzero⟩
  · rintro ⟨⟨hstratum, hpoll, hprecision⟩, hzero⟩
    exact ⟨⟨hstratum, hzero⟩, hpoll, hprecision⟩

/-- The poll exponent of a kiss is that of the request, which has been checked by then. -/
theorem violations_kiss_eq_nil (h : Request.ofDatagram datagram = .ok request) (k : Kiss) :
    (kiss request k).violations = [] := by
  obtain ⟨-, hrules, rfl⟩ := Request.spec_of_ok h
  exact (isKiss_kiss datagram k .zero).violations_eq_nil rfl hrules

end Response

/-- A packet with a stratum is no kiss. -/
theorem IsAnswer.not_isKiss {p : Packet} (h : IsAnswer state received p)
    (hstate : state.stratum ≠ 0) : ¬ IsKiss k datagram p := by
  intro hkiss
  apply hstate
  rw [← h.stratum, hkiss.stratum]

namespace Service
variable {κ : Type} {s : Service κ} {a : Arrival}

theorem exists_refusal_iff (s : Service κ) (a : Arrival) : (∃ k, s.refusal? a = some k) ↔
    s.access.Denies a.client ∨ s.access.Excludes a.client ∨ s.Throttles a := by
  by_cases hd : s.access.Denies a.client
  · simp [refusal_of_denies hd, hd]
  · by_cases he : s.access.Excludes a.client
    · simp [refusal_of_excludes hd he, he]
    · by_cases ht : s.Throttles a
      · simp [refusal_of_throttles hd he ht, ht]
      · simp [refusal_of_serves hd he ht, hd, he, ht]

variable [Clock κ] {answer : Bytes}

/-- What a server sends is a valid packet while its state is one that can be sent, and its stratum
alone tells a client that it is turned away. -/
theorem fits_of_respond (hstate : s.state.fault? = none)
    (h : (s.handle a).outcome = .respond answer) :
    ∃ p, Packet.parse answer = .ok p ∧ p.violations = [] ∧ p.mode = .server ∧
      (p.stratum = 0 ↔ ∃ k, IsKiss k a.bytes p) ∧
      (p.stratum = 0 ↔ ∃ k, s.refusal? a = some k) := by
  obtain ⟨hrules, rfl⟩ := eq_reply_of_respond h
  obtain ⟨hversion, hmode, -⟩ := reply_common s (decode a.bytes) a
  refine ⟨_, Packet.parse_serialize _, ?_⟩
  cases hk : s.refusal? a with
  | some k =>
    have hkiss := isKiss_reply (Clock.now s.clock).1 hk
    refine ⟨hkiss.violations_eq_nil hversion hrules, hmode, ?_, ?_⟩
    · exact iff_of_true hkiss.stratum ⟨k, hkiss⟩
    · exact iff_of_true hkiss.stratum ⟨k, rfl⟩
  | none =>
    have hanswer : IsAnswer s.state a.received
        { s.reply (decode a.bytes) a with transmitTime := (Clock.now s.clock).1 } :=
      isAnswer_reply _ hk
    have hzero : s.state.stratum ≠ 0 :=
      ((Stratum.isServer_iff _).mp ((SystemState.fault?_eq_none_iff _).mp hstate).1).2
    have hstratum := hanswer.stratum.trans_ne hzero
    refine ⟨hanswer.violations_eq_nil hversion hstate, hmode, ?_, ?_⟩
    · refine iff_of_false hstratum ?_
      rintro ⟨k, hkiss⟩
      exact hanswer.not_isKiss hzero hkiss
    · refine iff_of_false hstratum ?_
      rintro ⟨k, hrefusal⟩
      cases hrefusal

/-- A state has no fault exactly if the usual answer made from it, to whatever request, keeps the
rules on headers and has a stratum. A kiss to a request keeps them always, and has none. So all that
a server without fault sends is read as a valid packet of server mode, and the stratum in it is zero
exactly if the packet turns its client away. -/
theorem fault?_eq_none_iff_answers_fit (s : Service κ) :
    (∀ (state : SystemState) (request : Packet) (received : Timestamp), state.fault? = none ↔
      (Response.answer request state received).violations = [] ∧
        (Response.answer request state received).stratum ≠ 0) ∧
    (∀ (datagram : Bytes) (request : Packet) (k : Kiss),
      Request.ofDatagram datagram = .ok request →
        (Response.kiss request k).violations = [] ∧ (Response.kiss request k).stratum = 0) ∧
    (s.state.fault? = none → ∀ (a : Arrival) (answer : Bytes),
      (s.handle a).outcome = .respond answer →
        ∃ p, Packet.parse answer = .ok p ∧ p.violations = [] ∧ p.mode = .server ∧
          (p.stratum = 0 ↔ ∃ k, IsKiss k a.bytes p) ∧
          (p.stratum = 0 ↔
            s.access.Denies a.client ∨ s.access.Excludes a.client ∨ s.Throttles a)) := by
  refine ⟨?_, ?_, ?_⟩
  · intro state request received
    exact Response.fault?_eq_none_iff_answer
  · intro datagram request k h
    exact ⟨Response.violations_kiss_eq_nil h k, rfl⟩
  · intro hstate a answer h
    obtain ⟨p, hparse, hvalid, hmode, hkiss, hrefusal⟩ := fits_of_respond hstate h
    refine ⟨p, hparse, hvalid, hmode, hkiss, ?_⟩
    rw [hrefusal, exists_refusal_iff]

/-- A client that asks too often reads that off the stratum of what it gets. -/
theorem fault?_eq_none_iff_answers_fit_askedAgain : justServed.state.fault? = none ∧
    ∃ answer p, (justServed.handle askedAgain).outcome = .respond answer ∧
      Packet.parse answer = .ok p ∧ p.violations = [] ∧ p.mode = .server ∧ p.stratum = 0 := by
  have hstate : justServed.state.fault? = none := by decide +kernel
  have houtcome : (justServed.handle askedAgain).outcome =
      .respond (Packet.serialize { Response.kiss { poll := 6, transmitTime := ⟨3, 4⟩ } .rate with
        transmitTime := ⟨5, 0⟩ }) := by
    decide +kernel
  have hthrottles : justServed.Throttles askedAgain := ⟨{}, rfl, by decide +kernel⟩
  obtain ⟨-, -, hfits⟩ := fault?_eq_none_iff_answers_fit justServed
  obtain ⟨p, hparse, hvalid, hmode, -, hturned⟩ := hfits hstate askedAgain _ houtcome
  exact ⟨hstate, _, p, houtcome, hparse, hvalid, hmode, hturned.mpr (Or.inr (Or.inr hthrottles))⟩

end Service
end NetworkTime
