import Mathlib.Algebra.GroupWithZero.Nat
import NetworkTime.Proofs.Service.Fate
import NetworkTime.Proofs.Service.Reception
import NetworkTime.Proofs.Timestamp.Difference

/-! How often a server at work reads its clock, and what that means for the times in its answers. -/

namespace NetworkTime
variable {κ : Type}

/-- A clock, with all that has been read of it. -/
structure Watched (κ : Type) where
  clock : κ
  given : List Timestamp := []

instance [Clock κ] : Clock (Watched κ) where
  now w :=
    let (t, clock) := Clock.now w.clock
    (t, ⟨clock, w.given ++ [t]⟩)

/-- The same event, where it comes to a service of which the clock is watched. -/
def Session.Event.watched : Session.Event κ → Session.Event (Watched κ)
  | .datagram bytes sender moment failure => .datagram bytes sender moment failure
  | .setState state => .setState state
  | .setClock clock => .setClock { clock }
  | .setAccess access => .setAccess access
  | .setRateLimit limit => .setRateLimit limit

namespace Service

/-- The same service, of which the clock is watched from now on. -/
def watched (s : Service κ) : Service (Watched κ) := { s with clock := { clock := s.clock } }

def unwatched (s : Service (Watched κ)) : Service κ := { s with clock := s.clock.clock }

def Handled.unwatched (h : Handled (Watched κ)) : Handled κ :=
  ⟨h.outcome, h.service.unwatched, h.log⟩

theorem judged_unwatched (s : Service (Watched κ)) (client : Address) (moment : Nat) :
    s.unwatched.judged client moment =
      ((s.judged client moment).1, (s.judged client moment).2.unwatched) := by
  unfold judged
  have hlimit : s.unwatched.rateLimit = s.rateLimit := rfl
  rw [hlimit]
  cases s.rateLimit <;> rfl

variable [Clock κ]

theorem answered_unwatched (s : Service (Watched κ)) (request : Packet) (a : Arrival) :
    s.unwatched.answered request a = (s.answered request a).unwatched := by
  have haccess : s.unwatched.access = s.access := rfl
  unfold answered
  rw [haccess, judged_unwatched]
  cases (s.access.check a.client).kiss? with
  | some k => rfl
  | none =>
    obtain ⟨verdict, s'⟩ := s.judged a.client a.moment
    cases verdict <;> rfl

theorem handle_unwatched (s : Service (Watched κ)) (a : Arrival) :
    s.unwatched.handle a = (s.handle a).unwatched := by
  unfold handle
  cases Request.ofDatagram a.bytes with
  | error fault => rfl
  | ok request => exact answered_unwatched (s.count (·.countRequest)) request a

theorem receive_unwatched (s : Service (Watched κ)) (bytes : Bytes) (sender : Endpoint)
    (moment : Nat) (failure : Option SystemFailure) :
    s.unwatched.receive bytes sender moment failure =
      (s.receive bytes sender moment failure).unwatched := by
  have hhandle := handle_unwatched
    ({ s with clock := (Clock.now s.clock).2 }.count
      (·.countBytesReceived (bytes.take receiveLimit).length))
    ⟨bytes.take receiveLimit, sender.address, (Clock.now s.clock).1, moment⟩
  unfold receive
  dsimp only
  generalize hl : Service.handle (_ : Service κ) _ = handled
  generalize Service.handle (_ : Service (Watched κ)) _ = watched at hhandle ⊢
  obtain rfl : handled = watched.unwatched := hl.symm.trans hhandle
  obtain ⟨outcome, service, log⟩ := watched
  cases outcome with
  | drop reason => rfl
  | respond answer => cases failure <;> rfl

theorem step_unwatched (s : Service (Watched κ)) (e : Session.Event κ) :
    s.unwatched.step e = ((s.step e.watched).1,
      (s.step e.watched).2.unwatched) := by
  cases e with
  | datagram bytes sender moment failure =>
    rw [step, receive_unwatched]
    rfl
  | setState state => rfl
  | setClock clock => rfl
  | setAccess access => rfl
  | setRateLimit limit => rfl

/-- Watching the clock of a server changes nothing that it does. -/
theorem run_unwatched (s : Service (Watched κ)) (es : List (Session.Event κ)) :
    s.unwatched.run es = ((s.run (es.map (·.watched))).1,
      (s.run (es.map (·.watched))).2.unwatched) := by
  induction es generalizing s with
  | nil => rfl
  | cons e es ih =>
    rw [run, step_unwatched]
    dsimp only
    rw [ih]
    rfl

end Service

variable [Clock κ]

namespace Reception
variable {r : Reception κ} {p : Packet} {answer : Bytes}

/-- The answer to the datagram, as its client reads it. -/
def answer? (r : Reception κ) : Option Packet :=
  match r.outcome with
  | .respond answer => (Packet.parse answer).toOption
  | .drop _ => none

/-- The times that the datagram has the clock read: that of its arrival, and that of the answer. -/
def readings (r : Reception κ) : List Timestamp :=
  r.arrival.received :: (r.answer?.map (·.transmitTime)).toList

/-- The times of receiving and sending in the answer. A kiss does not tell when the request was
received. -/
def stamps (r : Reception κ) : List Timestamp :=
  match r.answer? with
  | none => []
  | some p => if r.kiss? = none then [p.receiveTime, p.transmitTime] else [p.transmitTime]

theorem answer?_of_respond (h : r.outcome = .respond p.serialize) : r.answer? = some p := by
  simp only [answer?, h, Packet.parse_serialize, Except.toOption]

theorem isKiss_of_answer (r : Reception κ) {k : Kiss} (hp : r.answer? = some p)
    (hk : r.kiss? = some k) : IsKiss k r.arrival.bytes p := by
  cases h : r.outcome with
  | drop reason =>
    simp [answer?, h] at hp
  | respond answer =>
    obtain ⟨q, hparse, hkiss, -⟩ := parse_answer_cases h
    simp only [answer?, h, hparse, Except.toOption, Option.some.injEq] at hp
    exact hp ▸ hkiss k hk

/-- A datagram has the clock read once. An answer has it read once more, and tells its client that
time, and that of the arrival. -/
theorem answer_cases (r : Reception κ) :
    (r.isAnswered = false ∧ r.answer? = none ∧ r.after.clock = (Clock.now r.before.clock).2) ∨
    (r.isAnswered = true ∧ r.after.clock = (Clock.now (Clock.now r.before.clock).2).2 ∧
      ∃ p, r.answer? = some p ∧ p.transmitTime = (Clock.now (Clock.now r.before.clock).2).1 ∧
        (r.kiss? = none → p.referenceTime = r.arrival.received ∧
          p.receiveTime = r.arrival.received)) := by
  cases h : Request.ofDatagram r.arrival.bytes with
  | error fault =>
    obtain ⟨houtcome, hafter⟩ := of_error h
    refine Or.inl ⟨isAnswered_of_drop houtcome, by rw [answer?, houtcome], ?_⟩
    rw [hafter]
    rfl
  | ok request =>
    obtain ⟨hanswered, hafter⟩ := of_ok h
    have houtcome := (outcome_eq r).trans (Service.handle_outcome_of_ok h)
    refine Or.inr ⟨hanswered, ?_, _, answer?_of_respond houtcome, rfl, ?_⟩
    · rw [hafter, Service.count_clock, Service.answered_clock]
      rfl
    · intro hk
      rw [kiss?, hanswered, if_pos rfl, ← prepared_refusal] at hk
      simp only [Service.reply, hk]
      exact ⟨rfl, rfl⟩

theorem times_of_answer (r : Reception κ) (hp : r.answer? = some p) (hk : r.kiss? = none) :
    p.referenceTime = r.arrival.received ∧ p.receiveTime = r.arrival.received := by
  rcases answer_cases r with ⟨-, hnone, -⟩ | ⟨-, -, q, hq, -, htimes⟩
  · cases hnone.symm.trans hp
  · cases hq.symm.trans hp
    exact htimes hk

/-- What the answer tells is what has been read of the clock. -/
theorem stamps_sublist_readings (r : Reception κ) : r.stamps.Sublist r.readings := by
  cases hp : r.answer? with
  | none => simp [stamps, hp]
  | some p =>
    simp only [stamps, readings, hp, Option.map_some, Option.toList_some]
    split
    · rename_i hk
      simp only [(r.times_of_answer hp hk).2, List.Sublist.refl]
    · exact List.sublist_cons_self ..

/-- The datagram as it comes to the same service, of which the clock is not watched. -/
def unwatched (r : Reception (Watched κ)) : Reception κ := { r with before := r.before.unwatched }

theorem handled_unwatched (r : Reception (Watched κ)) : r.unwatched.handled = r.handled.unwatched :=
  Service.receive_unwatched ..

theorem readings_unwatched (r : Reception (Watched κ)) : r.unwatched.readings = r.readings := by
  have houtcome : r.unwatched.outcome = r.outcome := by
    rw [outcome, handled_unwatched]
    rfl
  rw [readings, answer?, houtcome]
  rfl

theorem after_given (r : Reception (Watched κ)) :
    r.after.clock.given = r.before.clock.given ++ r.readings := by
  rcases answer_cases r with ⟨-, hnone, hclock⟩ | ⟨-, hclock, p, hp, htransmit, -⟩
  · rw [hclock, readings, hnone]
    rfl
  · rw [hclock, readings, hp, Option.map_some, htransmit, Option.toList_some]
    exact List.append_assoc ..

end Reception

namespace Service

/-- A clock that is watched gives out the times of the datagrams and their answers, and no
others. -/
theorem given_run (s : Service (Watched κ)) (es : List (Session.Event κ))
    (hes : ∀ clock, Session.Event.setClock clock ∉ es) :
    (s.run (es.map (·.watched))).2.clock.given =
      s.clock.given ++ (s.unwatched.receptions es).flatMap Reception.readings := by
  induction es generalizing s with
  | nil => simp [run, receptions]
  | cons e es ih =>
    have htail := ih (s.step e.watched).2
      fun clock h => hes clock (List.mem_cons_of_mem e h)
    have hstep := congrArg Prod.snd (step_unwatched s e)
    dsimp only at hstep
    rw [← hstep] at htail
    rw [receptions, List.flatMap_append, ← List.append_assoc]
    refine htail.trans (congrArg (· ++ _) ?_)
    cases e with
    | datagram bytes sender moment failure =>
      have hgiven := Reception.after_given ⟨s, bytes, sender, moment, failure⟩
      rw [← Reception.readings_unwatched] at hgiven
      rw [reception?, Option.toList_some, List.flatMap_singleton]
      exact hgiven
    | setClock clock => exact absurd List.mem_cons_self (hes clock)
    | setState state => simp [reception?, step, Session.Event.watched]
    | setAccess access => simp [reception?, step, Session.Event.watched]
    | setRateLimit limit => simp [reception?, step, Session.Event.watched]

end Service

namespace ManualClock
variable {c : ManualClock} {r : Reception ManualClock} {k m : Nat}

/-- The clock after a number of readings. -/
def later (c : ManualClock) (k : Nat) : ManualClock := { c with bits := c.bits + .ofNat k * c.step }

/-- The time of the reading before which there have been `k` others. -/
def reading (c : ManualClock) (k : Nat) : Timestamp := .ofBits (c.bits + .ofNat k * c.step)

theorem bits_add_succ (c : ManualClock) (k : Nat) :
    c.bits + .ofNat (k + 1) * c.step = c.bits + .ofNat k * c.step + c.step := by
  rw [UInt64.ofNat_add, UInt64.add_mul, ← UInt64.add_assoc]
  simp

theorem later_zero (c : ManualClock) : c.later 0 = c := by
  simp [later]

theorem now_later (c : ManualClock) (k : Nat) :
    Clock.now (c.later k) = (c.reading k, c.later (k + 1)) := by
  rw [later, later, bits_add_succ]
  rfl

theorem toNat_bits_reading (h : c.bits.toNat + k * c.step.toNat < 2 ^ 64) :
    (c.reading k).bits.toNat = c.bits.toNat + k * c.step.toNat := by
  rw [reading, Timestamp.bits_ofBits, UInt64.toNat_add, UInt64.toNat_mul, UInt64.toNat_ofNat',
    Nat.mod_mul_mod, Nat.add_mod_mod, Nat.mod_eq_of_lt h]

theorem bits_reading_lt (hstep : 0 < c.step) (hk : k < m)
    (hm : c.bits.toNat + m * c.step.toNat < 2 ^ 64) :
    (c.reading k).bits < (c.reading m).bits := by
  have hlt : k * c.step.toNat < m * c.step.toNat := Nat.mul_lt_mul_of_pos_right hk hstep
  rw [UInt64.lt_iff_toNat_lt, toNat_bits_reading (by omega), toNat_bits_reading hm]
  omega

/-- Readings go up as long as they do not reach the end of an era. -/
theorem pairwise_reading (hstep : 0 < c.step)
    (hcount : c.bits.toNat + m * c.step.toNat < 2 ^ 64) :
    ((List.range m).map c.reading).Pairwise (·.bits < ·.bits) := by
  rw [List.pairwise_map]
  refine List.pairwise_lt_range.imp_of_mem ?_
  intro k l _ hl hlt
  have hle : l * c.step.toNat ≤ m * c.step.toNat :=
    Nat.mul_le_mul_right c.step.toNat (Nat.le_of_lt (List.mem_range.mp hl))
  exact bits_reading_lt hstep hlt (by omega)

end ManualClock

/-- How often a datagram has the clock read. -/
def Reception.reads (r : Reception κ) : Nat := if r.isAnswered then 2 else 1

theorem Reception.readings_of_later {r : Reception ManualClock} {c : ManualClock} {k : Nat}
    (h : r.before.clock = c.later k) :
    r.readings = (List.range' k r.reads).map c.reading ∧
      r.after.clock = c.later (k + r.reads) := by
  have hreceived : r.arrival.received = c.reading k := by
    change (Clock.now r.before.clock).1 = _
    rw [h, ManualClock.now_later]
  rcases answer_cases r with ⟨hno, hnone, hclock⟩ | ⟨hyes, hclock, p, hp, htransmit, -⟩
  · rw [h, ManualClock.now_later] at hclock
    simp [readings, reads, hno, hnone, hreceived, hclock]
  · rw [h, ManualClock.now_later] at hclock htransmit
    dsimp only at hclock htransmit
    rw [ManualClock.now_later] at hclock htransmit
    simp [readings, reads, hyes, hp, hreceived, htransmit, hclock, List.range']

namespace Service
variable {s : Service ManualClock}

/-- What a session reads of the clock goes on where the readings before it have ended. -/
theorem run_of_later (c : ManualClock) (k : Nat) (es : List (Session.Event ManualClock))
    (hes : ∀ clock, Session.Event.setClock clock ∉ es) (hs : s.clock = c.later k) :
    (s.receptions es).flatMap Reception.readings =
        (List.range' k ((s.receptions es).map (·.reads)).sum).map c.reading ∧
      (s.run es).2.clock = c.later (k + ((s.receptions es).map (·.reads)).sum) := by
  induction es generalizing s k with
  | nil => exact ⟨rfl, hs⟩
  | cons e es ih =>
    have hes' (clock : ManualClock) (h : Session.Event.setClock clock ∈ es) : False :=
      hes clock (List.mem_cons_of_mem e h)
    cases e with
    | datagram bytes sender moment failure =>
      obtain ⟨hreadings, hclock⟩ := Reception.readings_of_later
        (r := ⟨s, bytes, sender, moment, failure⟩) hs
      obtain ⟨htail, hfinal⟩ := ih _ hes' hclock
      have hstep : (s.step (.datagram bytes sender moment failure)).2 =
          Reception.after ⟨s, bytes, sender, moment, failure⟩ := rfl
      simp only [receptions, reception?, Option.toList_some, List.singleton_append,
        List.flatMap_cons, List.map_cons, List.sum_cons, run, hstep, hreadings, htail, hfinal]
      rw [← List.map_append, List.range'_append_1, Nat.add_assoc]
      exact ⟨rfl, rfl⟩
    | setClock clock => exact absurd List.mem_cons_self (hes clock)
    | setState state => exact ih k hes' hs
    | setAccess access => exact ih k hes' hs
    | setRateLimit limit => exact ih k hes' hs

theorem sum_reads (rs : List (Reception κ)) :
    (rs.map (·.reads)).sum = rs.length + rs.countP (·.isAnswered) := by
  induction rs with
  | nil => rfl
  | cons r rs ih =>
    rw [List.map_cons, List.sum_cons, ih, List.length_cons, List.countP_cons, Reception.reads]
    cases r.isAnswered <;> simp <;> omega

/-- The clock of a server is read once for each datagram and once more for each answer, and never
else, so that its readings are known by their number. As long as they do not reach the end of an
era, no time in an answer comes before one that was given earlier. -/
theorem clock_of_run (s : Service ManualClock) (es : List (Session.Event ManualClock))
    (hes : ∀ clock, Session.Event.setClock clock ∉ es) :
    let rs := s.receptions es
    let count := rs.length + rs.countP (·.isAnswered)
    let watched := s.watched.run (es.map (·.watched))
    rs.map (·.datagram) = es.filterMap Session.Event.datagram? ∧
    rs.map (·.outcome) = (s.run es).1 ∧
    watched.1 = (s.run es).1 ∧ watched.2.unwatched = (s.run es).2 ∧
    watched.2.clock.given = (List.range count).map (fun k =>
      Timestamp.ofBits (s.clock.bits + .ofNat k * s.clock.step)) ∧
    watched.2.clock.given = rs.flatMap Reception.readings ∧
    (s.run es).2.clock = ⟨s.clock.bits + .ofNat count * s.clock.step, s.clock.step⟩ ∧
    (0 < s.clock.step → s.clock.bits.toNat + count * s.clock.step.toNat < 2 ^ 64 →
      (∀ r ∈ rs, ∀ p, r.answer? = some p →
        (∀ k, r.kiss? = some k → IsKiss k r.arrival.bytes p) ∧
        (r.kiss? = none → p.receiveTime = p.referenceTime ∧
          p.referenceTime.bits < p.transmitTime.bits)) ∧
      rs.Pairwise fun earlier later =>
        ∀ x ∈ earlier.stamps, ∀ y ∈ later.stamps, x.bits < y.bits) := by
  intro rs count watched
  obtain ⟨hreadings, hclock⟩ := run_of_later s.clock 0 es hes (ManualClock.later_zero _).symm
  rw [sum_reads, ← List.range_eq_range'] at hreadings
  rw [sum_reads, Nat.zero_add] at hclock
  have hrun := run_unwatched s.watched es
  have hgiven : watched.2.clock.given = rs.flatMap Reception.readings := given_run s.watched es hes
  refine ⟨datagrams_receptions s es, outcomes_receptions s es, (congrArg Prod.fst hrun).symm,
    (congrArg Prod.snd hrun).symm, hgiven.trans hreadings, hgiven, hclock, ?_⟩
  intro hstep hera
  have hincreasing : (rs.flatMap Reception.readings).Pairwise (·.bits < ·.bits) :=
    hreadings ▸ ManualClock.pairwise_reading hstep hera
  rw [List.pairwise_flatMap] at hincreasing
  refine ⟨?_, hincreasing.2.imp ?_⟩
  · intro r hr p hp
    refine ⟨fun k => r.isKiss_of_answer hp, ?_⟩
    intro hk
    have hordered := hincreasing.1 r hr
    obtain ⟨hreference, hreceive⟩ := r.times_of_answer hp hk
    rw [Reception.readings, hp, ← hreference] at hordered
    exact ⟨hreceive.trans hreference.symm, by simpa using hordered⟩
  · intro earlier later h x hx y hy
    exact h x (earlier.stamps_sublist_readings.subset hx) y
      (later.stamps_sublist_readings.subset hy)

/-- A client is turned away, sends something short, and is served once the limit is gone. -/
theorem clock_of_run_justServed :
    let ask : Session.Event ManualClock :=
      .datagram askedAgain.bytes ⟨askedAgain.client, 40000⟩ 1 none
    let es := [ask, .datagram [0] ⟨askedAgain.client, 40000⟩ 2 none, .setRateLimit none, ask]
    0 < justServed.clock.step ∧ (justServed.run es).2.clock = ⟨0x500000005, 1⟩ ∧
      (justServed.watched.run (es.map (·.watched))).2.clock.given =
        [⟨5, 0⟩, ⟨5, 1⟩, ⟨5, 2⟩, ⟨5, 3⟩, ⟨5, 4⟩] ∧
      (justServed.receptions es).map (·.stamps) = [[⟨5, 1⟩], [], [⟨5, 3⟩, ⟨5, 4⟩]] ∧
      (justServed.receptions es).Pairwise fun earlier later =>
        ∀ x ∈ earlier.stamps, ∀ y ∈ later.stamps, x.bits < y.bits := by
  intro ask es
  have hes : ∀ clock, Session.Event.setClock clock ∉ es := by
    simp [es, ask]
  have hcount : (justServed.receptions es).length +
      (justServed.receptions es).countP (·.isAnswered) = 5 := by
    decide +kernel
  obtain ⟨-, -, -, -, hgiven, -, hclock, hordered⟩ := clock_of_run justServed es hes
  rw [hcount] at hgiven hclock hordered
  have hstep : 0 < justServed.clock.step := by decide
  refine ⟨hstep, hclock.trans (by decide), hgiven.trans (by decide +kernel), by decide +kernel, ?_⟩
  exact (hordered hstep (by decide)).2

end Service
end NetworkTime
