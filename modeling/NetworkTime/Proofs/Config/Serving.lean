import Mathlib.Data.List.Forall2
import NetworkTime.Config.Serving
import NetworkTime.Proofs.Address.Roundtrip
import NetworkTime.Proofs.ReferenceId
import NetworkTime.Proofs.Service.Reception
import NetworkTime.Proofs.Service.Reflection

/-! A configuration without problems is one that can be served, and its server keeps to it. -/

namespace NetworkTime
open Wire

namespace Plan
variable {p : Plan} {nets : List Network}

/-- Once the endpoint is known, only the system can refuse it. -/
theorem bind_of_endpoint {σ : Type} {e : Endpoint} (he : p.endpoint = .ok e)
    (listen : Endpoint → Except SystemFailure σ) :
    p.bind listen = match listen e with
      | .ok socket => .ok (e, socket)
      | .error failure => .error (.system failure) := by
  have hlisten : p.bind listen =
      (listen e).mapError .system >>= fun socket => .ok (e, socket) := by
    rw [bind, he]
    rfl
  rw [hlisten]
  cases listen e <;> rfl

/-- One network more on a list, which there may not be yet. -/
def adding (list : Option (List Network)) (net : Network) : Option (List Network) :=
  some (list.getD [] ++ [net])

theorem foldl_adding (list : Option (List Network)) (nets : List Network) :
    nets.foldl adding list = if nets = [] then list else some (list.getD [] ++ nets) := by
  induction nets generalizing list with
  | nil => rfl
  | cons net nets ih =>
    rw [List.foldl_cons, ih]
    by_cases hnets : nets = [] <;> simp [adding, hnets]

theorem foldl_allowing (p : Plan) (nets : List Network) :
    nets.foldl allowing p = { p with access.allow := nets.foldl adding p.access.allow } := by
  induction nets generalizing p with
  | nil => rfl
  | cons net nets ih => exact ih (p.allowing net)

theorem foldl_denying (p : Plan) (nets : List Network) :
    nets.foldl denying p = { p with access.deny := nets.foldl adding p.access.deny } := by
  induction nets generalizing p with
  | nil => rfl
  | cons net nets ih => exact ih (p.denying net)

end Plan

namespace Config
variable {c : Config} {entries : List String} {nets : List Network} {client : Address}

@[simp] theorem require_eq_nil_iff {rule : Bool} {problem : Problem} :
    require rule problem = [] ↔ rule = true := by
  cases rule <;> simp [require]

/-- The entries of a list as networks. -/
def Reads (entries : List String) (nets : List Network) : Prop :=
  List.Forall₂ (fun entry net => Network.parse entry.toList = .ok net) entries nets

/-- Some entry of the list is a network that holds the client. -/
def Lists (entries : List String) (client : Address) : Prop :=
  ∃ entry ∈ entries, ∃ net, Network.parse entry.toList = .ok net ∧ net.contains client = true

theorem exists_reads {list : String} (h : checkNetworks list entries = []) :
    ∃ nets, Reads entries nets := by
  induction entries with
  | nil => exact ⟨[], .nil⟩
  | cons entry entries ih =>
    rw [checkNetworks, List.flatMap_cons, List.append_eq_nil_iff] at h
    obtain ⟨nets, hnets⟩ := ih h.2
    cases hparse : Network.parse entry.toList with
    | error fault => simp [hparse] at h
    | ok net => exact ⟨net :: nets, .cons hparse hnets⟩

theorem Reads.lists_iff (h : Reads entries nets) :
    Lists entries client ↔ ∃ net ∈ nets, net.contains client = true := by
  induction h with
  | nil => simp [Lists]
  | @cons entry net entries nets hparse _ ih =>
    have hhead : (∃ net', Network.parse entry.toList = .ok net' ∧ net'.contains client = true) ↔
        net.contains client = true := by
      simp [hparse]
    rw [Lists, List.exists_mem_cons_iff, List.exists_mem_cons_iff, hhead]
    exact or_congr Iff.rfl ih

theorem Reads.eq_nil_iff (h : Reads entries nets) : nets = [] ↔ entries = [] := by
  cases h <;> simp

theorem Reads.withNetworks_eq (h : Reads entries nets) (change : Plan → Network → Plan)
    (p : Plan) : withNetworks change p entries = .ok (nets.foldl change p) := by
  induction h generalizing p with
  | nil => rfl
  | cons hparse _ ih =>
    rw [withNetworks, hparse]
    exact ih _

/-- Adding networks to no list denies the clients that they hold. -/
theorem denies_adding_iff (allow : Option (List Network)) :
    (AccessControl.mk allow (nets.foldl Plan.adding none)).Denies client ↔
      ∃ net ∈ nets, net.contains client = true := by
  rw [Plan.foldl_adding]
  by_cases hnets : nets = [] <;> simp [AccessControl.Denies, hnets]

/-- Adding networks to no list excludes the clients that they do not hold, once there is one. -/
theorem excludes_adding_iff (deny : Option (List Network)) :
    (AccessControl.mk (nets.foldl Plan.adding none) deny).Excludes client ↔
      nets ≠ [] ∧ ¬ ∃ net ∈ nets, net.contains client = true := by
  rw [Plan.foldl_adding]
  by_cases hnets : nets = [] <;> simp [AccessControl.Excludes, hnets]

/-- What a configured server says about itself. -/
def state (c : Config) : SystemState where
  leap := c.server.leap
  stratum := c.server.stratum
  poll := c.server.poll
  precision := c.server.precision
  referenceId := .ofText c.server.referenceId

/-- The clients that are allowed, as far as that counts. -/
def allowed (c : Config) : List String :=
  if c.security.restrictQueries then c.security.allowedClients else []

theorem plan_eq {a : Address} {served denied : List Network}
    (ha : Address.parse? c.network.listenAddress.toList = some a)
    (hserved : Reads c.allowed served) (hdenied : Reads c.security.deniedClients denied) :
    c.plan = .ok
      { listen := (Endpoint.mk a c.network.listenPort).text
        state := c.state
        access := ⟨served.foldl Plan.adding none, denied.foldl Plan.adding none⟩
        rateLimit := perMinute c.security.rateLimit
        maxClients := c.performance.maxClients.toNat
        workers := c.performance.workerThreads.toNat } := by
  have hendpoint : c.endpoint = .ok ⟨a, c.network.listenPort⟩ := by simp [endpoint, ha]
  have hopen := hserved.withNetworks_eq Plan.allowing
  have hclosed := hdenied.withNetworks_eq Plan.denying
  rw [allowed] at hopen
  simp only [plan, hendpoint, Except.mapError, bind, Except.bind, hopen, hclosed,
    Plan.foldl_allowing, Plan.foldl_denying]
  rfl

theorem exists_reads_allowed (h : checkNetworks "allowed_clients" c.security.allowedClients = []) :
    ∃ nets, Reads c.allowed nets := by
  unfold allowed
  split
  · exact exists_reads h
  · exact ⟨[], .nil⟩

/-- The allowed networks turn a client away if they count, and there are some, but none for it. -/
theorem excludes_allowed_iff (h : Reads c.allowed nets) (deny : Option (List Network)) :
    (AccessControl.mk (nets.foldl Plan.adding none) deny).Excludes client ↔
      c.security.restrictQueries = true ∧ c.security.allowedClients ≠ [] ∧
        ¬ Lists c.security.allowedClients client := by
  rw [excludes_adding_iff, ← h.lists_iff, ne_eq, h.eq_nil_iff]
  cases hr : c.security.restrictQueries <;> simp [allowed, hr]

theorem exists_listenAddress (h : checkListenAddress c.network = []) :
    ∃ a, Address.parse? c.network.listenAddress.toList = some a := by
  unfold checkListenAddress at h
  split at h
  · exact ⟨_, ‹_›⟩
  · cases h

/-- The rules that the server checks once more. -/
theorem fault_state_eq_none (hstratum : Stratum.isServer c.server.stratum = true)
    (hpoll : Poll.isAllowed c.server.poll = true) (hprecision : c.server.precision ≤ 0) :
    c.state.fault? = none :=
  (SystemState.fault?_eq_none_iff c.state).mpr
    ⟨hstratum, hpoll, Int8.le_iff_toInt_le.mp hprecision⟩

/-- A packet that shows what the configuration says of its server. -/
structure Describes (c : Config) (p : Packet) : Prop where
  leap : p.leap = c.server.leap
  stratum : p.stratum = c.server.stratum
  poll : p.poll = c.server.poll
  precision : p.precision = c.server.precision
  referenceId : p.referenceId.bytes =
    (c.server.referenceId.toUTF8.data.toList ++ [0, 0, 0, 0]).take 4
  rootDelay : p.rootDelay = ⟨0, 0⟩
  rootDispersion : p.rootDispersion = ⟨0, 0⟩

theorem describes_of_isAnswer {p : Packet} {received : Timestamp}
    (h : IsAnswer c.state received p) : c.Describes p where
  leap := h.leap
  stratum := h.stratum
  poll := h.poll
  precision := h.precision
  referenceId := by
    rw [h.referenceId]
    exact ReferenceId.bytes_ofBytes _
  rootDelay := h.rootDelay
  rootDispersion := h.rootDispersion

/-- A configuration without problems gives a plan that only the system below can refuse. Its server
turns away the clients of the denied networks, and those outside the allowed ones if these count and
there are any. It limits the rate if the configuration does, and it tells about itself what the
configuration says. -/
theorem plan_of_problems_eq_nil (h : c.problems = []) : ∃ p a,
    c.plan = .ok p ∧ Address.parse? c.network.listenAddress.toList = some a ∧
    p.endpoint = .ok ⟨a, c.network.listenPort⟩ ∧
    (∀ (σ : Type) (listen : Endpoint → Except SystemFailure σ),
      p.bind listen = match listen ⟨a, c.network.listenPort⟩ with
        | .ok socket => .ok (⟨a, c.network.listenPort⟩, socket)
        | .error failure => .error (.system failure)) ∧
    (∀ client,
      (p.access.check client = .deny ↔ Lists c.security.deniedClients client) ∧
      (p.access.check client = .restrict ↔ ¬ Lists c.security.deniedClients client ∧
        c.security.restrictQueries = true ∧ c.security.allowedClients ≠ [] ∧
        ¬ Lists c.security.allowedClients client) ∧
      (p.access.check client = .allow ↔ ¬ Lists c.security.deniedClients client ∧
        ¬ (c.security.restrictQueries = true ∧ c.security.allowedClients ≠ [] ∧
          ¬ Lists c.security.allowedClients client))) ∧
    (p.rateLimit = if 0 < c.security.rateLimit then
      some { maxRequests := c.security.rateLimit, window := 60 * 10 ^ 9, minInterval := 0 }
      else none) ∧
    (∀ (κ : Type) [Clock κ] (clock : κ) (metrics : Option Metrics)
      (es : List (Session.Event κ)), (∀ state, Session.Event.setState state ∉ es) →
      ∀ r ∈ (p.service clock metrics).receptions es, ∀ answer, r.outcome = .respond answer →
        ∃ q, Packet.parse answer = .ok q ∧
          (∀ k, r.kiss? = some k → IsKiss k r.arrival.bytes q) ∧
          (r.kiss? = none → c.Describes q)) := by
  simp only [problems, List.append_eq_nil_iff, require_eq_nil_iff, bne_iff_ne,
    decide_eq_true_eq] at h
  obtain ⟨⟨⟨⟨⟨⟨⟨⟨⟨⟨⟨haddress, -⟩, hstratum⟩, -⟩, hpoll⟩, hprecision⟩, hallowed⟩, hdenied⟩,
    hworkers⟩, -⟩, -⟩, -⟩ := h
  obtain ⟨a, ha⟩ := exists_listenAddress haddress
  obtain ⟨served, hserved⟩ := exists_reads_allowed hallowed
  obtain ⟨denied, hdenied⟩ := exists_reads hdenied
  have hplan := plan_eq ha hserved hdenied
  generalize hp : Plan.mk _ _ _ _ _ _ = p at hplan
  have hendpoint : p.endpoint = .ok ⟨a, c.network.listenPort⟩ := by
    have hfault := fault_state_eq_none hstratum hpoll hprecision
    have hpositive : c.performance.workerThreads.toNat ≠ 0 := by
      simpa [← UInt64.toNat_inj] using hworkers
    rw [← hp, Plan.endpoint]
    simp [hfault, hpositive, Endpoint.parse?_text]
  refine ⟨p, a, hplan, ha, hendpoint,
    fun _ => Plan.bind_of_endpoint hendpoint, ?_, ?_, ?_⟩
  · intro client
    let access : AccessControl := ⟨served.foldl Plan.adding none, denied.foldl Plan.adding none⟩
    have hdenies : access.Denies client ↔ Lists c.security.deniedClients client :=
      (denies_adding_iff _).trans hdenied.lists_iff.symm
    have hexcludes : access.Excludes client ↔ _ := excludes_allowed_iff hserved _
    rw [← hdenies, ← hexcludes, ← hp]
    exact access.check_iff client
  · rw [← hp]
    rfl
  · intro κ _ clock metrics es hes r hr answer hanswer
    obtain ⟨q, hparse, hkiss, hnormal⟩ := Reception.parse_answer_cases hanswer
    have hstate : r.before.state = c.state := by
      rw [Service.state_of_mem_receptions hes hr, ← hp]
      rfl
    exact ⟨q, hparse, hkiss, fun hk => describes_of_isAnswer (hstate ▸ hnormal hk)⟩

/-- A server for one network, except one of its addresses. -/
def guarded : Config where
  network := { listenAddress := "2001:db8::1", listenPort := 1123 }
  security :=
    { restrictQueries := true
      allowedClients := ["192.0.2.0/24"]
      deniedClients := [" 192.0.2.7 "]
      rateLimit := 30 }

theorem plan_of_problems_eq_nil_guarded : guarded.problems = [] ∧ ∃ p,
    guarded.plan = .ok p ∧
    p.endpoint = .ok ⟨.v6 0x20010DB8000000000000000000000001#128, 1123⟩ ∧
    p.access.check (.v4 0xC0000207#32) = .deny ∧
    p.rateLimit = some { maxRequests := 30, window := 60000000000, minInterval := 0 } := by
  have hproblems : guarded.problems = [] := by decide +kernel
  have haddress : Address.parse? guarded.network.listenAddress.toList =
      some (.v6 0x20010DB8000000000000000000000001#128) := by
    decide +kernel
  obtain ⟨p, a, hplan, ha, hendpoint, -, hcheck, hlimit, -⟩ := plan_of_problems_eq_nil hproblems
  rw [haddress] at ha
  cases ha
  refine ⟨hproblems, p, hplan, hendpoint, (hcheck _).1.mpr ?_, hlimit⟩
  exact ⟨" 192.0.2.7 ", by decide, .host (.v4 0xC0000207#32), by decide +kernel, by decide +kernel⟩

end Config
end NetworkTime
