import NetworkTime.Config.Check
import NetworkTime.Config.Setting
import NetworkTime.Proofs.Network.Grammar
import NetworkTime.Proofs.Packet.Header

/-! What is wrong with a configuration, item by item, and that the list of its problems tells just
this. -/

namespace NetworkTime.Config
variable {c : Config} {s : Setting} {p q : Problem} {ps qs : List Problem}

/-- The settings that have rules, in the order in which they are judged. -/
def judged : List Setting :=
  [.listenAddress, .listenPort, .stratum, .referenceId, .poll, .precision, .allowedClients,
    .deniedClients, .workerThreads, .maxClients, .statsInterval, .logFile]

/-- What is judged at once: a setting, or an entry of one that is a list of networks. -/
inductive Item
  | whole (s : Setting)
  | entry (s : Setting) (text : String)

def Item.setting : Item → Setting
  | whole s => s
  | entry s _ => s

/-- The items of a setting, those of a list in its order. -/
def items (c : Config) : Setting → List Item
  | .allowedClients => c.security.allowedClients.map (.entry .allowedClients)
  | .deniedClients => c.security.deniedClients.map (.entry .deniedClients)
  | s => [.whole s]

/-- An item breaks its rule, with the problem that tells of it. -/
inductive Breaks (c : Config) : Item → Problem → Prop
  | v6Disabled {bits : BitVec 128} (ha : Address.Writes c.network.listenAddress.toList (.v6 bits))
      (h : c.network.enableV6 = false) : Breaks c (.whole .listenAddress) (.v6Disabled (.v6 bits))
  | listenAddress (h : ∀ a, ¬ Address.Writes c.network.listenAddress.toList a) :
      Breaks c (.whole .listenAddress) (.badListenAddress c.network.listenAddress)
  | listenPort (h : c.network.listenPort = 0) : Breaks c (.whole .listenPort) .zeroPort
  | stratum (h : c.server.stratum = 0 ∨ 15 < c.server.stratum.toNat) :
      Breaks c (.whole .stratum) (.stratumOutOfRange c.server.stratum)
  | referenceId (h : Text.IsBlanks c.server.referenceId.toList) :
      Breaks c (.whole .referenceId) .emptyReferenceId
  | poll (h : c.server.poll.toInt < 4 ∨ 17 < c.server.poll.toInt) :
      Breaks c (.whole .poll) (.pollOutOfRange c.server.poll)
  | precision (h : 0 < c.server.precision.toInt) :
      Breaks c (.whole .precision) (.positivePrecision c.server.precision)
  | entry {s : Setting} {text : String} {fault : Network.Fault}
      (h : Network.parse text.toList = .error fault) :
      Breaks c (.entry s text) (.badNetwork s.name text fault)
  | workerThreads (h : c.performance.workerThreads = 0) :
      Breaks c (.whole .workerThreads) .noWorkers
  | maxClients (h : c.performance.maxClients = 0) : Breaks c (.whole .maxClients) .noClients
  | statsInterval (hon : c.performance.enableStatistics = true)
      (h : c.performance.statsInterval = 0) : Breaks c (.whole .statsInterval) .zeroStatsInterval
  | logFile (hon : c.logging.destination.toFile = true) (h : c.logging.logFile = "") :
      Breaks c (.whole .logFile) .noLogFile

/-- A list of the problems of all items that break their rules, in the order of the items. -/
inductive Reports (c : Config) : List Item → List Problem → Prop
  | nil : Reports c [] []
  | kept {item : Item} {rest : List Item} {ps : List Problem} (h : ∀ p, ¬ Breaks c item p)
      (hrest : Reports c rest ps) : Reports c (item :: rest) ps
  | broken {item : Item} {rest : List Item} {p : Problem} {ps : List Problem}
      (h : Breaks c item p) (hrest : Reports c rest ps) : Reports c (item :: rest) (p :: ps)

/-- The problems of one setting. -/
def problemsOf (c : Config) : Setting → List Problem
  | .listenAddress => checkListenAddress c.network
  | .listenPort => require (c.network.listenPort != 0) .zeroPort
  | .stratum => require (Stratum.isServer c.server.stratum) (.stratumOutOfRange c.server.stratum)
  | .referenceId => require (!(Text.trim c.server.referenceId.toList).isEmpty) .emptyReferenceId
  | .poll => require (Poll.isAllowed c.server.poll) (.pollOutOfRange c.server.poll)
  | .precision => require (c.server.precision ≤ 0) (.positivePrecision c.server.precision)
  | .allowedClients => checkNetworks "allowed_clients" c.security.allowedClients
  | .deniedClients => checkNetworks "denied_clients" c.security.deniedClients
  | .workerThreads => require (c.performance.workerThreads != 0) .noWorkers
  | .maxClients => require (c.performance.maxClients != 0) .noClients
  | .statsInterval =>
    require (!c.performance.enableStatistics || c.performance.statsInterval != 0)
      .zeroStatsInterval
  | .logFile => require (!c.logging.destination.toFile || c.logging.logFile != "") .noLogFile
  | _ => []

theorem problems_eq_flatMap (c : Config) : c.problems = judged.flatMap c.problemsOf := by
  simp only [problems, judged, problemsOf, List.flatMap_cons, List.flatMap_nil, List.append_nil,
    List.append_assoc]

theorem Breaks.unique {item : Item} (h : Breaks c item p) (h' : Breaks c item q) : p = q := by
  cases h with
  | v6Disabled ha _ =>
    cases h' with
    | v6Disabled ha' _ =>
      rw [← Address.parse?_eq_some_iff] at ha ha'
      rw [Option.some.inj (ha.symm.trans ha')]
    | listenAddress hnone => exact absurd ha (hnone _)
  | listenAddress hnone =>
    cases h' with
    | v6Disabled ha _ => exact absurd ha (hnone _)
    | listenAddress _ => rfl
  | entry hfault =>
    cases h' with
    | entry hfault' => rw [Except.error.inj (hfault.symm.trans hfault')]
  | _ => cases h'; rfl

theorem Reports.unique {items : List Item} (h : Reports c items ps) (h' : Reports c items qs) :
    ps = qs := by
  induction h generalizing qs with
  | nil => cases h'; rfl
  | kept hkept _ ih =>
    cases h' with
    | kept _ hrest => exact ih hrest
    | broken hbroken _ => exact absurd hbroken (hkept _)
  | broken hbroken _ ih =>
    cases h' with
    | kept hkept _ => exact absurd hbroken (hkept _)
    | broken hbroken' hrest => rw [hbroken.unique hbroken', ih hrest]

theorem Reports.append {items items' : List Item} (h : Reports c items ps)
    (h' : Reports c items' qs) : Reports c (items ++ items') (ps ++ qs) := by
  induction h with
  | nil => exact h'
  | kept hkept _ ih => exact .kept hkept ih
  | broken hbroken _ ih => exact .broken hbroken ih

theorem reports_nil_iff {items : List Item} :
    Reports c items [] ↔ ∀ item ∈ items, ∀ p, ¬ Breaks c item p := by
  induction items with
  | nil => exact ⟨fun _ _ h => absurd h List.not_mem_nil, fun _ => .nil⟩
  | cons item items ih =>
    rw [List.forall_mem_cons, ← ih]
    constructor
    · intro h
      cases h with
      | kept hkept hrest => exact ⟨hkept, hrest⟩
    · rintro ⟨hkept, hrest⟩
      exact .kept hkept hrest

/-- A required rule is reported if the requirement fails just where the rule is broken. -/
theorem reports_require {item : Item} {rule : Bool} (hbroken : rule = false → Breaks c item p)
    (hkept : ∀ q, Breaks c item q → rule = false) : Reports c [item] (require rule p) := by
  cases rule with
  | true => exact .kept (fun q hq => absurd (hkept q hq) (by decide)) .nil
  | false => exact .broken (hbroken rfl) .nil

theorem reports_checkListenAddress (c : Config) :
    Reports c [.whole .listenAddress] (checkListenAddress c.network) := by
  unfold checkListenAddress
  split
  · rename_i a ha
    rw [Address.parse?_eq_some_iff] at ha
    cases a with
    | v4 bits =>
      refine .kept ?_ .nil
      intro p hp
      cases hp with
      | v6Disabled ha' _ =>
        rw [← Address.parse?_eq_some_iff] at ha ha'
        cases ha.symm.trans ha'
      | listenAddress hnone => exact hnone _ ha
    | v6 bits =>
      apply reports_require
      · intro h
        exact .v6Disabled ha (by simpa [Address.isV6] using h)
      · intro q hq
        cases hq with
        | v6Disabled _ h => simp [Address.isV6, h]
        | listenAddress hnone => exact absurd ha (hnone _)
  · rename_i hnone
    refine .broken (.listenAddress ?_) .nil
    intro a ha
    rw [Address.parse?_eq_some_iff.mpr ha] at hnone
    cases hnone

theorem reports_checkNetworks (c : Config) (s : Setting) (entries : List String) :
    Reports c (entries.map (.entry s)) (checkNetworks s.name entries) := by
  induction entries with
  | nil => exact .nil
  | cons text entries ih =>
    rw [List.map_cons, checkNetworks, List.flatMap_cons, ← checkNetworks]
    cases hparse : Network.parse text.toList with
    | ok net =>
      refine .kept ?_ ih
      intro p hp
      cases hp with
      | entry hfault => cases hparse.symm.trans hfault
    | error fault => exact .broken (.entry hparse) ih

theorem isServer_eq_false_iff (stratum : UInt8) :
    Stratum.isServer stratum = false ↔ stratum = 0 ∨ 15 < stratum.toNat := by
  rw [Bool.eq_false_iff, Ne, Stratum.isServer_iff]
  by_cases h : stratum = 0
  · simp [h]
  · simp [h]

theorem isAllowed_eq_false_iff (poll : Int8) :
    Poll.isAllowed poll = false ↔ poll.toInt < 4 ∨ 17 < poll.toInt := by
  rw [Bool.eq_false_iff, Ne, Poll.isAllowed_iff]
  omega

theorem decide_le_zero_eq_false_iff (precision : Int8) :
    decide (precision ≤ 0) = false ↔ 0 < precision.toInt := by
  rw [decide_eq_false_iff_not, Int8.le_iff_toInt_le, Int.not_le]
  rfl

/-- The problems of a setting are those of its items, each of them once and in their order. -/
theorem reports_problemsOf (c : Config) (s : Setting) :
    Reports c (c.items s) (c.problemsOf s) := by
  cases s with
  | listenAddress => exact reports_checkListenAddress c
  | allowedClients => exact reports_checkNetworks c .allowedClients _
  | deniedClients => exact reports_checkNetworks c .deniedClients _
  | listenPort =>
    refine reports_require (fun h => .listenPort (by simpa using h)) fun q hq => ?_
    cases hq with
    | listenPort h => simp [h]
  | stratum =>
    refine reports_require (fun h => .stratum ((isServer_eq_false_iff _).mp h)) fun q hq => ?_
    cases hq with
    | stratum h => exact (isServer_eq_false_iff _).mpr h
  | referenceId =>
    refine reports_require (fun h => .referenceId ?_) fun q hq => ?_
    · rw [Bool.not_eq_false', List.isEmpty_iff] at h
      exact Text.isBlanks_of_trim_eq_nil h
    cases hq with
    | referenceId h => simp [Text.trim_eq_nil h]
  | poll =>
    refine reports_require (fun h => .poll ((isAllowed_eq_false_iff _).mp h)) fun q hq => ?_
    cases hq with
    | poll h => exact (isAllowed_eq_false_iff _).mpr h
  | precision =>
    refine reports_require (fun h => .precision ((decide_le_zero_eq_false_iff _).mp h))
      fun q hq => ?_
    cases hq with
    | precision h => exact (decide_le_zero_eq_false_iff _).mpr h
  | workerThreads =>
    refine reports_require (fun h => .workerThreads (by simpa using h)) fun q hq => ?_
    cases hq with
    | workerThreads h => simp [h]
  | maxClients =>
    refine reports_require (fun h => .maxClients (by simpa using h)) fun q hq => ?_
    cases hq with
    | maxClients h => simp [h]
  | statsInterval =>
    refine reports_require (fun h => ?_) fun q hq => ?_
    · have hboth : c.performance.enableStatistics = true ∧ c.performance.statsInterval = 0 := by
        simpa using h
      exact .statsInterval hboth.1 hboth.2
    cases hq with
    | statsInterval hon h => simp [hon, h]
  | logFile =>
    refine reports_require (fun h => ?_) fun q hq => ?_
    · have hboth : c.logging.destination.toFile = true ∧ c.logging.logFile = "" := by
        simpa using h
      exact .logFile hboth.1 hboth.2
    cases hq with
    | logFile hon h => simp [hon, h]
  | _ =>
    refine .kept (fun p hp => ?_) .nil
    cases hp

theorem reports_flatMap (c : Config) (settings : List Setting) :
    Reports c (settings.flatMap c.items) (settings.flatMap c.problemsOf) := by
  induction settings with
  | nil => exact .nil
  | cons s settings ih => exact (reports_problemsOf c s).append ih

theorem problemsOf_eq_iff : c.problemsOf s = ps ↔ Reports c (c.items s) ps := by
  constructor
  · rintro rfl
    exact reports_problemsOf c s
  · exact (reports_problemsOf c s).unique

theorem problemsOf_eq_nil_iff :
    c.problemsOf s = [] ↔ ∀ item ∈ c.items s, ∀ p, ¬ Breaks c item p := by
  rw [problemsOf_eq_iff, reports_nil_iff]

/-- The list of all problems is the only report on all items. -/
theorem problems_eq_iff : c.problems = ps ↔ Reports c (judged.flatMap c.items) ps := by
  have hreports := reports_flatMap c judged
  rw [← problems_eq_flatMap] at hreports
  constructor
  · rintro rfl
    exact hreports
  · exact hreports.unique

end NetworkTime.Config
