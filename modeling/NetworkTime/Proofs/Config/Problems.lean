import NetworkTime.Daemon
import NetworkTime.Proofs.Config.Assign
import NetworkTime.Proofs.Config.Reports

/-! The problems of a configuration: one for each rule that is broken, in the order of the rules.
Each setting is judged on its own, except for three that depend on one more setting. -/

namespace NetworkTime.Config
variable {c d : Config} {s t : Setting}

/-- The settings that the rule of a setting depends on. -/
def Setting.dependsOn : Setting → List Setting
  | listenAddress => [listenAddress, enableV6]
  | statsInterval => [statsInterval, enableStatistics]
  | logFile => [logFile, destination]
  | s => [s]

theorem problemsOf_congr (h : ∀ t ∈ s.dependsOn, c.get t = d.get t) :
    c.problemsOf s = d.problemsOf s := by
  cases s with
  | listenAddress =>
    have haddress : c.network.listenAddress = d.network.listenAddress :=
      h .listenAddress (by decide)
    have henabled : c.network.enableV6 = d.network.enableV6 := h .enableV6 (by decide)
    simp only [problemsOf, checkListenAddress, haddress, henabled]
  | statsInterval =>
    have hinterval : c.performance.statsInterval = d.performance.statsInterval :=
      h .statsInterval (by decide)
    have henabled : c.performance.enableStatistics = d.performance.enableStatistics :=
      h .enableStatistics (by decide)
    simp only [problemsOf, hinterval, henabled]
  | logFile =>
    have hfile : c.logging.logFile = d.logging.logFile := h .logFile (by decide)
    have hdestination : c.logging.destination = d.logging.destination :=
      h .destination (by decide)
    simp only [problemsOf, hfile, hdestination]
  | listenPort | stratum | referenceId | poll | precision | allowedClients | deniedClients
  | workerThreads | maxClients =>
    have hget := h _ (List.mem_singleton_self _)
    simp only [get] at hget
    simp only [problemsOf, hget]
  | _ => rfl

/-- No rule depends on a setting that has a rule of its own, except that rule. -/
theorem eq_of_mem_dependsOn (hs : s ∈ judged) (h : s ∈ t.dependsOn) : s = t := by
  cases t <;> revert s <;> decide

theorem problemsOf_set_of_ne (hs : s ∈ judged) (h : t ≠ s) (c : Config) (v : s.kind.Value) :
    (c.set s v).problemsOf t = c.problemsOf t := by
  apply problemsOf_congr
  intro u hu
  apply get_set_of_ne
  rintro rfl
  exact h (eq_of_mem_dependsOn hs hu).symm

/-- A setting without problems of its own is gone from the list, and nothing else is. -/
theorem problems_set (hs : s ∈ judged) {v : s.kind.Value} (hv : (c.set s v).problemsOf s = []) :
    ∃ before after, c.problems = before ++ c.problemsOf s ++ after ∧
      (c.set s v).problems = before ++ after := by
  obtain ⟨front, rest, hsplit, hfront⟩ := List.eq_append_cons_of_mem hs
  have hnodup : judged.Nodup := by decide
  have hrest : s ∉ rest := by
    rw [hsplit] at hnodup
    exact (List.nodup_cons.mp (List.nodup_append.mp hnodup).2.1).1
  have hsame {settings : List Setting} (hnot : s ∉ settings) :
      settings.flatMap (c.set s v).problemsOf = settings.flatMap c.problemsOf := by
    apply List.flatMap_congr
    intro t ht
    apply problemsOf_set_of_ne hs
    rintro rfl
    exact hnot ht
  refine ⟨front.flatMap c.problemsOf, rest.flatMap c.problemsOf, ?_, ?_⟩
  · rw [problems_eq_flatMap, hsplit, List.flatMap_append, List.flatMap_cons, List.append_assoc]
  · rw [problems_eq_flatMap, hsplit, List.flatMap_append, List.flatMap_cons, hsame hfront,
      hsame hrest, hv, List.nil_append]

theorem not_breaks_of_not_judged (hs : s ∉ judged) :
    ∀ item ∈ c.items s, ∀ p, ¬ Breaks c item p := by
  rw [← problemsOf_eq_nil_iff]
  cases s <;> first | rfl | exact absurd (by decide) hs

theorem check_eq_ok_iff : c.check = .ok () ↔ ∀ s, ∀ item ∈ c.items s, ∀ p, ¬ Breaks c item p := by
  have hcheck : c.check = .ok () ↔ c.problems = [] := by
    simp only [check, List.isEmpty_iff, ite_eq_left_iff, reduceCtorEq, imp_false, not_not]
  simp only [hcheck, problems_eq_flatMap, List.flatMap_eq_nil_iff, problemsOf_eq_nil_iff]
  constructor
  · intro h s
    by_cases hs : s ∈ judged
    · exact h s hs
    · exact not_breaks_of_not_judged hs
  · intro h s _
    exact h s

theorem check_eq_error (h : c.problems ≠ []) :
    c.check = .error { message := invalidMessage c.problems } := by
  simp only [check, List.isEmpty_iff, if_neg h]

/-- An entry is at fault if it is the text of no network. -/
theorem exists_breaks_entry_iff {text : String} :
    (∃ p, Breaks c (.entry s text) p) ↔ ∀ net, ¬ Network.Denotes text.toList net := by
  simp only [← Network.parse_eq_ok_iff]
  constructor
  · rintro ⟨p, h⟩ net hnet
    cases h with
    | entry hfault => cases hnet.symm.trans hfault
  · intro hnone
    cases hparse : Network.parse text.toList with
    | ok net => exact absurd hparse (hnone net)
    | error fault => exact ⟨_, .entry hparse⟩

theorem prefix_append {name front : String} (h : name.toList <+: front.toList) (rest : String) :
    name.toList <+: (front ++ rest).toList := by
  rw [String.toList_append]
  exact h.trans (List.prefix_append _ _)

/-- Every problem names the setting that it is about. -/
theorem Breaks.name_prefix_message {item : Item} (h : Breaks c item p) :
    item.setting.name.toList <+: p.message.toList := by
  cases h with
  | entry => exact prefix_append (prefix_append (List.prefix_refl _) _) _
  | listenAddress => exact prefix_append (prefix_append (prefix_append (by decide) _) _) _
  | v6Disabled | stratum | poll | precision =>
    exact prefix_append (prefix_append (by decide) _) _
  | listenPort | referenceId | workerThreads | maxClients | statsInterval | logFile => decide

/-- The problems of a configuration are one for each rule that is broken, in the order of the rules,
and for the entries of a list in the order of the list. A configuration is sound if no rule is
broken, and is refused with all its problems otherwise. A rule is about one setting, or about that
and the one other setting that it depends on, so that a setting that is put right takes its own
problems off the list and no others. An entry is at fault if it denotes no network, and each problem
begins with the name of its setting. -/
theorem problems_one_by_one (c : Config) :
    (∀ ps, c.problems = ps ↔ Reports c (judged.flatMap c.items) ps) ∧
    (c.check = .ok () ↔ ∀ s, ∀ item ∈ c.items s, ∀ p, ¬ Breaks c item p) ∧
    (c.problems ≠ [] → c.check = .error { message := invalidMessage c.problems }) ∧
    (∀ s d, (∀ t ∈ s.dependsOn, c.get t = d.get t) →
      ∀ ps, Reports c (c.items s) ps ↔ Reports d (d.items s) ps) ∧
    (∀ s ∈ judged, ∀ v, Reports (c.set s v) ((c.set s v).items s) [] →
      ∃ before own after, c.problems = before ++ own ++ after ∧ Reports c (c.items s) own ∧
        (c.set s v).problems = before ++ after) ∧
    (∀ s text, (∃ p, Breaks c (.entry s text) p) ↔ ∀ net, ¬ Network.Denotes text.toList net) ∧
    ∀ item p, Breaks c item p → item.setting.name.toList <+: p.message.toList := by
  refine ⟨fun _ => problems_eq_iff, check_eq_ok_iff, check_eq_error, ?_, ?_,
    fun _ _ => exists_breaks_entry_iff, fun _ _ h => h.name_prefix_message⟩
  · intro s d hsame ps
    rw [← problemsOf_eq_iff, ← problemsOf_eq_iff, problemsOf_congr hsame]
  · intro s hs v hv
    obtain ⟨before, after, hc, hset⟩ := problems_set hs (problemsOf_eq_iff.mpr hv)
    exact ⟨before, _, after, hc, reports_problemsOf c s, hset⟩

/-- An IPv6 address where there is to be none, no port, and a list of which one entry is sound. -/
def neglected : Config where
  network := { listenAddress := "::", listenPort := 0, enableV6 := false }
  security := { deniedClients := ["10.0.0.0/40", "10.0.0.0/8", "localhost"] }

theorem problems_one_by_one_neglected :
    neglected.problems = [.v6Disabled (.v6 0), .zeroPort,
      .badNetwork "denied_clients" "10.0.0.0/40" (.lengthBeyond 40 32),
      .badNetwork "denied_clients" "localhost" .badAddress] ∧
    neglected.check = .error { message := invalidMessage neglected.problems } ∧
    ∃ before own after, neglected.problems = before ++ own ++ after ∧ own.length = 2 ∧
      (neglected.set .deniedClients []).problems = before ++ after := by
  obtain ⟨-, -, hrefused, -, hrepaired, -, -⟩ := problems_one_by_one neglected
  have hproblems : neglected.problems = [.v6Disabled (.v6 0), .zeroPort,
      .badNetwork "denied_clients" "10.0.0.0/40" (.lengthBeyond 40 32),
      .badNetwork "denied_clients" "localhost" .badAddress] := by
    decide +kernel
  have hne : neglected.problems ≠ [] := by
    rw [hproblems]
    exact List.cons_ne_nil _ _
  obtain ⟨before, own, after, hlist, hown, hrest⟩ :=
    hrepaired .deniedClients (by decide) [] .nil
  have hlength : own.length = 2 := by
    rw [← problemsOf_eq_iff.mpr hown]
    decide +kernel
  exact ⟨hproblems, hrefused hne, before, own, after, hlist, hlength, hrest⟩

end NetworkTime.Config
