import NetworkTime.Proofs.Config.Assign

/-! Assignments in place. Each changes one setting or nothing, and a key means the same with and
without its section. -/

namespace NetworkTime.Config
variable {c c₁ c₂ : Config} {sec sec' : Section} {s s' : Setting} {header key key' value : String}

theorem enterAt_eq (s : Setting) (key value : String) (c : Config) :
    enterAt s key value c = match s.kind.read value with
      | .ok v => (.ok (), c.set s v)
      | .error fault => (.error (.badValue key fault), c) := by
  unfold enterAt
  cases s.kind.read value <;> rfl

/-- The first section that knows the key decides. -/
theorem enterIn_eq (key value : String) (sections : List Section) :
    enterIn key value sections = match sections.findSome? (·.setting? key) with
      | some s => enterAt s key value
      | none => throw (.unknownKey key) := by
  induction sections with
  | nil => rfl
  | cons sec sections ih =>
    rw [enterIn, List.findSome?_cons]
    cases sec.setting? key with
    | some s => rfl
    | none => exact ih

/-- Assigning in place gives the new configuration, or the fault and the old one. -/
theorem enter_eq (header key value : String) (c : Config) :
    enter header key value c = match c.assign header key value with
      | .ok c' => (.ok (), c')
      | .error fault => (.error fault, c) := by
  unfold enter assign
  cases Section.named? header with
  | none => rfl
  | some sections =>
    simp only [enterIn_eq]
    cases sections.findSome? _ with
    | none => rfl
    | some s =>
      simp only [enterAt_eq]
      cases s.kind.read value <;> rfl

theorem enter_eq_ok_iff : enter header key value c = (.ok (), c₁) ↔
    ∃ s v, s.IsOpen header ∧ s.IsNamed key ∧ s.kind.read value = .ok v ∧ c₁ = c.set s v := by
  rw [enter_eq, ← assign_eq_ok_iff]
  cases c.assign header key value with
  | ok c' =>
    constructor
    · intro h
      cases h
      rfl
    · rintro ⟨⟩
      rfl
  | error fault => constructor <;> intro h <;> cases h

theorem enter_eq_error_iff {fault : AssignFault} :
    enter header key value c = (.error fault, c₁) ↔ Refuses header key value fault ∧ c₁ = c := by
  rw [enter_eq, ← assign_eq_error_iff (c := c)]
  cases c.assign header key value with
  | ok c' =>
    constructor
    · intro h
      cases h
    · rintro ⟨⟨⟩, -⟩
  | error fault' =>
    constructor
    · intro h
      cases h
      exact ⟨rfl, rfl⟩
    · rintro ⟨⟨⟩, rfl⟩
      rfl

/-- What an assignment comes to is known before the configuration is. -/
theorem enter_cases (header key value : String) :
    (∃ fault, Refuses header key value fault) ∨
      ∃ (s : Setting) (v : s.kind.Value),
        s.IsOpen header ∧ s.IsNamed key ∧ s.kind.read value = .ok v := by
  cases h : ({} : Config).assign header key value with
  | error fault => exact .inl ⟨fault, assign_eq_error_iff.mp h⟩
  | ok c =>
    obtain ⟨s, v, hopen, hnamed, hread, -⟩ := assign_eq_ok_iff.mp h
    exact .inr ⟨s, v, hopen, hnamed, hread⟩

/-- What an assignment to a setting that its key names has done. -/
theorem exists_value_of_enter (hnamed : s.IsNamed key)
    (h : enter header key value c = (.ok (), c₁)) :
    ∃ v, c₁ = c.set s v ∧ ∀ d, enter header key value d = (.ok (), d.set s v) := by
  obtain ⟨s', v, hopen, hnamed', hread, rfl⟩ := enter_eq_ok_iff.mp h
  obtain rfl := hnamed'.unique hnamed
  exact ⟨v, rfl, fun d => enter_eq_ok_iff.mpr ⟨s', v, hopen, hnamed', hread, rfl⟩⟩

/-- An assignment is refused and leaves every configuration as it was, or it changes the one setting
that its key names, to the value that its text gives, whatever the configuration. The second of two
assignments to one setting, under any of its keys, makes up for the first, and two assignments to
different settings can change places. -/
theorem enter_one_setting_or_none (header key value : String) :
    ((∃ fault, ∀ c, enter header key value c = (.error fault, c)) ∨
      ∃ s v, s.IsOpen header ∧ s.IsNamed key ∧ s.kind.read value = .ok v ∧
        ∀ c, ∃ c', enter header key value c = (.ok (), c') ∧ c'.get s = v ∧
          ∀ s' ≠ s, c'.get s' = c.get s') ∧
    ∀ (header' key' value' : String) (s s' : Setting) (c c₁ c₂ : Config),
      s.IsNamed key → s'.IsNamed key' →
      enter header key value c = (.ok (), c₁) → enter header' key' value' c₁ = (.ok (), c₂) →
      (s = s' → enter header' key' value' c = (.ok (), c₂)) ∧
      (s ≠ s' → ∃ c₁', enter header' key' value' c = (.ok (), c₁') ∧
        enter header key value c₁' = (.ok (), c₂)) := by
  constructor
  · obtain ⟨fault, hrefuses⟩ | ⟨s, v, hopen, hnamed, hread⟩ := enter_cases header key value
    · exact .inl ⟨fault, fun c => enter_eq_error_iff.mpr ⟨hrefuses, rfl⟩⟩
    · refine .inr ⟨s, v, hopen, hnamed, hread, fun c => ⟨c.set s v, ?_, get_set_same c s v, ?_⟩⟩
      · exact enter_eq_ok_iff.mpr ⟨s, v, hopen, hnamed, hread, rfl⟩
      · intro s' hne
        exact get_set_of_ne c v hne
  · intro header' key' value' s s' c c₁ c₂ hnamed hnamed' hfirst hsecond
    obtain ⟨v, rfl, henter⟩ := exists_value_of_enter hnamed hfirst
    obtain ⟨v', rfl, henter'⟩ := exists_value_of_enter hnamed' hsecond
    constructor
    · rintro rfl
      rw [henter', set_set]
    · intro hne
      refine ⟨c.set s' v', henter' c, ?_⟩
      rw [henter, set_comm c hne]

/-- The poll interval under both of its keys, one of them in other letters. -/
theorem enter_one_setting_or_none_twoKeys :
    Setting.poll.IsNamed "poll" ∧ Setting.poll.IsNamed "Min_Poll" ∧
    enter "server" "poll" "9" {} = (.ok (), { server := { poll := 9 } }) ∧
    enter "" "Min_Poll" "6" { server := { poll := 9 } } = (.ok (), { server := { poll := 6 } }) ∧
    enter "" "Min_Poll" "6" {} = (.ok (), { server := { poll := 6 } }) := by
  have hnamed : Setting.poll.IsNamed "poll" := by decide +kernel
  have hnamed' : Setting.poll.IsNamed "Min_Poll" := by decide +kernel
  have hfirst : enter "server" "poll" "9" {} = (.ok (), { server := { poll := 9 } }) := by rfl
  have hsecond : enter "" "Min_Poll" "6" { server := { poll := 9 } } =
      (.ok (), { server := { poll := 6 } }) := by rfl
  have hboth := (enter_one_setting_or_none "server" "poll" "9").2 "" "Min_Poll" "6" .poll .poll
    _ _ _ hnamed hnamed' hfirst hsecond
  exact ⟨hnamed, hnamed', hfirst, hsecond, hboth.1 rfl⟩

/-- Some setting of the section goes by the key. -/
def Section.Knows (sec : Section) (key : String) : Prop := ∃ s ∈ sec.settings, s.IsNamed key

theorem Section.eq_of_mem_settings (h : s ∈ sec.settings) (h' : s ∈ sec'.settings) : sec = sec' := by
  have hapart : ∀ sec ∈ all, ∀ sec' ∈ all, ∀ s ∈ sec.settings, s ∈ sec'.settings → sec = sec' := by
    decide
  exact hapart sec sec.mem_all sec' sec'.mem_all s h h'

theorem Section.Knows.unique (h : sec.Knows key) (h' : sec'.Knows key) : sec = sec' := by
  obtain ⟨s, hs, hnamed⟩ := h
  obtain ⟨s', hs', hnamed'⟩ := h'
  obtain rfl := hnamed.unique hnamed'
  exact eq_of_mem_settings hs hs'

/-- Two places for the same text mean the same if they find the same setting or none. -/
theorem enter_congr {header header' : String} {sections sections' : List Section}
    (h : Section.named? header = some sections) (h' : Section.named? header' = some sections')
    (hfound : sections.findSome? (·.setting? (String.ofList (Text.lowered key.toList))) =
      sections'.findSome? (·.setting? (String.ofList (Text.lowered key.toList))))
    (value : String) : enter header key value = enter header' key value := by
  simp only [enter, h, h', enterIn_eq, hfound]

theorem enter_of_knows (h : sec.Knows key) (value : String) :
    enter "" key value = enter sec.name key value := by
  obtain ⟨s, hs, hnamed⟩ := h
  have hall := findSome?_setting?_eq_some_iff.mpr ⟨⟨sec, sec.mem_all, hs⟩, hnamed⟩
  have hone := findSome?_setting?_eq_some_iff.mpr
    ⟨⟨sec, List.mem_singleton_self sec, hs⟩, hnamed⟩
  exact enter_congr rfl sec.named?_name (hall.trans hone.symm) value

/-- At most one section knows a key, and outside of all sections the key means what it means there,
with every value and for every configuration. A key that no section knows is refused as unknown
everywhere. The second name of the server's section makes no difference, nor does the case of the
letters in a key. -/
theorem enter_without_section (key value : String) :
    (∀ sec sec' : Section, sec.Knows key → sec'.Knows key → sec = sec') ∧
    (∀ sec : Section, sec.Knows key → enter "" key value = enter sec.name key value) ∧
    ((∀ sec : Section, ¬ sec.Knows key) → ∀ header, (∃ sec : Section, sec.IsOpen header) →
      ∀ c, enter header key value c =
        (.error (.unknownKey (String.ofList (Text.lowered key.toList))), c)) ∧
    enter "ntp_server" key value = enter "server" key value ∧
    ∀ header key', Text.lowered key.toList = Text.lowered key'.toList →
      enter header key value = enter header key' value := by
  refine ⟨fun _ _ h h' => h.unique h', fun _ h => enter_of_knows h value, ?_, ?_, ?_⟩
  · intro hnone header ⟨sec, hopen⟩ c
    refine enter_eq_error_iff.mpr ⟨.unknownKey hopen ?_, rfl⟩
    intro s ⟨sec', hs, _⟩ hnamed
    exact hnone sec' ⟨s, hs, hnamed⟩
  · have hnamed : Section.named? "ntp_server" = some [.server] := by decide
    exact enter_congr hnamed (Section.named?_name .server) rfl value
  · intro header key' hkey
    simp only [enter, hkey]

/-- A second name, in other letters. -/
example : Section.logging.Knows "Log_Level" := ⟨.level, by decide, by decide +kernel⟩

end NetworkTime.Config
