import Mathlib.Data.List.Basic
import NetworkTime.Config.Ini

/-! Which setting an assignment changes, to which value, and when it is refused. -/

namespace NetworkTime.Config
variable {c c' : Config} {sec sec' : Section} {s s' : Setting} {header key value : String}

/-- What is looked for is found, if nothing else is like it. -/
theorem find?_eq_some_of_unique {α : Type} {p : α → Bool} {xs : List α} {x : α} (hx : x ∈ xs)
    (hp : p x = true) (hunique : ∀ y, p y = true → y = x) : xs.find? p = some x := by
  obtain ⟨y, hy⟩ := Option.isSome_iff_exists.mp (List.find?_isSome.mpr ⟨x, hx, hp⟩)
  rw [hy, hunique y (List.find?_some hy)]

namespace Section

theorem mem_all (sec : Section) : sec ∈ all := by
  cases sec <;> decide

theorem named?_name (sec : Section) : named? sec.name = some [sec] := by
  cases sec <;> decide

/-- A section is open before any header and after one of its own name. That of the server has a
second name. -/
def IsOpen (header : String) (sec : Section) : Prop :=
  header = "" ∨ header = sec.name ∨ header = "ntp_server" ∧ sec = server

/-- A section goes by the name of its field, and that of the server by one name more. -/
theorem mem_headers_iff : header ∈ sec.headers ↔
    header = sec.name ∨ header = "ntp_server" ∧ sec = server := by
  cases sec <;> simp [headers, name]

/-- No header opens two sections. -/
theorem eq_of_mem_headers (h : header ∈ sec.headers) (h' : header ∈ sec'.headers) :
    sec = sec' := by
  have hdisjoint : ∀ sec ∈ all, ∀ sec' ∈ all,
      ∀ header ∈ sec.headers, header ∈ sec'.headers → sec = sec' := by
    decide
  exact hdisjoint sec sec.mem_all sec' sec'.mem_all header h h'

theorem find?_headers (h : header ∈ sec.headers) :
    all.find? (·.headers.contains header) = some sec :=
  find?_eq_some_of_unique sec.mem_all (List.contains_iff_mem.mpr h) fun _ h' =>
    eq_of_mem_headers (List.contains_iff_mem.mp h') h

theorem isOpen_iff :
    sec.IsOpen header ↔ ∃ sections, named? header = some sections ∧ sec ∈ sections := by
  rw [IsOpen, ← mem_headers_iff, named?]
  split
  · exact ⟨fun _ => ⟨all, rfl, sec.mem_all⟩, fun _ => .inl ‹_›⟩
  · constructor
    · rintro (rfl | hmem)
      · exact absurd rfl ‹_›
      · exact ⟨[sec], by rw [find?_headers hmem]; rfl, List.mem_singleton_self sec⟩
    · rintro ⟨sections, hnamed, hsec⟩
      obtain ⟨found, hfound, rfl⟩ := Option.map_eq_some_iff.mp hnamed
      have hmem := List.find?_some (p := fun sec : Section => sec.headers.contains header) hfound
      rw [List.mem_singleton.mp hsec]
      exact .inr (List.contains_iff_mem.mp hmem)

theorem named?_eq_none_iff : named? header = none ↔ ∀ sec : Section, ¬ sec.IsOpen header := by
  constructor
  · intro hnone sec hopen
    obtain ⟨sections, hnamed, -⟩ := isOpen_iff.mp hopen
    rw [hnone] at hnamed
    cases hnamed
  · intro hclosed
    rw [named?, if_neg fun hempty => hclosed server (.inl hempty), Option.map_eq_none_iff,
      List.find?_eq_none]
    intro sec _ hmem
    exact hclosed sec (.inr (mem_headers_iff.mp (List.contains_iff_mem.mp hmem)))

end Section

namespace Setting

/-- The name of a setting's field is one of its keys. -/
theorem name_mem_keys (s : Setting) : s.name ∈ s.keys := by
  cases s <;> exact List.mem_cons_self

theorem hasKey_iff : s.hasKey key = true ↔ key ∈ s.keys :=
  List.contains_iff_mem

theorem exists_section (s : Setting) : ∃ sec ∈ Section.all, s ∈ sec.settings := by
  cases s <;> decide

/-- No key belongs to two settings. -/
theorem eq_of_hasKey (h : s.hasKey key = true) (h' : s'.hasKey key = true) : s = s' := by
  have hdisjoint : ∀ s ∈ Section.all.flatMap Section.settings,
      ∀ s' ∈ Section.all.flatMap Section.settings, ∀ key ∈ s.keys, key ∈ s'.keys → s = s' := by
    decide +kernel
  exact hdisjoint s (List.mem_flatMap.mpr s.exists_section) s'
    (List.mem_flatMap.mpr s'.exists_section) key (hasKey_iff.mp h) (hasKey_iff.mp h')

/-- A setting can be assigned while its section is open. -/
def IsOpen (header : String) (s : Setting) : Prop :=
  ∃ sec : Section, s ∈ sec.settings ∧ sec.IsOpen header

/-- A key names a setting in letters of either case. -/
def IsNamed (key : String) (s : Setting) : Prop :=
  s.hasKey (String.ofList (Text.lowered key.toList)) = true

instance : Decidable (s.IsNamed key) :=
  inferInstanceAs (Decidable (s.hasKey (String.ofList (Text.lowered key.toList)) = true))

theorem isNamed_name (s : Setting) : s.IsNamed s.name := by
  have hlowered : String.ofList (Text.lowered s.name.toList) = s.name := by
    cases s <;> decide +kernel
  rw [IsNamed, hlowered]
  exact hasKey_iff.mpr s.name_mem_keys

theorem IsNamed.unique (h : s.IsNamed key) (h' : s'.IsNamed key) : s = s' :=
  eq_of_hasKey h h'

end Setting

theorem Section.setting?_eq_some_iff :
    sec.setting? key = some s ↔ s ∈ sec.settings ∧ s.hasKey key = true := by
  constructor
  · intro h
    rw [setting?] at h
    exact ⟨List.mem_of_find?_eq_some h, List.find?_some (p := fun s : Setting => s.hasKey key) h⟩
  · rintro ⟨hs, hkey⟩
    exact find?_eq_some_of_unique hs hkey fun _ hkey' => Setting.eq_of_hasKey hkey' hkey

theorem findSome?_setting?_eq_some_iff {sections : List Section} :
    sections.findSome? (·.setting? key) = some s ↔
      (∃ sec ∈ sections, s ∈ sec.settings) ∧ s.hasKey key = true := by
  constructor
  · intro h
    obtain ⟨sec, hsec, hs⟩ := List.exists_of_findSome?_eq_some h
    obtain ⟨hmem, hkey⟩ := Section.setting?_eq_some_iff.mp hs
    exact ⟨⟨sec, hsec, hmem⟩, hkey⟩
  · rintro ⟨⟨sec, hsec, hmem⟩, hkey⟩
    have hsome : (sections.findSome? (·.setting? key)).isSome := by
      rw [List.findSome?_isSome_iff]
      exact ⟨sec, hsec, by rw [Section.setting?_eq_some_iff.mpr ⟨hmem, hkey⟩]; rfl⟩
    obtain ⟨s', hs'⟩ := Option.isSome_iff_exists.mp hsome
    obtain ⟨_, _, hfound⟩ := List.exists_of_findSome?_eq_some hs'
    rw [hs', Setting.eq_of_hasKey hkey (Section.setting?_eq_some_iff.mp hfound).2]

/-- An assignment changes the one setting that its key names, if that is open. -/
theorem assign_eq_ok_iff : c.assign header key value = .ok c' ↔
    ∃ s v, s.IsOpen header ∧ s.IsNamed key ∧ s.kind.read value = .ok v ∧ c' = c.set s v := by
  constructor
  · intro h
    simp only [assign] at h
    split at h
    · cases h
    rename_i sections hnamed
    split at h
    · cases h
    rename_i s hfound
    obtain ⟨⟨sec, hsec, hs⟩, hkey⟩ := findSome?_setting?_eq_some_iff.mp hfound
    split at h
    · rename_i v hread
      cases h
      exact ⟨s, v, ⟨sec, hs, Section.isOpen_iff.mpr ⟨sections, hnamed, hsec⟩⟩, hkey, hread, rfl⟩
    · cases h
  · rintro ⟨s, v, ⟨sec, hs, hopen⟩, hkey, hread, rfl⟩
    obtain ⟨sections, hnamed, hsec⟩ := Section.isOpen_iff.mp hopen
    have hfound := findSome?_setting?_eq_some_iff.mpr ⟨⟨sec, hsec, hs⟩, hkey⟩
    simp only [assign, hnamed, hfound, hread]

/-- Why an assignment is refused: there is no such section, or the key names no setting of an open one,
or the value is none of the setting. -/
inductive Refuses (header key value : String) : AssignFault → Prop
  | unknownSection (h : ∀ sec : Section, ¬ sec.IsOpen header) :
    Refuses header key value (.unknownSection header)
  | unknownKey {sec : Section} (hopen : sec.IsOpen header)
    (h : ∀ s : Setting, s.IsOpen header → ¬ s.IsNamed key) :
    Refuses header key value (.unknownKey (String.ofList (Text.lowered key.toList)))
  | badValue {s : Setting} {fault : ValueFault} (hopen : s.IsOpen header) (hnamed : s.IsNamed key)
    (hread : s.kind.read value = .error fault) :
    Refuses header key value (.badValue (String.ofList (Text.lowered key.toList)) fault)

theorem exists_open_section {sections : List Section} (h : Section.named? header = some sections) :
    ∃ sec : Section, sec.IsOpen header := by
  by_contra hnone
  rw [Section.named?_eq_none_iff.mpr (not_exists.mp hnone)] at h
  cases h

theorem findSome?_setting?_eq_none_iff {sections : List Section}
    (h : Section.named? header = some sections) :
    sections.findSome? (·.setting? (String.ofList (Text.lowered key.toList))) = none ↔
      ∀ s : Setting, s.IsOpen header → ¬ s.IsNamed key := by
  rw [Option.eq_none_iff_forall_ne_some]
  refine forall_congr' fun s => ?_
  have hopen : (∃ sec ∈ sections, s ∈ sec.settings) ↔ s.IsOpen header := by
    simp only [Setting.IsOpen, Section.isOpen_iff, h, Option.some.injEq, exists_eq_left']
    exact exists_congr fun sec => and_comm
  rw [ne_eq, findSome?_setting?_eq_some_iff, hopen, not_and]
  rfl

/-- Whether and why an assignment is refused does not depend on the configuration. -/
theorem assign_eq_error_iff {fault : AssignFault} :
    c.assign header key value = .error fault ↔ Refuses header key value fault := by
  constructor
  · intro h
    simp only [assign] at h
    split at h
    · cases h
      exact .unknownSection (Section.named?_eq_none_iff.mp ‹_›)
    rename_i sections hnamed
    split at h
    · cases h
      obtain ⟨sec, hopen⟩ := exists_open_section hnamed
      exact .unknownKey hopen ((findSome?_setting?_eq_none_iff hnamed).mp ‹_›)
    rename_i s hfound
    obtain ⟨⟨sec, hsec, hs⟩, hkey⟩ := findSome?_setting?_eq_some_iff.mp hfound
    split at h
    · cases h
    · cases h
      exact .badValue ⟨sec, hs, Section.isOpen_iff.mpr ⟨sections, hnamed, hsec⟩⟩ hkey ‹_›
  · intro h
    cases h with
    | unknownSection hclosed => simp only [assign, Section.named?_eq_none_iff.mpr hclosed]
    | unknownKey hopen hnone =>
      obtain ⟨sections, hnamed, -⟩ := Section.isOpen_iff.mp hopen
      simp only [assign, hnamed, (findSome?_setting?_eq_none_iff hnamed).mpr hnone]
    | badValue hopen hnamed hread =>
      obtain ⟨sec, hs, hsec⟩ := hopen
      obtain ⟨sections, hsections, hmem⟩ := Section.isOpen_iff.mp hsec
      have hfound := findSome?_setting?_eq_some_iff.mpr ⟨⟨sec, hmem, hs⟩, hnamed⟩
      simp only [assign, hsections, hfound, hread]

theorem set_set (c : Config) (s : Setting) (v w : s.kind.Value) :
    (c.set s v).set s w = c.set s w := by
  cases s <;> rfl

theorem set_comm (c : Config) (h : s ≠ s') (v : s.kind.Value) (v' : s'.kind.Value) :
    (c.set s v).set s' v' = (c.set s' v').set s v := by
  refine ext_get fun t => ?_
  by_cases ht : t = s
  · subst ht
    rw [get_set_of_ne _ _ h, get_set_same, get_set_same]
  · rw [get_set_of_ne (s := s) (c.set s' v') v ht]
    by_cases ht' : t = s'
    · subst ht'
      rw [get_set_same, get_set_same]
    · rw [get_set_of_ne _ _ ht', get_set_of_ne _ _ ht', get_set_of_ne _ _ ht]

end NetworkTime.Config
