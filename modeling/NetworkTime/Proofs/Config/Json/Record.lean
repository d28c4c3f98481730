import NetworkTime.Proofs.Config.Json.Value

/-! Sections as objects of an object, in each of them one member for each setting, by its own
name. -/

namespace NetworkTime.Config.Json
variable {c : Config} {s : Setting} {sec : Section}
  {part : Section × List Setting} {parts : List (Section × List Setting)}
  {value ts : List Token} {members : List (List Token)} {text : String}

def object (members : List (List Token)) : List Token :=
  .openBrace :: ([.comma].intercalate members ++ [.closeBrace])

def member (name : String) (value : List Token) : List Token :=
  .text (some name) :: .colon :: value

/-- The member gives a setting the value that it has in a configuration. -/
def IsSetting (c : Config) (s : Setting) (ts : List Token) : Prop :=
  ∃ value, IsValue s.kind (c.get s) value ∧ ts = member s.name value

/-- The member gives a section some of its settings. -/
def IsPart (c : Config) (part : Section × List Setting) (ts : List Token) : Prop :=
  ∃ members, List.Forall₂ (IsSetting c) part.2 members ∧ ts = member part.1.name (object members)

/-- The text is an object that gives some settings the values that they have in a configuration,
section by section. -/
def Describes (c : Config) (parts : List (Section × List Setting)) (text : String) : Prop :=
  ∃ members, List.Forall₂ (IsPart c) parts members ∧ Writes text.toList (object members)

section Members
variable {σ ι : Type} {fields : List (Field σ)} {name : String} {change : σ → σ}
  {seen : List String}

/-- The member changes a record in one way, whatever the record is. -/
def Changes (fields : List (Field σ)) (name : String) (change : σ → σ) (ts : List Token) : Prop :=
  ∃ value field, ts = member name value ∧ fields.find? (·.name == name) = some field ∧
    ∀ s rest, field.read s (value ++ rest) = .ok (change s, rest)

theorem readMembers_key (h : Changes fields name change ts) (hseen : name ∉ seen) (fuel : Nat)
    (s : σ) (rest : List Token) :
    readMembers fields (fuel + 1) true seen s (ts ++ rest) =
      readMembers fields fuel false (name :: seen) (change s) rest := by
  obtain ⟨value, field, rfl, hfind, hread⟩ := h
  have hmember : readMember fields seen name s (.colon :: (value ++ rest)) =
      .ok (change s, rest) := by
    simp only [readMember, hfind, List.contains_eq_mem, hseen, decide_false, Bool.false_eq_true,
      if_false, readColon]
    exact hread s rest
  rw [member, List.cons_append, List.cons_append, readMembers, hmember]
  rfl

theorem readMembers_more {name : ι → String} {change : ι → σ → σ} {items : List ι}
    (h : List.Forall₂ (fun i ts => Changes fields (name i) (change i) ts) items members)
    (hnodup : (items.map name).Nodup) (hseen : ∀ i ∈ items, name i ∉ seen) {fuel : Nat}
    (hfuel : (members.flatMap (.comma :: ·)).length < fuel) (s : σ) (rest : List Token) :
    readMembers fields fuel false seen s (members.flatMap (.comma :: ·) ++ .closeBrace :: rest) =
      .ok (items.foldl (fun s i => change i s) s, rest) := by
  induction h generalizing seen fuel s with
  | nil =>
    obtain ⟨fuel, rfl⟩ := Nat.exists_eq_add_one_of_ne_zero (Nat.ne_zero_of_lt hfuel)
    rfl
  | @cons i ts items members hts _ ih =>
    obtain ⟨hi, hnodup⟩ := List.nodup_cons.mp hnodup
    obtain ⟨hseenFirst, hseen⟩ := List.forall_mem_cons.mp hseen
    have hlength : 2 ≤ ts.length := by
      obtain ⟨value, field, rfl, -⟩ := hts
      simp [member]
    simp only [List.flatMap_cons, List.length_append, List.length_cons] at hfuel
    obtain ⟨left, rfl⟩ : ∃ left, fuel = left + 2 := ⟨fuel - 2, by omega⟩
    have hnot : ∀ j ∈ items, name j ∉ name i :: seen := by
      intro j hj
      rw [List.mem_cons, not_or]
      exact ⟨fun heq => hi (heq ▸ List.mem_map_of_mem hj), hseen j hj⟩
    rw [List.flatMap_cons, List.append_assoc, List.cons_append, readMembers,
      readMembers_key hts hseenFirst, ih hnodup hnot (by omega)]
    rfl

/-- An object makes the changes of its members one after the other. -/
theorem readRecord_object {name : ι → String} {change : ι → σ → σ} {items : List ι}
    (h : List.Forall₂ (fun i ts => Changes fields (name i) (change i) ts) items members)
    (hnodup : (items.map name).Nodup) (s : σ) (rest : List Token) :
    readRecord fields s (object members ++ rest) =
      .ok (items.foldl (fun s i => change i s) s, rest) := by
  cases h with
  | nil => rfl
  | @cons i ts items members hts h =>
    obtain ⟨hi, hnodup⟩ := List.nodup_cons.mp hnodup
    have hnot : ∀ j ∈ items, name j ∉ [name i] := by
      intro j hj heq
      exact hi (List.mem_singleton.mp heq ▸ List.mem_map_of_mem hj)
    have hopen (tail : List Token) : readRecord fields s (.openBrace :: (ts ++ tail)) =
        readMembers fields ((ts ++ tail).length + 1) true [] s (ts ++ tail) := by
      obtain ⟨value, field, rfl, -⟩ := hts
      rfl
    rw [object, intercalate_cons, List.cons_append, List.append_assoc, List.append_assoc, hopen,
      readMembers_key hts List.not_mem_nil, List.singleton_append,
      readMembers_more h hnodup hnot (by simp; omega)]
    rfl

end Members

theorem changes_setting (h : IsSetting c s ts) (hs : s ∈ sec.settings) :
    Changes (sec.settings.map settingField) s.name (fun d => d.set s (c.get s)) ts := by
  obtain ⟨value, hvalue, rfl⟩ := h
  have hfound : sec.settings.find? (fun s' => s'.name == s.name) = some s :=
    find?_eq_some_of_unique hs (beq_self_eq_true _) fun _ h =>
      Setting.name_injective (beq_iff_eq.mp h)
  refine ⟨value, settingField s, rfl, ?_, fun d rest => ?_⟩
  · rw [List.find?_map]
    exact congrArg (Option.map settingField) hfound
  · simp only [settingField, readValue_append hvalue]
    rfl

theorem changes_section (h : IsPart c part ts) (hsub : part.2 ⊆ part.1.settings)
    (hnodup : part.2.Nodup) :
    Changes (Section.all.map sectionField) part.1.name (fun d => c.copy part.2 d) ts := by
  obtain ⟨members, hmembers, rfl⟩ := h
  have hfound : Section.all.find? (fun sec => sec.name == part.1.name) = some part.1 :=
    find?_eq_some_of_unique part.1.mem_all (beq_self_eq_true _) fun _ h =>
      Section.name_injective (beq_iff_eq.mp h)
  have hchanges : List.Forall₂ (fun s ts => Changes (part.1.settings.map settingField) s.name
      (fun d => d.set s (c.get s)) ts) part.2 members :=
    ((List.forall₂_and_left _ _).mpr ⟨fun s hs => hsub hs, hmembers⟩).imp fun _ _ h =>
      changes_setting h.2 h.1
  refine ⟨object members, sectionField part.1, rfl, ?_, fun d rest => ?_⟩
  · rw [List.find?_map]
    exact congrArg (Option.map sectionField) hfound
  · exact readRecord_object hchanges (hnodup.map Setting.name_injective) d rest

/-- What a text gives is read from it, and nothing else. -/
theorem parse_of_describes (h : Describes c parts text) (hnodup : (parts.map Prod.fst).Nodup)
    (hpart : ∀ part ∈ parts, part.2 ⊆ part.1.settings ∧ part.2.Nodup) :
    parse text = .ok (c.copy (parts.flatMap Prod.snd) {}) := by
  obtain ⟨members, hmembers, hwrites⟩ := h
  have hchanges : List.Forall₂ (fun part ts => Changes (Section.all.map sectionField) part.1.name
      (fun d => c.copy part.2 d) ts) parts members :=
    ((List.forall₂_and_left _ _).mpr ⟨hpart, hmembers⟩).imp fun _ _ h =>
      changes_section h.2 h.1.1 h.1.2
  have hnames : (parts.map fun part => part.1.name).Nodup := by
    have hnodup := hnodup.map Section.name_injective
    rwa [List.map_map] at hnodup
  have hread := readRecord_object hchanges hnames {} []
  rw [List.append_nil] at hread
  rw [parse, tokens_of_writes hwrites, hread, copy_flatMap]
  rfl

theorem writable_object (h : ∀ ts ∈ members, Writable ts) : Writable (object members) :=
  (writable_singleton .openBrace).append
    ((writable_intercalate h).append (writable_singleton .closeBrace))

theorem writable_member (name : String) (h : Writable value) : Writable (member name value) :=
  (writable_text name).append ((writable_singleton .colon).append h)

/-- Members can be found for a list if one can be found for each of its elements. -/
theorem exists_members {α : Type} {gives : α → List Token → Prop} {items : List α}
    (h : ∀ i ∈ items, ∃ ts, gives i ts ∧ Writable ts) :
    ∃ members, List.Forall₂ gives items members ∧ ∀ ts ∈ members, Writable ts := by
  induction items with
  | nil => exact ⟨[], .nil, fun _ hmem => absurd hmem List.not_mem_nil⟩
  | cons i items ih =>
    obtain ⟨⟨ts, hts, hwritable⟩, hitems⟩ := List.forall_mem_cons.mp h
    obtain ⟨members, hmembers, hall⟩ := ih hitems
    exact ⟨ts :: members, .cons hts hmembers, List.forall_mem_cons.mpr ⟨hwritable, hall⟩⟩

theorem exists_isPart (c : Config) (part : Section × List Setting) :
    ∃ ts, IsPart c part ts ∧ Writable ts := by
  have hsettings : ∀ s ∈ part.2, ∃ ts, IsSetting c s ts ∧ Writable ts := by
    intro s _
    obtain ⟨value, hvalue, hwritable⟩ := exists_isValue (c.get s)
    exact ⟨_, ⟨value, hvalue, rfl⟩, writable_member s.name hwritable⟩
  obtain ⟨members, hmembers, hwritable⟩ := exists_members hsettings
  exact ⟨_, ⟨members, hmembers, rfl⟩, writable_member part.1.name (writable_object hwritable)⟩

theorem exists_describes (c : Config) (parts : List (Section × List Setting)) :
    ∃ text, Describes c parts text := by
  obtain ⟨members, hmembers, hwritable⟩ := exists_members fun part _ => exists_isPart c part
  obtain ⟨cs, hcs⟩ := exists_writes (writable_object hwritable)
  exact ⟨String.ofList cs, members, hmembers, by rwa [String.toList_ofList]⟩

end NetworkTime.Config.Json
