import NetworkTime.Proofs.Config.Ini.Meaning
import NetworkTime.Proofs.Config.Ini.Value
import NetworkTime.Proofs.Config.Layout

/-! Sections as lines: a header, and under it one assignment for each setting, by its own name.
There may be blanks around the parts of a line, and remarks between the lines. -/

namespace NetworkTime.Config
variable {k : Kind} {c : Config} {s : Setting} {sec : Section} {part : Section × List Setting}
  {parts : List (Section × List Setting)} {settings : List Setting} {cs raw : List Char}
  {raws : List (List Char)} {text : String}
open Text

namespace Kind

theorem read_of_mem_names {name : String} {v : k.Value} (h : (name, v) ∈ k.names) :
    k.read name = .ok v ∧ IsWord name.toList := by
  have hleap : ∀ p ∈ leapNames, readName leapNames p.1 = .ok p.2 ∧ IsWord p.1.toList := by
    decide +kernel
  have hlevel : ∀ p ∈ levelNames, readName levelNames p.1 = .ok p.2 ∧ IsWord p.1.toList := by
    decide +kernel
  have hdestination : ∀ p ∈ destinationNames,
      readName destinationNames p.1 = .ok p.2 ∧ IsWord p.1.toList := by
    decide +kernel
  cases k with
  | leap => exact hleap (name, v) h
  | level => exact hlevel (name, v) h
  | destination => exact hdestination (name, v) h
  | _ => cases h

end Kind

namespace Ini

def printHeader (sec : Section) : List Char := '[' :: (sec.name.toList ++ [']'])

def printSetting (c : Config) (s : Setting) : List Char :=
  s.name.toList ++ " = ".toList ++ s.kind.print (c.get s)

/-- A text of a value, which is any of its names if it has some. -/
def IsValue (k : Kind) (v : k.Value) (cs : List Char) : Prop :=
  cs = k.print v ∨ ∃ name, (name, v) ∈ k.names ∧ cs = name.toList

def IsHeader (sec : Section) (raw : List Char) : Prop :=
  ∃ pad pad', IsBlanks pad ∧ IsBlanks pad' ∧ raw = pad ++ '[' :: (sec.name.toList ++ ']' :: pad')

/-- The line assigns a setting the value that it has in a configuration. -/
def IsAssignment (c : Config) (s : Setting) (raw : List Char) : Prop :=
  ∃ before after cs before' after', IsBlanks before ∧ IsBlanks after ∧ IsBlanks before' ∧
    IsBlanks after' ∧ IsValue s.kind (c.get s) cs ∧
      raw = before ++ s.name.toList ++ after ++ '=' :: (before' ++ cs ++ after')

/-- The lines of a section with some of its settings. -/
def IsPart (c : Config) (part : Section × List Setting) (raws : List (List Char)) : Prop :=
  ∃ header assignments, raws = header :: assignments ∧ IsHeader part.1 header ∧
    List.Forall₂ (IsAssignment c) part.2 assignments

/-- The text gives some settings the values that they have in a configuration, section by section.
Remarks do not count. -/
def Describes (c : Config) (parts : List (Section × List Setting)) (text : String) : Prop :=
  ∃ blocks, List.Forall₂ (IsPart c) parts blocks ∧
    (lines text).filter (fun raw => ¬ IsRemark raw) = blocks.flatten

theorem IsValue.read_unquote {v : k.Value} (h : IsValue k v cs) (hv : k.IsWritable v) :
    k.read (String.ofList (unquote (trim cs))) = .ok v := by
  obtain rfl | ⟨name, hname, rfl⟩ := h
  · rw [Kind.unquote_trim_print, Kind.read_body hv]
  · obtain ⟨hread, hword⟩ := Kind.read_of_mem_names hname
    rw [Kind.unquote_trim_word hword, String.ofList_toList, hread]

theorem IsHeader.read (h : IsHeader sec raw) : Line.read raw = .ok (.header sec.name) := by
  obtain ⟨pad, pad', hpad, hpad', rfl⟩ := h
  have hname : String.ofList (lowered (trim sec.name.toList)) = sec.name := by
    cases sec <;> decide +kernel
  rw [read_header hpad hpad', hname]

theorem IsAssignment.read (h : IsAssignment c s raw) (hv : s.kind.IsWritable (c.get s)) :
    ∃ value, Line.read raw = .ok (.assignment s.name value) ∧
      s.kind.read value = .ok (c.get s) := by
  obtain ⟨before, after, cs, before', after', hbefore, hafter, hbefore', hafter', hcs, rfl⟩ := h
  have hkey : IsKey s.name.toList := by cases s <;> exact ⟨by decide +kernel, by decide +kernel⟩
  have hname : trim s.name.toList = s.name.toList := by cases s <;> decide +kernel
  refine ⟨_, ?_, hcs.read_unquote hv⟩
  rw [read_assignment (hkey.padded hbefore hafter), trim_pad hbefore hafter, hname,
    String.ofList_toList, trim_pad hbefore' hafter']

theorem IsAssignment.gives (h : IsAssignment c s raw) (hv : s.kind.IsWritable (c.get s))
    (hs : s ∈ sec.settings) : Gives sec.name raw s (c.get s) := by
  obtain ⟨value, hread, hvalue⟩ := h.read hv
  exact ⟨_, value, hread, ⟨sec, hs, .inr (.inl rfl)⟩, s.isNamed_name, hvalue⟩

theorem step_header (h : IsHeader sec raw) (r : Reading) :
    step (some r) raw = some { r with sectionName := sec.name } :=
  step_eq_some_iff.mpr ⟨r, rfl, line_eq_ok_iff.mpr (.inr (.inl ⟨sec.name, h.read, rfl⟩))⟩

theorem foldl_step_assignments (h : List.Forall₂ (IsAssignment c) settings raws)
    (hsub : settings ⊆ sec.settings) (hv : ∀ s ∈ settings, s.kind.IsWritable (c.get s))
    (d : Config) :
    raws.foldl step (some ⟨d, sec.name⟩) = some ⟨c.copy settings d, sec.name⟩ := by
  induction h generalizing d with
  | nil => rfl
  | @cons s raw settings raws hraw _ ih =>
    obtain ⟨hs, hsub⟩ := List.cons_subset.mp hsub
    obtain ⟨hvs, hv⟩ := List.forall_mem_cons.mp hv
    have hstep : step (some ⟨d, sec.name⟩) raw = some ⟨d.set s (c.get s), sec.name⟩ :=
      step_eq_some_iff.mpr ⟨_, rfl, line_eq_ok_iff.mpr
        (.inr (.inr ⟨s, c.get s, hraw.gives hvs hs, rfl⟩))⟩
    rw [List.foldl_cons, hstep, ih hsub hv]
    rfl

/-- Reading the lines of some sections takes over their settings. -/
theorem exists_foldl_step_parts {blocks : List (List (List Char))}
    (h : List.Forall₂ (IsPart c) parts blocks) (hsub : ∀ part ∈ parts, part.2 ⊆ part.1.settings)
    (hv : ∀ part ∈ parts, ∀ s ∈ part.2, s.kind.IsWritable (c.get s)) (r : Reading) :
    ∃ header, blocks.flatten.foldl step (some r) =
      some ⟨c.copy (parts.flatMap Prod.snd) r.config, header⟩ := by
  induction h generalizing r with
  | nil => exact ⟨r.sectionName, rfl⟩
  | @cons part block parts blocks hblock _ ih =>
    obtain ⟨header, assignments, rfl, hheader, hassignments⟩ := hblock
    obtain ⟨hsubPart, hsub⟩ := List.forall_mem_cons.mp hsub
    obtain ⟨hvPart, hv⟩ := List.forall_mem_cons.mp hv
    obtain ⟨last, hrest⟩ := ih hsub hv ⟨c.copy part.2 r.config, part.1.name⟩
    refine ⟨last, ?_⟩
    rw [List.flatten_cons, List.foldl_append, List.foldl_cons, step_header hheader,
      foldl_step_assignments hassignments hsubPart hvPart, hrest, copy_flatMap, copy_flatMap,
      List.foldl_cons]

theorem foldl_step_filter (raws : List (List Char)) (r? : Option Reading) :
    (raws.filter fun raw => ¬ IsRemark raw).foldl step r? = raws.foldl step r? := by
  induction raws generalizing r? with
  | nil => rfl
  | cons raw raws ih =>
    by_cases hraw : IsRemark raw
    · rw [List.filter_cons_of_neg (by simpa using hraw), ih, List.foldl_cons, step_remark hraw]
    · rw [List.filter_cons_of_pos (by simpa using hraw), List.foldl_cons, List.foldl_cons, ih]

/-- What a text gives is read from it, and nothing else. -/
theorem parse_of_describes (h : Describes c parts text)
    (hsub : ∀ part ∈ parts, part.2 ⊆ part.1.settings)
    (hv : ∀ part ∈ parts, ∀ s ∈ part.2, s.kind.IsWritable (c.get s)) :
    parse text = .ok (c.copy (parts.flatMap Prod.snd) {}) := by
  obtain ⟨blocks, hblocks, hlines⟩ := h
  obtain ⟨header, hread⟩ := exists_foldl_step_parts hblocks hsub hv {}
  refine parse_eq_ok_iff.mpr ⟨⟨_, header⟩, ?_, rfl⟩
  rw [reading?, ← foldl_step_filter, hlines, hread]
  rfl

def printPart (c : Config) (part : Section × List Setting) : List (List Char) :=
  printHeader part.1 :: part.2.map (printSetting c)

theorem isHeader_printHeader (sec : Section) : IsHeader sec (printHeader sec) :=
  ⟨[], [], by simp [IsBlanks], by simp [IsBlanks], rfl⟩

theorem isAssignment_printSetting (c : Config) (s : Setting) :
    IsAssignment c s (printSetting c s) := by
  have hblank : IsBlanks [' '] := by simp [IsBlanks, isBlank]
  exact ⟨[], [' '], _, [' '], [], by simp [IsBlanks], hblank, hblank, by simp [IsBlanks], .inl rfl,
    by simp [printSetting]⟩

theorem isPart_printPart (c : Config) (part : Section × List Setting) :
    IsPart c part (printPart c part) :=
  ⟨_, _, rfl, isHeader_printHeader part.1, List.forall₂_map_right_iff.mpr
    (List.forall₂_same.mpr fun s _ => isAssignment_printSetting c s)⟩

theorem isPart_printParts (c : Config) (parts : List (Section × List Setting)) :
    List.Forall₂ (IsPart c) parts (parts.map (printPart c)) :=
  List.forall₂_map_right_iff.mpr (List.forall₂_same.mpr fun part _ => isPart_printPart c part)

theorem lineFeed_notMem_printPart (hv : ∀ s ∈ part.2, s.kind.IsWritable (c.get s)) :
    ∀ raw ∈ printPart c part, '\n' ∉ raw := by
  intro raw hraw
  obtain rfl | hraw := List.mem_cons.mp hraw
  · generalize part.1 = sec
    cases sec <;> decide
  · obtain ⟨s, hs, rfl⟩ := List.mem_map.mp hraw
    have hvalue := Kind.lineFeed_notMem_print (hv s hs)
    have hname : '\n' ∉ s.name.toList ++ " = ".toList := by cases s <;> decide +kernel
    rw [printSetting, List.mem_append, not_or]
    exact ⟨hname, hvalue⟩

theorem not_isRemark_printPart (hv : ∀ s ∈ part.2, s.kind.IsWritable (c.get s)) :
    ∀ raw ∈ printPart c part, ¬ IsRemark raw := by
  intro raw hraw
  obtain rfl | hraw := List.mem_cons.mp hraw
  · exact not_isRemark_of_read (isHeader_printHeader part.1).read (by simp)
  · obtain ⟨s, hs, rfl⟩ := List.mem_map.mp hraw
    obtain ⟨value, hread, -⟩ := (isAssignment_printSetting c s).read (hv s hs)
    exact not_isRemark_of_read hread (by simp)

theorem describes_print (hv : ∀ part ∈ parts, ∀ s ∈ part.2, s.kind.IsWritable (c.get s)) :
    Describes c parts
      (String.ofList ((parts.flatMap (printPart c)).flatMap (· ++ ['\n']))) := by
  have hlines : ∀ raw ∈ parts.flatMap (printPart c), '\n' ∉ raw ∧ ¬ IsRemark raw := by
    intro raw hraw
    obtain ⟨part, hpart, hraw⟩ := List.mem_flatMap.mp hraw
    exact ⟨lineFeed_notMem_printPart (hv part hpart) raw hraw,
      not_isRemark_printPart (hv part hpart) raw hraw⟩
  have hblank : IsRemark [] := .inl (by simp [IsBlanks])
  refine ⟨parts.map (printPart c), isPart_printParts c parts, ?_⟩
  rw [lines, String.toList_ofList, splitOn_flatMap fun raw hraw => (hlines raw hraw).1,
    List.filter_append, List.filter_cons_of_neg (by simpa using hblank), List.filter_nil,
    List.append_nil, List.filter_eq_self.mpr fun raw hraw => by simpa using (hlines raw hraw).2]
  rfl

end Ini
end NetworkTime.Config
