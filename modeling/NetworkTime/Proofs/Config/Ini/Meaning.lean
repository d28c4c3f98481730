import Mathlib.Data.List.Induction
import Mathlib.Data.Nat.Basic
import Mathlib.Order.Basic
import NetworkTime.Proofs.Config.Assign
import NetworkTime.Proofs.Config.Ini.Line

/-! What a text says. Each setting has the value that the last line to assign it gives, and its
default where no line does. -/

namespace NetworkTime.Config.Ini
variable {text header : String} {raw raw' : List Char} {raws : List (List Char)} {r r' : Reading}
  {c : Config} {s s' : Setting} {i : Nat}
open Text

def lines (text : String) : List (List Char) := splitOn '\n' text.toList

/-- The header that a line is, if it is one. -/
def header? (raw : List Char) : Option String :=
  match Line.read raw with
  | .ok (.header name) => some name
  | _ => none

/-- The last header among lines, which is empty before the first one. -/
def headerAfter (raws : List (List Char)) : String := (raws.reverse.findSome? header?).getD ""

/-- The line gives a setting a value. -/
def Gives (header : String) (raw : List Char) (s : Setting) (v : s.kind.Value) : Prop :=
  ∃ key value, Line.read raw = .ok (.assignment key value) ∧
    s.IsOpen header ∧ s.IsNamed key ∧ s.kind.read value = .ok v

/-- A line that is not refused. -/
def IsReadable (header : String) (raw : List Char) : Prop :=
  Line.read raw = .ok .blank ∨ (∃ name, Line.read raw = .ok (.header name)) ∨
    ∃ s v, Gives header raw s v

/-- Line `i` and the header that is open when it is read. -/
def LineAt (raws : List (List Char)) (i : Nat) (header : String) (raw : List Char) : Prop :=
  raws[i]? = some raw ∧ headerAfter (raws.take i) = header

def AllReadable (raws : List (List Char)) : Prop :=
  ∀ i header raw, LineAt raws i header raw → IsReadable header raw

/-- Line `i` gives a setting a value. -/
def Assigns (raws : List (List Char)) (i : Nat) (s : Setting) (v : s.kind.Value) : Prop :=
  ∃ header raw, LineAt raws i header raw ∧ Gives header raw s v

/-- The value that lines give to a setting: that of the last assignment, else the default. -/
def Means (raws : List (List Char)) (s : Setting) (v : s.kind.Value) : Prop :=
  (∃ i, Assigns raws i s v ∧ ∀ j w, i < j → ¬ Assigns raws j s w) ∨
    (v = ({} : Config).get s ∧ ∀ i w, ¬ Assigns raws i s w)

theorem Gives.value_unique {v w : s.kind.Value} (h : Gives header raw s v)
    (h' : Gives header raw s w) : v = w := by
  obtain ⟨key, value, hread, -, -, hv⟩ := h
  obtain ⟨key', value', hread', -, -, hw⟩ := h'
  rw [hread] at hread'
  cases hread'
  rw [hv] at hw
  exact Except.ok.inj hw

theorem Gives.setting_unique {v : s.kind.Value} {v' : s'.kind.Value} (h : Gives header raw s v)
    (h' : Gives header raw s' v') : s = s' := by
  obtain ⟨key, value, hread, -, hnamed, -⟩ := h
  obtain ⟨key', value', hread', -, hnamed', -⟩ := h'
  rw [hread] at hread'
  cases hread'
  exact hnamed.unique hnamed'

theorem line_congr (h : Line.read raw = Line.read raw') (r : Reading) :
    r.line raw = r.line raw' := by
  simp only [Reading.line, h]

/-- A line changes nothing, or the open header, or one setting. -/
theorem line_eq_ok_iff : r.line raw = .ok r' ↔
    (Line.read raw = .ok .blank ∧ r' = r) ∨
    (∃ name, Line.read raw = .ok (.header name) ∧ r' = { r with sectionName := name }) ∨
    ∃ s v, Gives r.sectionName raw s v ∧ r' = { r with config := r.config.set s v } := by
  constructor
  · intro h
    unfold Reading.line at h
    split at h
    · cases h
    · cases h
      exact .inl ⟨‹_›, rfl⟩
    · cases h
      exact .inr (.inl ⟨_, ‹_›, rfl⟩)
    · rename_i key value hread
      split at h
      · rename_i config hassign
        cases h
        obtain ⟨s, v, hopen, hnamed, hv, rfl⟩ := assign_eq_ok_iff.mp hassign
        exact .inr (.inr ⟨s, v, ⟨key, value, hread, hopen, hnamed, hv⟩, rfl⟩)
      · cases h
  · rintro (⟨hread, rfl⟩ | ⟨name, hread, rfl⟩ | ⟨s, v, ⟨key, value, hread, hopen, hnamed, hv⟩, rfl⟩)
    · simp only [Reading.line, hread]
    · simp only [Reading.line, hread]
    · have hassign : r.config.assign r.sectionName key value = .ok (r.config.set s v) :=
        assign_eq_ok_iff.mpr ⟨s, v, hopen, hnamed, hv, rfl⟩
      simp only [Reading.line, hread, hassign]

theorem exists_line (h : IsReadable r.sectionName raw) : ∃ r', r.line raw = .ok r' := by
  obtain hread | ⟨name, hread⟩ | ⟨s, v, hgives⟩ := h
  · exact ⟨r, line_eq_ok_iff.mpr (.inl ⟨hread, rfl⟩)⟩
  · exact ⟨_, line_eq_ok_iff.mpr (.inr (.inl ⟨name, hread, rfl⟩))⟩
  · exact ⟨_, line_eq_ok_iff.mpr (.inr (.inr ⟨s, v, hgives, rfl⟩))⟩

/-- Reads one line more, if none before was refused. -/
def step (r? : Option Reading) (raw : List Char) : Option Reading :=
  r?.bind fun r => (r.line raw).toOption

/-- What has been read after lines, if none was refused. -/
def reading? (raws : List (List Char)) : Option Reading := raws.foldl step (some {})

theorem step_eq_some_iff {r? : Option Reading} :
    step r? raw = some r' ↔ ∃ r, r? = some r ∧ r.line raw = .ok r' := by
  rw [step, Option.bind_eq_some_iff]
  refine exists_congr fun r => and_congr_right fun _ => ?_
  cases r.line raw <;> simp [Except.toOption]

theorem step_remark (h : IsRemark raw) (r? : Option Reading) : step r? raw = r? := by
  cases r? <;> simp [step, Reading.line, read_remark h, Except.toOption]

theorem reading?_snoc_eq_some_iff :
    reading? (raws ++ [raw]) = some r' ↔ ∃ r, reading? raws = some r ∧ r.line raw = .ok r' := by
  rw [reading?, List.foldl_append, List.foldl_cons, List.foldl_nil, step_eq_some_iff, reading?]

theorem foldl_step_none (raws : List (List Char)) : raws.foldl step none = none := by
  induction raws with
  | nil => rfl
  | cons raw raws ih => exact ih

theorem toOption_lines (r : Reading) (number : Nat) :
    (r.lines number raws).toOption = raws.foldl step (some r) := by
  induction raws generalizing r number with
  | nil => rfl
  | cons raw raws ih =>
    rw [Reading.lines, List.foldl_cons, step, Option.bind_some]
    cases r.line raw with
    | ok r => exact ih r (number + 1)
    | error fault => exact (foldl_step_none raws).symm

theorem parse_eq_ok_iff :
    parse text = .ok c ↔ ∃ r, reading? (lines text) = some r ∧ r.config = c := by
  rw [reading?, ← toOption_lines {} 1, lines, parse]
  cases Reading.lines {} 1 (splitOn '\n' text.toList) <;> simp [Except.toOption, Except.map]

theorem headerAfter_snoc (raws : List (List Char)) (raw : List Char) :
    headerAfter (raws ++ [raw]) = (header? raw).getD (headerAfter raws) := by
  rw [headerAfter, List.reverse_append, List.reverse_singleton, List.singleton_append,
    List.findSome?_cons]
  cases header? raw <;> rfl

theorem lineAt_snoc_iff : LineAt (raws ++ [raw']) i header raw ↔
    LineAt raws i header raw ∨ i = raws.length ∧ headerAfter raws = header ∧ raw' = raw := by
  rcases lt_trichotomy i raws.length with hi | rfl | hi
  · simp [LineAt, List.getElem?_append_left hi, List.take_append_of_le_length hi.le, hi.ne]
  · simp [LineAt, and_comm]
  · have hlen : (raws ++ [raw']).length ≤ i := by
      rw [List.length_append, List.length_singleton]
      exact hi
    simp [LineAt, List.getElem?_eq_none hlen, List.getElem?_eq_none hi.le, hi.ne']

theorem assigns_snoc_iff {v : s.kind.Value} : Assigns (raws ++ [raw]) i s v ↔
    Assigns raws i s v ∨ i = raws.length ∧ Gives (headerAfter raws) raw s v := by
  simp [Assigns, lineAt_snoc_iff, or_and_right, exists_or, and_assoc]

theorem allReadable_snoc_iff : AllReadable (raws ++ [raw]) ↔
    AllReadable raws ∧ IsReadable (headerAfter raws) raw := by
  simp [AllReadable, lineAt_snoc_iff, or_imp, forall_and]

theorem Assigns.lt_length {v : s.kind.Value} (h : Assigns raws i s v) : i < raws.length := by
  obtain ⟨header, raw, ⟨hi, -⟩, -⟩ := h
  exact (List.getElem?_eq_some_iff.mp hi).1

theorem Means.snoc_of_gives {v : s.kind.Value} (h : Gives (headerAfter raws) raw s v) :
    Means (raws ++ [raw]) s v := by
  refine .inl ⟨raws.length, assigns_snoc_iff.mpr (.inr ⟨rfl, h⟩), fun j w hj hassigns => ?_⟩
  have hlt := hassigns.lt_length
  rw [List.length_append, List.length_singleton] at hlt
  omega

theorem Means.snoc {v : s.kind.Value} (h : Means raws s v)
    (hraw : ∀ w, ¬ Gives (headerAfter raws) raw s w) : Means (raws ++ [raw]) s v := by
  have hsame (i w) : Assigns (raws ++ [raw]) i s w ↔ Assigns raws i s w := by
    simp [assigns_snoc_iff, hraw w]
  simpa only [Means, hsame] using h

theorem Means.unique {v w : s.kind.Value} (h : Means raws s v) (h' : Means raws s w) : v = w := by
  obtain ⟨i, hv, hlast⟩ | ⟨hv, hnone⟩ := h <;> obtain ⟨j, hw, hlast'⟩ | ⟨hw, hnone'⟩ := h'
  · rcases lt_trichotomy i j with hij | rfl | hij
    · exact absurd hw (hlast j w hij)
    · obtain ⟨header, raw, ⟨hraw, rfl⟩, hgives⟩ := hv
      obtain ⟨header', raw', ⟨hraw', rfl⟩, hgives'⟩ := hw
      rw [hraw] at hraw'
      cases hraw'
      exact hgives.value_unique hgives'
    · exact absurd hv (hlast' i v hij)
  · exact absurd hv (hnone' i v)
  · exact absurd hw (hnone j w)
  · rw [hv, hw]

theorem Gives.not_of_read {line : Line} (hread : Line.read raw = .ok line)
    (h : ∀ key value, line ≠ .assignment key value) (v : s.kind.Value) :
    ¬ Gives header raw s v := by
  rintro ⟨key, value, hread', -⟩
  rw [hread] at hread'
  exact h key value (Except.ok.inj hread')

/-- What has been read is what the lines mean. -/
theorem means_of_reading? (h : reading? raws = some r) :
    r.sectionName = headerAfter raws ∧ AllReadable raws ∧ ∀ s, Means raws s (r.config.get s) := by
  induction raws using List.reverseRecOn generalizing r with
  | nil =>
    cases h
    exact ⟨rfl, by simp [AllReadable, LineAt], fun s => .inr ⟨rfl, by simp [Assigns, LineAt]⟩⟩
  | append_singleton raws raw ih =>
    obtain ⟨r, hr, hline⟩ := reading?_snoc_eq_some_iff.mp h
    obtain ⟨hheader, hreadable, hmeans⟩ := ih hr
    rw [headerAfter_snoc, allReadable_snoc_iff]
    obtain ⟨hread, rfl⟩ | ⟨name, hread, rfl⟩ | ⟨s, v, hgives, rfl⟩ := line_eq_ok_iff.mp hline
    · refine ⟨by simp [header?, hread, hheader], ⟨hreadable, .inl hread⟩, fun s => ?_⟩
      exact (hmeans s).snoc (Gives.not_of_read hread (by simp))
    · refine ⟨by simp [header?, hread], ⟨hreadable, .inr (.inl ⟨name, hread⟩)⟩, fun s => ?_⟩
      exact (hmeans s).snoc (Gives.not_of_read hread (by simp))
    · rw [hheader] at hgives
      refine ⟨?_, ⟨hreadable, .inr (.inr ⟨s, v, hgives⟩)⟩, fun s' => ?_⟩
      · obtain ⟨key, value, hread, -⟩ := hgives
        simp [header?, hread, hheader]
      by_cases hs : s' = s
      · subst hs
        rw [get_set_same]
        exact .snoc_of_gives hgives
      · rw [get_set_of_ne _ _ hs]
        exact (hmeans s').snoc fun w hw => hs (hw.setting_unique hgives)

theorem exists_reading (h : AllReadable raws) : ∃ r, reading? raws = some r := by
  induction raws using List.reverseRecOn with
  | nil => exact ⟨{}, rfl⟩
  | append_singleton raws raw ih =>
    obtain ⟨hraws, hraw⟩ := allReadable_snoc_iff.mp h
    obtain ⟨r, hr⟩ := ih hraws
    rw [← (means_of_reading? hr).1] at hraw
    obtain ⟨r', hline⟩ := exists_line hraw
    exact ⟨r', reading?_snoc_eq_some_iff.mpr ⟨r, hr, hline⟩⟩

/-- A text is read if none of its lines is refused, and says what its lines mean. -/
theorem parse_eq_ok_iff_means : parse text = .ok c ↔
    AllReadable (lines text) ∧ ∀ s, Means (lines text) s (c.get s) := by
  rw [parse_eq_ok_iff]
  constructor
  · rintro ⟨r, hr, rfl⟩
    exact (means_of_reading? hr).2
  · rintro ⟨hreadable, hmeans⟩
    obtain ⟨r, hr⟩ := exists_reading hreadable
    exact ⟨r, hr, ext_get fun s => ((means_of_reading? hr).2.2 s).unique (hmeans s)⟩

end NetworkTime.Config.Ini
