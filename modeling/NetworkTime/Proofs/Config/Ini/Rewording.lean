import Mathlib.Data.List.Perm.Basic
import Mathlib.Logic.Relation
import NetworkTime.Proofs.Config.Ini.Meaning

/-! Changes to the lines of a text that change nothing of what it says. -/

namespace NetworkTime.Config.Ini
variable {raw raw' : List Char} {raws raws' block block' : List (List Char)} {r r' : Reading}
  {s : Setting}
open Text

/-- The line is an assignment to a setting, whatever header is open. -/
def Names (raw : List Char) (s : Setting) : Prop :=
  ∃ key value, Line.read raw = .ok (.assignment key value) ∧ s.IsNamed key

theorem Names.eq_of_read {k v : String} {s' : Setting} (h : Names raw s)
    (hread : Line.read raw = .ok (.assignment k v)) (hnamed : s'.IsNamed k) : s = s' := by
  obtain ⟨k', v', hread', hnamed'⟩ := h
  rw [hread] at hread'
  cases hread'
  exact hnamed'.unique hnamed

/-- One change to the lines of a text. -/
inductive Rewording : List (List Char) → List (List Char) → Prop
  /-- One blank line or remark more. -/
  | remark (before after : List (List Char)) (raw : List Char) (h : IsRemark raw) :
    Rewording (before ++ after) (before ++ raw :: after)
  /-- The name of a section in letters of another case. -/
  | caseOfHeader (before after : List (List Char)) (pad pad' name name' : List Char)
    (hpad : IsBlanks pad) (hpad' : IsBlanks pad') (h : lowered name = lowered name') :
    Rewording (before ++ (pad ++ '[' :: (name ++ ']' :: pad')) :: after)
      (before ++ (pad ++ '[' :: (name' ++ ']' :: pad')) :: after)
  /-- A key in letters of another case. -/
  | caseOfKey (before after : List (List Char)) (key key' value : List Char)
    (hkey : IsKey key) (hkey' : IsKey key') (h : lowered key = lowered key') :
    Rewording (before ++ (key ++ '=' :: value) :: after)
      (before ++ (key' ++ '=' :: value) :: after)
  /-- Blanks around a key. -/
  | padKey (before after : List (List Char)) (key value pad pad' : List Char)
    (hkey : IsKey key) (hpad : IsBlanks pad) (hpad' : IsBlanks pad') :
    Rewording (before ++ (key ++ '=' :: value) :: after)
      (before ++ (pad ++ key ++ pad' ++ '=' :: value) :: after)
  /-- Blanks around a value. -/
  | padValue (before after : List (List Char)) (key value pad pad' : List Char)
    (hkey : IsKey key) (hpad : IsBlanks pad) (hpad' : IsBlanks pad') :
    Rewording (before ++ (key ++ '=' :: value) :: after)
      (before ++ (key ++ '=' :: (pad ++ value ++ pad')) :: after)
  /-- Another order of lines under one header, no two of which name the same setting. -/
  | order (before after block block' : List (List Char))
    (h : block.Perm block') (hheader : ∀ raw ∈ block, header? raw = none)
    (hnames : ∀ raw ∈ block, ∀ raw' ∈ block, raw ≠ raw' → ∀ s, ¬ (Names raw s ∧ Names raw' s)) :
    Rewording (before ++ block ++ after) (before ++ block' ++ after)

theorem line_congr_key {k k' v : String} (h : Line.read raw = .ok (.assignment k v))
    (h' : Line.read raw' = .ok (.assignment k' v)) (hk : lowered k.toList = lowered k'.toList)
    (r : Reading) : r.line raw = r.line raw' := by
  simp only [Reading.line, h, h', assign, hk]

theorem reading?_congr (h : ∀ r : Reading, r.line raw = r.line raw')
    (before after : List (List Char)) :
    reading? (before ++ raw :: after) = reading? (before ++ raw' :: after) := by
  have hstep (r? : Option Reading) : step r? raw = step r? raw' := by simp only [step, h]
  simp only [reading?, List.foldl_append, List.foldl_cons, hstep]

theorem Gives.names {header : String} {v : s.kind.Value} (h : Gives header raw s v) :
    Names raw s := by
  obtain ⟨key, value, hread, -, hnamed, -⟩ := h
  exact ⟨key, value, hread, hnamed⟩

/-- A line that is no header changes nothing or one setting. -/
theorem line_eq_ok_iff_of_header? (h : header? raw = none) : r.line raw = .ok r' ↔
    (Line.read raw = .ok .blank ∧ r' = r) ∨
      ∃ s v, Gives r.sectionName raw s v ∧ r' = { r with config := r.config.set s v } := by
  have hnot : ¬ ∃ name, Line.read raw = .ok (.header name) ∧
      r' = { r with sectionName := name } := by
    rintro ⟨name, hread, -⟩
    simp [header?, hread] at h
  rw [line_eq_ok_iff, or_iff_right hnot]

/-- Two lines between the same headers that assign no common setting can change places. -/
theorem step_comm_imp (hraw : header? raw = none) (hraw' : header? raw' = none)
    (hnames : ∀ s, ¬ (Names raw s ∧ Names raw' s)) {r? : Option Reading}
    (h : step (step r? raw) raw' = some r) : step (step r? raw') raw = some r := by
  obtain ⟨r₁, hr₁, hline'⟩ := step_eq_some_iff.mp h
  obtain ⟨r₀, rfl, hline⟩ := step_eq_some_iff.mp hr₁
  simp only [step_eq_some_iff, line_eq_ok_iff_of_header? hraw, line_eq_ok_iff_of_header? hraw']
    at hline hline' ⊢
  obtain ⟨hread, rfl⟩ | ⟨s, v, hgives, rfl⟩ := hline <;>
    obtain ⟨hread', rfl⟩ | ⟨s', v', hgives', rfl⟩ := hline'
  · exact ⟨_, ⟨_, rfl, .inl ⟨hread', rfl⟩⟩, .inl ⟨hread, rfl⟩⟩
  · exact ⟨_, ⟨_, rfl, .inr ⟨s', v', hgives', rfl⟩⟩, .inl ⟨hread, rfl⟩⟩
  · exact ⟨_, ⟨_, rfl, .inl ⟨hread', rfl⟩⟩, .inr ⟨s, v, hgives, rfl⟩⟩
  · have hne : s ≠ s' := by
      rintro rfl
      exact hnames s ⟨hgives.names, hgives'.names⟩
    refine ⟨_, ⟨_, rfl, .inr ⟨s', v', hgives', rfl⟩⟩, .inr ⟨s, v, hgives, ?_⟩⟩
    rw [set_comm _ hne]

theorem step_comm (hraw : header? raw = none) (hraw' : header? raw' = none)
    (hnames : ∀ s, ¬ (Names raw s ∧ Names raw' s)) (r? : Option Reading) :
    step (step r? raw) raw' = step (step r? raw') raw :=
  Option.ext fun _ => ⟨step_comm_imp hraw hraw' hnames,
    step_comm_imp hraw' hraw fun s hs => hnames s hs.symm⟩

theorem foldl_step_perm (h : block.Perm block') (hheader : ∀ raw ∈ block, header? raw = none)
    (hnames : ∀ raw ∈ block, ∀ raw' ∈ block, raw ≠ raw' → ∀ s, ¬ (Names raw s ∧ Names raw' s))
    (r? : Option Reading) : block.foldl step r? = block'.foldl step r? := by
  refine h.foldl_eq' (fun raw hraw raw' hraw' r? => ?_) r?
  by_cases heq : raw = raw'
  · rw [heq]
  · exact step_comm (hheader raw hraw) (hheader raw' hraw') (hnames raw hraw raw' hraw' heq) r?

theorem Rewording.reading?_eq (h : Rewording raws raws') : reading? raws = reading? raws' := by
  cases h with
  | remark before after raw h =>
    simp only [reading?, List.foldl_append, List.foldl_cons, step_remark h]
  | caseOfHeader before after pad pad' name name' hpad hpad' h =>
    refine reading?_congr (line_congr ?_) before after
    rw [read_header hpad hpad', read_header hpad hpad', ← trim_lowered, ← trim_lowered, h]
  | caseOfKey before after key key' value hkey hkey' h =>
    refine reading?_congr (line_congr_key (read_assignment hkey _) (read_assignment hkey' _) ?_)
      before after
    rw [String.toList_ofList, String.toList_ofList, ← trim_lowered, ← trim_lowered, h]
  | padKey before after key value pad pad' hkey hpad hpad' =>
    refine reading?_congr (line_congr ?_) before after
    rw [read_assignment hkey, read_assignment (hkey.padded hpad hpad'), trim_pad hpad hpad']
  | padValue before after key value pad pad' hkey hpad hpad' =>
    refine reading?_congr (line_congr ?_) before after
    rw [read_assignment hkey, read_assignment hkey, trim_pad hpad hpad']
  | order before after block block' h hheader hnames =>
    simp only [reading?, List.foldl_append, foldl_step_perm h hheader hnames]

theorem reading?_eq_of_eqvGen (h : Relation.EqvGen Rewording raws raws') :
    reading? raws = reading? raws' := by
  induction h with
  | rel _ _ h => exact h.reading?_eq
  | refl => rfl
  | symm _ _ _ ih => exact ih.symm
  | trans _ _ _ _ _ ih ih' => exact ih.trans ih'

/-- A text means its last assignments. It says of each setting what the last line to assign it says,
and the default where there is none. Blank lines, remarks, the case of keys and of the names of
sections, blanks around keys and values, and the order of assignments to different settings make no
difference. -/
theorem parse_eq_ok_iff_last_assignments (text : String) :
    (∀ c, parse text = .ok c ↔
      AllReadable (lines text) ∧ ∀ s, Means (lines text) s (c.get s)) ∧
    ∀ text', Relation.EqvGen Rewording (lines text) (lines text') →
      ∀ c, parse text = .ok c ↔ parse text' = .ok c := by
  refine ⟨fun c => parse_eq_ok_iff_means, fun text' h c => ?_⟩
  rw [parse_eq_ok_iff, parse_eq_ok_iff, reading?_eq_of_eqvGen h]

def draft : String := "poll = 4\n[server]\nstratum = 3\nmin_poll = 6"

def revised : String := "poll = 4\n[Server]\nMIN_POLL = 6\n; next\nstratum = 3"

/-- The lines of `draft` become those of `revised` one change after the other. -/
theorem draft_revised : Relation.EqvGen Rewording (lines draft) (lines revised) := by
  have hheader : Rewording (lines draft)
      ["poll = 4".toList, "[Server]".toList, "stratum = 3".toList, "min_poll = 6".toList] :=
    .caseOfHeader ["poll = 4".toList] ["stratum = 3".toList, "min_poll = 6".toList] [] []
      "server".toList "Server".toList (by simp [IsBlanks]) (by simp [IsBlanks])
      (by decide +kernel)
  have hkey : Rewording
      ["poll = 4".toList, "[Server]".toList, "stratum = 3".toList, "min_poll = 6".toList]
      ["poll = 4".toList, "[Server]".toList, "stratum = 3".toList, "MIN_POLL = 6".toList] :=
    .caseOfKey ["poll = 4".toList, "[Server]".toList, "stratum = 3".toList] [] "min_poll ".toList
      "MIN_POLL ".toList " 6".toList ⟨by decide, by decide⟩ ⟨by decide, by decide⟩
      (by decide +kernel)
  have horder : Rewording
      ["poll = 4".toList, "[Server]".toList, "stratum = 3".toList, "MIN_POLL = 6".toList]
      ["poll = 4".toList, "[Server]".toList, "MIN_POLL = 6".toList, "stratum = 3".toList] := by
    refine .order ["poll = 4".toList, "[Server]".toList] []
      ["stratum = 3".toList, "MIN_POLL = 6".toList]
      ["MIN_POLL = 6".toList, "stratum = 3".toList] (.swap ..) (by decide +kernel) ?_
    have hstratum {s} (h : Names "stratum = 3".toList s) : s = .stratum :=
      h.eq_of_read (k := "stratum") (v := "3") (by decide +kernel) rfl
    have hpoll {s} (h : Names "MIN_POLL = 6".toList s) : s = .poll :=
      h.eq_of_read (k := "MIN_POLL") (v := "6") (by decide +kernel) rfl
    simp only [List.mem_cons, List.not_mem_nil, or_false]
    rintro raw (rfl | rfl) raw' (rfl | rfl) hne s ⟨h, h'⟩
    · exact hne rfl
    · cases (hstratum h).symm.trans (hpoll h')
    · cases (hpoll h).symm.trans (hstratum h')
    · exact hne rfl
  have hremark : Rewording
      ["poll = 4".toList, "[Server]".toList, "MIN_POLL = 6".toList, "stratum = 3".toList]
      (lines revised) :=
    .remark ["poll = 4".toList, "[Server]".toList, "MIN_POLL = 6".toList]
      ["stratum = 3".toList] "; next".toList
      (.inr ⟨[], ';', " next".toList, by simp [IsBlanks], .inr rfl, rfl⟩)
  exact (((Relation.EqvGen.rel _ _ hheader).trans _ _ _ (.rel _ _ hkey)).trans _ _ _
    (.rel _ _ horder)).trans _ _ _ (.rel _ _ hremark)

theorem parse_revised : parse draft = .ok { server := { stratum := 3, poll := 6 } } ∧
    Relation.EqvGen Rewording (lines draft) (lines revised) ∧
    parse revised = .ok { server := { stratum := 3, poll := 6 } } := by
  have hdraft : parse draft = .ok { server := { stratum := 3, poll := 6 } } := by decide +kernel
  exact ⟨hdraft, draft_revised,
    ((parse_eq_ok_iff_last_assignments draft).2 revised draft_revised _).mp hdraft⟩

end NetworkTime.Config.Ini
