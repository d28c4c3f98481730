import NetworkTime.Proofs.Config.Ini.Meaning
import NetworkTime.Proofs.Text.Lines

/-! Which line of a text is refused, and why. It is the first one that cannot be read under the header
that is open there, and nothing after it counts. -/

namespace NetworkTime.Config.Ini
variable {text header : String} {raw : List Char} {raws raws' : List (List Char)}
  {r r' : Reading} {fault : LineFault} {number i k : Nat}
open Text

/-- Why a line is refused under a header. It is meant as a header and lacks the bracket at its end, or
it lacks the sign of an assignment, or it is an assignment that is refused in the section of the
header. -/
inductive RefusesLine (header : String) (raw : List Char) : LineFault → Prop
  | unterminatedHeader {inner : List Char} (hline : trim raw = '[' :: inner)
    (hend : inner.getLast? ≠ some ']') :
    RefusesLine header raw (.unterminatedHeader (String.ofList (trim raw)))
  | noAssignment (hplain : IsPlain (trim raw)) (hsign : '=' ∉ trim raw) :
    RefusesLine header raw (.noAssignment (String.ofList (trim raw)))
  | assignment {before after : List Char} {fault : AssignFault} (hplain : IsPlain (trim raw))
    (hline : trim raw = before ++ '=' :: after) (hsign : '=' ∉ before)
    (hrefuses : Refuses header (String.ofList (trim before)) (String.ofList (unquote (trim after)))
      fault) :
    RefusesLine header raw (.assignment fault)

theorem line_eq_error_iff : r.line raw = .error fault ↔ RefusesLine r.sectionName raw fault := by
  constructor
  · intro h
    unfold Reading.line at h
    split at h
    · rename_i hread
      cases h
      cases read_eq_iff.mp hread with
      | unterminatedHeader hline hend => exact .unterminatedHeader hline hend
      | noAssignment hplain hsign => exact .noAssignment hplain hsign
    · cases h
    · cases h
    · rename_i hread
      split at h
      · cases h
      · rename_i hassign
        cases h
        cases read_eq_iff.mp hread with
        | assignment hplain hline hsign =>
          exact .assignment hplain hline hsign (assign_eq_error_iff.mp hassign)
  · intro h
    cases h with
    | unterminatedHeader hline hend =>
      simp only [Reading.line, read_eq_iff.mpr (.unterminatedHeader hline hend)]
    | noAssignment hplain hsign =>
      simp only [Reading.line, read_eq_iff.mpr (.noAssignment hplain hsign)]
    | assignment hplain hline hsign hrefuses =>
      have hassign := assign_eq_error_iff (c := r.config).mpr hrefuses
      simp only [Reading.line, read_eq_iff.mpr (.assignment hplain hline hsign), hassign]

theorem isReadable_iff : IsReadable header raw ↔ ∀ fault, ¬ RefusesLine header raw fault := by
  constructor
  · intro h fault hrefuses
    obtain ⟨r', hr'⟩ := exists_line (r := ⟨{}, header⟩) h
    rw [line_eq_error_iff (r := ⟨{}, header⟩) |>.mpr hrefuses] at hr'
    cases hr'
  · intro h
    cases hline : (⟨{}, header⟩ : Reading).line raw with
    | error fault => exact absurd (line_eq_error_iff.mp hline) (h fault)
    | ok r' =>
      obtain ⟨hread, -⟩ | ⟨name, hread, -⟩ | ⟨s, v, hgives, -⟩ := line_eq_ok_iff.mp hline
      · exact .inl hread
      · exact .inr (.inl ⟨name, hread⟩)
      · exact .inr (.inr ⟨s, v, hgives⟩)

theorem lines_append (r : Reading) (number : Nat) (raws raws' : List (List Char)) :
    r.lines number (raws ++ raws') =
      (r.lines number raws).bind fun r' => r'.lines (number + raws.length) raws' := by
  induction raws generalizing r number with
  | nil => rfl
  | cons raw raws ih =>
    rw [List.cons_append, Reading.lines, Reading.lines]
    cases r.line raw with
    | error fault => rfl
    | ok r =>
      refine (ih r (number + 1)).trans ?_
      rw [Nat.add_right_comm]
      rfl

theorem lines_eq_error_iff : r.lines number raws = .error ⟨k, fault⟩ ↔
    ∃ i raw r', k = number + i ∧ raws[i]? = some raw ∧
      r.lines number (raws.take i) = .ok r' ∧ r'.line raw = .error fault := by
  induction raws generalizing r number with
  | nil => simp [Reading.lines]
  | cons first raws ih =>
    -- The line is the first one, or it is among the others, whose numbers start one later.
    rw [Reading.lines, ← Nat.or_exists_add_one]
    cases hfirst : r.line first with
    | error fault' => simp [Reading.lines, hfirst, eq_comm]
    | ok next => simp [Reading.lines, hfirst, ih, Nat.add_assoc, Nat.add_comm 1]

/-- Nothing after the line that is refused counts. -/
theorem lines_eq_error_of_take_eq (hsame : raws.take k = raws'.take k)
    (h : r.lines 1 raws = .error ⟨k, fault⟩) : r.lines 1 raws' = .error ⟨k, fault⟩ := by
  obtain ⟨i, raw, r', rfl, hraw, hbefore, hline⟩ := lines_eq_error_iff.mp h
  refine lines_eq_error_iff.mpr ⟨i, raw, r', rfl, ?_, ?_, hline⟩
  · have hat := congrArg (·[i]?) hsame
    simpa [List.getElem?_take, hraw, eq_comm] using hat
  · have hfront := congrArg (List.take i) hsame
    rw [List.take_take, List.take_take, Nat.min_eq_left (by omega)] at hfront
    rw [← hfront, hbefore]

/-- Of a text that is read up to a line, but not with it, that is the line refused. -/
theorem exists_fault_iff (r : Reading) (raws : List (List Char)) (k : Nat) :
    (∃ fault, r.lines 1 raws = .error ⟨k, fault⟩) ↔
      (∃ r', r.lines 1 (raws.take (k - 1)) = .ok r') ∧
        ¬ ∃ r', r.lines 1 (raws.take k) = .ok r' := by
  constructor
  · rintro ⟨fault, h⟩
    obtain ⟨i, raw, r', rfl, hraw, hbefore, hline⟩ := lines_eq_error_iff.mp h
    rw [Nat.add_sub_cancel_left]
    refine ⟨⟨r', hbefore⟩, ?_⟩
    rintro ⟨r'', hboth⟩
    rw [Nat.add_comm, List.take_add_one, hraw, lines_append, hbefore] at hboth
    simp [Except.bind, Reading.lines, hline] at hboth
  · rintro ⟨⟨r', hbefore⟩, hnot⟩
    cases k with
    | zero => exact absurd ⟨r', hbefore⟩ hnot
    | succ i =>
      rw [Nat.add_sub_cancel] at hbefore
      rw [List.take_add_one, lines_append, hbefore] at hnot
      cases hraw : raws[i]? with
      | none => exact absurd ⟨r', by simp [Except.bind, Reading.lines, hraw]⟩ hnot
      | some raw =>
        cases hline : r'.line raw with
        | ok next => exact absurd ⟨next, by simp [Except.bind, Reading.lines, hraw, hline]⟩ hnot
        | error fault =>
          exact ⟨fault, lines_eq_error_iff.mpr
            ⟨i, raw, r', Nat.add_comm .., hraw, hbefore, hline⟩⟩

theorem lines_endedLines (r : Reading) (number : Nat) (parts : List (List Char)) :
    r.lines number (endedLines parts) = r.lines number parts := by
  induction parts using endedLines.induct generalizing r number with
  | case1 => rfl
  | case2 => rfl
  | case3 last hlast => rw [endedLines, if_neg hlast]
  | case4 part next parts ih =>
    rw [endedLines, Reading.lines, Reading.lines, line_congr (read_congr (trim_dropReturn part))]
    cases r.line part with
    | error fault => rfl
    | ok r => exact ih r (number + 1)

theorem parse_eq_lines (text : String) :
    parse text = (Reading.lines {} 1 (splitLines text.toList)).map Reading.config := by
  rw [splitLines, lines_endedLines, parse]

theorem parse_eq_error_iff {f : Fault} :
    parse text = .error f ↔ Reading.lines {} 1 (splitLines text.toList) = .error f := by
  rw [parse_eq_lines]
  cases Reading.lines {} 1 (splitLines text.toList) <;> simp [Except.map]

def IsAccepted (text : String) : Prop := ∃ c, parse text = .ok c

/-- A text that is made of the first lines of another, whichever way they end. -/
def IsFirstLines (k : Nat) (text upto : String) : Prop :=
  splitLines upto.toList = (splitLines text.toList).take k

instance (k : Nat) (text upto : String) : Decidable (IsFirstLines k text upto) :=
  inferInstanceAs (Decidable (_ = _))

theorem exists_isFirstLines (k : Nat) (text : String) :
    ∃ upto rest, text = upto ++ rest ∧ IsFirstLines k text upto := by
  obtain ⟨upto, rest, htext, hupto⟩ := exists_splitLines_eq_take text.toList k
  refine ⟨String.ofList upto, String.ofList rest, ?_, ?_⟩
  · rw [← String.ofList_append, ← htext, String.ofList_toList]
  · rw [IsFirstLines, String.toList_ofList, hupto]

theorem IsFirstLines.isAccepted_iff {upto : String} (h : IsFirstLines k text upto) :
    IsAccepted upto ↔ ∃ r, Reading.lines {} 1 ((splitLines text.toList).take k) = .ok r := by
  rw [IsAccepted, parse_eq_lines, show splitLines upto.toList = _ from h]
  cases Reading.lines {} 1 ((splitLines text.toList).take k) <;> simp [Except.map]

theorem lines_eq_ok_iff : Reading.lines {} 1 raws = .ok r ↔ reading? raws = some r := by
  rw [reading?, ← toOption_lines {} 1]
  cases Reading.lines {} 1 raws <;> simp [Except.toOption]

theorem allReadable_take_iff : AllReadable (raws.take i) ↔
    ∀ j < i, ∀ header raw fault, LineAt raws j header raw → ¬ RefusesLine header raw fault := by
  have hline (j header raw) :
      LineAt (raws.take i) j header raw ↔ j < i ∧ LineAt raws j header raw := by
    rw [LineAt, LineAt, List.take_take, List.getElem?_take]
    by_cases hj : j < i
    · simp [hj, Nat.min_eq_left (Nat.le_of_lt hj)]
    · simp [hj]
  simp only [AllReadable, hline, isReadable_iff, and_imp]
  grind

theorem header?_eq_some_iff {name : String} : header? raw = some name ↔
    ∃ inner, trim raw = '[' :: (inner ++ [']']) ∧ name = String.ofList (lowered (trim inner)) := by
  constructor
  · intro h
    unfold header? at h
    split at h
    · rename_i hread
      cases h
      cases read_eq_iff.mp hread with
      | header hline => exact ⟨_, hline, rfl⟩
    · cases h
  · rintro ⟨inner, hline, rfl⟩
    simp only [header?, read_eq_iff.mpr (.header hline)]

/-- A text is refused at a line if what is made of the lines before is accepted, and not with that
line. The fault is then the same whatever follows. It is that of the first line that is refused under
the last header before it. A header is a name between brackets, and is not refused itself, whether or
not it names a section. -/
theorem parse_fails_at_first_refused_line (text : String) :
    (∀ k, ∃ upto rest, text = upto ++ rest ∧ IsFirstLines k text upto) ∧
    (∀ k before upto, IsFirstLines (k - 1) text before → IsFirstLines k text upto →
      ((∃ fault, parse text = .error ⟨k, fault⟩) ↔ IsAccepted before ∧ ¬ IsAccepted upto)) ∧
    (∀ k fault, parse text = .error ⟨k, fault⟩ → ∀ text' upto,
      IsFirstLines k text upto → IsFirstLines k text' upto → parse text' = .error ⟨k, fault⟩) ∧
    (∀ k fault, parse text = .error ⟨k, fault⟩ ↔
      ∃ i header raw, k = i + 1 ∧ LineAt (splitLines text.toList) i header raw ∧
        RefusesLine header raw fault ∧
        ∀ j < i, ∀ header' raw' fault', LineAt (splitLines text.toList) j header' raw' →
          ¬ RefusesLine header' raw' fault') ∧
    ∀ raw name, (header? raw = some name ↔ ∃ inner, trim raw = '[' :: (inner ++ [']']) ∧
        name = String.ofList (lowered (trim inner))) ∧
      (header? raw = some name → ∀ header fault, ¬ RefusesLine header raw fault) := by
  simp only [parse_eq_error_iff]
  refine ⟨fun k => exists_isFirstLines k text, ?_, ?_, ?_, ?_⟩
  · intro k before upto hbefore hupto
    rw [hbefore.isAccepted_iff, hupto.isAccepted_iff]
    exact exists_fault_iff {} _ k
  · intro k fault h text' upto hupto hupto'
    exact lines_eq_error_of_take_eq (hupto.symm.trans hupto') h
  · intro k fault
    rw [lines_eq_error_iff]
    constructor
    · rintro ⟨i, raw, r', rfl, hraw, hbefore, hline⟩
      obtain ⟨hheader, hreadable, -⟩ := means_of_reading? (lines_eq_ok_iff.mp hbefore)
      rw [line_eq_error_iff, hheader] at hline
      exact ⟨i, _, raw, Nat.add_comm .., ⟨hraw, rfl⟩, hline, allReadable_take_iff.mp hreadable⟩
    · rintro ⟨i, header, raw, rfl, ⟨hraw, rfl⟩, hrefuses, hbefore⟩
      obtain ⟨r', hr'⟩ := exists_reading (allReadable_take_iff.mpr hbefore)
      rw [← (means_of_reading? hr').1] at hrefuses
      exact ⟨i, raw, r', Nat.add_comm .., hraw, lines_eq_ok_iff.mpr hr',
        line_eq_error_iff.mpr hrefuses⟩
  · intro raw name
    refine ⟨header?_eq_some_iff, fun hname header => isReadable_iff.mp (.inr (.inl ?_))⟩
    obtain ⟨inner, hline, -⟩ := header?_eq_some_iff.mp hname
    exact ⟨_, read_eq_iff.mpr (.header hline)⟩

/-- An unknown section is refused at the first assignment in it, on the third line here, where a fourth
one would be refused as well. -/
theorem parse_fails_at_first_refused_line_third :
    parse "[nowhere]\r\n\npoll = 4\npoll" =
      .error ⟨3, .assignment (.unknownSection "nowhere")⟩ ∧
    IsAccepted "[nowhere]\n\n" ∧ ¬ IsAccepted "[nowhere]\n\npoll = 4" ∧
    parse "[nowhere]\n\npoll = 4\r\n[server]" =
      .error ⟨3, .assignment (.unknownSection "nowhere")⟩ := by
  obtain ⟨-, hfirst, hsame, -⟩ :=
    parse_fails_at_first_refused_line "[nowhere]\r\n\npoll = 4\npoll"
  have hparse : parse "[nowhere]\r\n\npoll = 4\npoll" =
      .error ⟨3, .assignment (.unknownSection "nowhere")⟩ := by decide +kernel
  have hbefore : IsFirstLines 2 "[nowhere]\r\n\npoll = 4\npoll" "[nowhere]\n\n" := by
    decide +kernel
  have hupto : IsFirstLines 3 "[nowhere]\r\n\npoll = 4\npoll" "[nowhere]\n\npoll = 4" := by
    decide +kernel
  have hupto' : IsFirstLines 3 "[nowhere]\n\npoll = 4\r\n[server]" "[nowhere]\n\npoll = 4" := by
    decide +kernel
  obtain ⟨haccepted, hrefused⟩ := (hfirst 3 _ _ hbefore hupto).mp ⟨_, hparse⟩
  exact ⟨hparse, haccepted, hrefused, hsame 3 _ hparse _ _ hupto hupto'⟩

end NetworkTime.Config.Ini
