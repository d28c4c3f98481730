import NetworkTime.Config.Ini
import NetworkTime.Proofs.Text.Blank

/-! What single lines say: remarks, headers and assignments, with blanks around their parts. -/

namespace NetworkTime.Config.Ini
variable {raw raw' key pad pad' inner cs : List Char} {c : Char}
open Text

/-- A line that says nothing: only blanks, or the mark of a remark after them. -/
def IsRemark (raw : List Char) : Prop :=
  IsBlanks raw ∨ ∃ pad mark remark, IsBlanks pad ∧ (mark = '#' ∨ mark = ';') ∧
    raw = pad ++ mark :: remark

/-- What can stand before the sign of an assignment without making something else of the line. -/
def IsKey (key : List Char) : Prop :=
  '=' ∉ key ∧ (trim key).head? ∉ [some '#', some ';', some '[']

theorem IsKey.padded (h : IsKey key) (hpad : IsBlanks pad) (hpad' : IsBlanks pad') :
    IsKey (pad ++ key ++ pad') := by
  obtain ⟨hsign, hhead⟩ := h
  have hnot {cs : List Char} (hcs : IsBlanks cs) : '=' ∉ cs := fun hmem =>
    absurd (hcs _ hmem) (by decide)
  refine ⟨by simp [hsign, hnot hpad, hnot hpad'], ?_⟩
  rwa [trim_pad hpad hpad']

theorem dropSuffix?_eq_some_iff : dropSuffix? c cs = some inner ↔ cs = inner ++ [c] := by
  unfold dropSuffix?
  split
  · rename_i hlast
    obtain ⟨front, rfl⟩ := List.getLast?_eq_some_iff.mp hlast
    simp
  · rename_i hlast
    simp only [reduceCtorEq, false_iff]
    rintro rfl
    exact hlast List.getLast?_concat

theorem dropSuffix?_eq_none_iff : dropSuffix? c cs = none ↔ cs.getLast? ≠ some c := by
  simp [dropSuffix?]

theorem read_congr (h : trim raw = trim raw') : Line.read raw = Line.read raw' := by
  rw [Line.read, Line.read, h]

theorem read_remark (h : IsRemark raw) : Line.read raw = .ok .blank := by
  obtain hblanks | ⟨pad, mark, remark, hpad, hmark, rfl⟩ := h
  · rw [Line.read, trim_eq_nil hblanks]
  · have hmark' : isBlank mark = false := by
      obtain rfl | rfl := hmark <;> decide
    rw [Line.read, trim_append_cons hmark', trimStart_eq_nil hpad]
    obtain rfl | rfl := hmark <;> rfl

theorem read_header (hpad : IsBlanks pad) (hpad' : IsBlanks pad') (name : List Char) :
    Line.read (pad ++ '[' :: (name ++ ']' :: pad')) =
      .ok (.header (String.ofList (lowered (trim name)))) := by
  have htrim : trim (pad ++ '[' :: (name ++ ']' :: pad')) = '[' :: (name ++ [']']) := by
    rw [trim_append_cons (by decide), trimEnd_append_cons (by decide), trimStart_eq_nil hpad,
      trimEnd_eq_nil hpad', List.nil_append]
  simp [Line.read, htrim, dropSuffix?]

theorem read_assignment (h : IsKey key) (value : List Char) :
    Line.read (key ++ '=' :: value) =
      .ok (.assignment (String.ofList (trim key)) (String.ofList (unquote (trim value)))) := by
  obtain ⟨hsign, hhead⟩ := h
  have hsign' : '=' ∉ trimStart key := fun hmem => hsign (List.dropWhile_subset _ hmem)
  have hsplit := splitOnce_append_cons hsign' (trimEnd value)
  rw [head?_trim] at hhead
  have hline : (trimStart key ++ '=' :: trimEnd value).head? ∉ [some '#', some ';', some '['] := by
    cases hkey : trimStart key with
    | nil => simp
    | cons c cs => simpa [hkey] using hhead
  rw [Line.read, trim_append_cons (by decide)]
  generalize trimStart key ++ '=' :: trimEnd value = line at hsplit hline
  split
  · cases hsplit
  · exact absurd hline (by simp)
  · exact absurd hline (by simp)
  · exact absurd hline (by simp)
  · simp only [hsplit, trim_trimStart, trim_trimEnd]

theorem not_isRemark_of_read {line : Line} (hread : Line.read raw = .ok line)
    (hline : line ≠ .blank) : ¬ IsRemark raw := by
  intro hremark
  rw [read_remark hremark] at hread
  cases hread
  exact hline rfl

/-- What is left of a line that is neither blank nor a remark nor meant as a header. -/
def IsPlain (cs : List Char) : Prop := cs.head? ∉ [none, some '#', some ';', some '[']

theorem isRemark_or_bracket_or_plain (raw : List Char) :
    IsRemark raw ∨ (∃ inner, trim raw = '[' :: inner) ∨ IsPlain (trim raw) := by
  obtain ⟨pad, pad', hpad, hpad', hraw⟩ := exists_blanks_trim raw
  cases hline : trim raw with
  | nil => exact .inl (.inl (isBlanks_of_trim_eq_nil hline))
  | cons c rest =>
    by_cases hmark : c = '#' ∨ c = ';'
    · refine .inl (.inr ⟨pad, c, rest ++ pad', hpad, hmark, ?_⟩)
      simpa [hline] using hraw
    by_cases hbracket : c = '['
    · exact .inr (.inl ⟨rest, by rw [hbracket]⟩)
    · refine .inr (.inr ?_)
      simp_all [IsPlain]

theorem read_of_bracket (h : trim raw = '[' :: inner) :
    Line.read raw = match dropSuffix? ']' inner with
      | some name => .ok (.header (String.ofList (lowered (trim name))))
      | none => .error (.unterminatedHeader (String.ofList (trim raw))) := by
  cases hdrop : dropSuffix? ']' inner <;> simp only [Line.read, h, hdrop]

theorem read_of_plain (h : IsPlain (trim raw)) :
    Line.read raw = match splitOnce '=' (trim raw) with
      | some (key, value) =>
        .ok (.assignment (String.ofList (trim key)) (String.ofList (unquote (trim value))))
      | none => .error (.noAssignment (String.ofList (trim raw))) := by
  rw [Line.read]
  generalize trim raw = line at h
  split <;> first | rfl | exact absurd h (by simp [IsPlain])

/-- What a line says, or why it says nothing. -/
inductive Says (raw : List Char) : Except LineFault Line → Prop
  | remark (h : IsRemark raw) : Says raw (.ok .blank)
  | header {inner : List Char} (hline : trim raw = '[' :: (inner ++ [']'])) :
    Says raw (.ok (.header (String.ofList (lowered (trim inner)))))
  | unterminatedHeader {inner : List Char} (hline : trim raw = '[' :: inner)
    (hend : inner.getLast? ≠ some ']') :
    Says raw (.error (.unterminatedHeader (String.ofList (trim raw))))
  | assignment {before after : List Char} (hplain : IsPlain (trim raw))
    (hline : trim raw = before ++ '=' :: after) (hsign : '=' ∉ before) :
    Says raw (.ok (.assignment (String.ofList (trim before))
      (String.ofList (unquote (trim after)))))
  | noAssignment (hplain : IsPlain (trim raw)) (hsign : '=' ∉ trim raw) :
    Says raw (.error (.noAssignment (String.ofList (trim raw))))

theorem says_read (raw : List Char) : Says raw (Line.read raw) := by
  obtain hremark | ⟨inner, hline⟩ | hplain := isRemark_or_bracket_or_plain raw
  · rw [read_remark hremark]
    exact .remark hremark
  · rw [read_of_bracket hline]
    split
    · rename_i front hfront
      rw [dropSuffix?_eq_some_iff.mp hfront] at hline
      exact .header hline
    · rename_i hnone
      exact .unterminatedHeader hline (dropSuffix?_eq_none_iff.mp hnone)
  · rw [read_of_plain hplain]
    split
    · rename_i before after hsplit
      obtain ⟨hline, hsign⟩ := splitOnce_eq_some_iff.mp hsplit
      exact .assignment hplain hline hsign
    · rename_i hnone
      exact .noAssignment hplain (splitOnce_eq_none_iff.mp hnone)

theorem read_eq_iff {result : Except LineFault Line} :
    Line.read raw = result ↔ Says raw result := by
  constructor
  · rintro rfl
    exact says_read raw
  · intro h
    cases h with
    | remark h => exact read_remark h
    | header hline => rw [read_of_bracket hline, dropSuffix?_eq_some_iff.mpr rfl]
    | unterminatedHeader hline hend =>
      rw [read_of_bracket hline, dropSuffix?_eq_none_iff.mpr hend]
    | assignment hplain hline hsign =>
      rw [read_of_plain hplain, splitOnce_eq_some_iff.mpr ⟨hline, hsign⟩]
    | noAssignment hplain hsign =>
      rw [read_of_plain hplain, splitOnce_eq_none_iff.mpr hsign]

theorem isRemark_iff : IsRemark raw ↔ Line.read raw = .ok .blank := by
  refine ⟨read_remark, fun hread => ?_⟩
  cases read_eq_iff.mp hread
  assumption

instance : Decidable (IsRemark raw) := decidable_of_iff _ isRemark_iff.symm

end NetworkTime.Config.Ini
