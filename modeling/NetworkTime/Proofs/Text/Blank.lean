import Mathlib.Data.List.DropRight
import Mathlib.Data.List.TakeWhile
import NetworkTime.Text.Blank

/-! What trimming, splitting and lowering do to texts that are put together from parts. -/

namespace NetworkTime.Text
variable {c sep : Char} {cs pad before after : List Char} {parts : List (List Char)}

/-- A text of blanks. -/
def IsBlanks (cs : List Char) : Prop := ∀ c ∈ cs, isBlank c = true

theorem trimStart_append (h : IsBlanks pad) (cs : List Char) :
    trimStart (pad ++ cs) = trimStart cs :=
  List.dropWhile_append_of_pos h

theorem trimEnd_append (h : IsBlanks pad) (cs : List Char) : trimEnd (cs ++ pad) = trimEnd cs := by
  have hpad : ∀ c ∈ pad.reverse, isBlank c = true := fun c hc => h c (List.mem_reverse.mp hc)
  rw [trimEnd, List.reverse_append, List.dropWhile_append_of_pos hpad, trimEnd]

theorem trimStart_eq_nil (h : IsBlanks cs) : trimStart cs = [] :=
  List.dropWhile_eq_nil_iff.mpr h

theorem trimEnd_eq_nil (h : IsBlanks cs) : trimEnd cs = [] :=
  trimEnd_append h []

theorem trim_eq_nil (h : IsBlanks cs) : trim cs = [] := by
  rw [trim, trimStart_eq_nil h]
  rfl

theorem trimStart_append_cons (hc : isBlank c = false) (before after : List Char) :
    trimStart (before ++ c :: after) = trimStart before ++ c :: after := by
  rw [trimStart, List.dropWhile_append]
  split
  · rename_i hblank
    simp [trimStart, List.isEmpty_iff.mp hblank, hc]
  · rfl

theorem trimEnd_append_cons (hc : isBlank c = false) (before after : List Char) :
    trimEnd (before ++ c :: after) = before ++ c :: trimEnd after := by
  have hstart := trimStart_append_cons hc after.reverse before.reverse
  rw [trimStart, trimStart] at hstart
  simp [trimEnd, hstart]

/-- A character that is not blank keeps what is trimmed before it apart from what is trimmed after
it. -/
theorem trim_append_cons (hc : isBlank c = false) (before after : List Char) :
    trim (before ++ c :: after) = trimStart before ++ c :: trimEnd after := by
  rw [trim, trimStart_append_cons hc, trimEnd_append_cons hc]

theorem trim_trimStart (cs : List Char) : trim (trimStart cs) = trim cs := by
  rw [trim, trimStart, trimStart, List.dropWhile_idempotent]
  rfl

theorem head?_trim (cs : List Char) : (trim cs).head? = (trimStart cs).head? := by
  rw [trim]
  cases h : trimStart cs with
  | nil => rfl
  | cons c rest =>
    have hc : isBlank c = false := by
      have hhead := List.head?_dropWhile_not isBlank cs
      rw [← trimStart, h] at hhead
      simpa using hhead
    rw [← List.nil_append (c :: rest), trimEnd_append_cons hc]
    rfl

theorem exists_of_not_isBlanks (h : ¬ IsBlanks cs) :
    ∃ before c after, cs = before ++ c :: after ∧ isBlank c = false := by
  simp only [IsBlanks, not_forall, Bool.not_eq_true] at h
  obtain ⟨c, hc, hblank⟩ := h
  obtain ⟨before, after, rfl⟩ := List.append_of_mem hc
  exact ⟨before, c, after, rfl, hblank⟩

theorem trim_trimEnd (cs : List Char) : trim (trimEnd cs) = trim cs := by
  by_cases h : IsBlanks cs
  · rw [trimEnd_eq_nil h, trim_eq_nil h, trim_nil]
  · obtain ⟨before, c, after, rfl, hc⟩ := exists_of_not_isBlanks h
    have htwice : trimEnd (trimEnd after) = trimEnd after := List.rdropWhile_idempotent ..
    rw [trimEnd_append_cons hc, trim_append_cons hc, trim_append_cons hc, htwice]

theorem trim_append (h : IsBlanks pad) (cs : List Char) : trim (cs ++ pad) = trim cs := by
  rw [← trim_trimEnd, trimEnd_append h, trim_trimEnd]

theorem trim_pad {pad' : List Char} (h : IsBlanks pad) (h' : IsBlanks pad') (cs : List Char) :
    trim (pad ++ cs ++ pad') = trim cs := by
  rw [trim_append h', ← trim_trimStart, trimStart_append h, trim_trimStart]

theorem isBlanks_takeWhile (cs : List Char) : IsBlanks (cs.takeWhile isBlank) := fun _ hc =>
  List.mem_takeWhile_imp hc

/-- A text is what trimming leaves of it, between blanks. -/
theorem exists_blanks_trim (cs : List Char) :
    ∃ pad pad', IsBlanks pad ∧ IsBlanks pad' ∧ cs = pad ++ trim cs ++ pad' := by
  refine ⟨cs.takeWhile isBlank, ((trimStart cs).reverse.takeWhile isBlank).reverse,
    isBlanks_takeWhile cs, ?_, ?_⟩
  · intro c hc
    exact isBlanks_takeWhile _ c (List.mem_reverse.mp hc)
  · have hend : trim cs ++ ((trimStart cs).reverse.takeWhile isBlank).reverse = trimStart cs := by
      rw [trim, trimEnd, ← List.reverse_append, List.takeWhile_append_dropWhile,
        List.reverse_reverse]
    rw [List.append_assoc, hend, trimStart, List.takeWhile_append_dropWhile]

theorem isBlanks_of_trim_eq_nil (h : trim cs = []) : IsBlanks cs := by
  obtain ⟨pad, pad', hpad, hpad', hcs⟩ := exists_blanks_trim cs
  rw [hcs, h, List.append_nil]
  exact fun c hc => (List.mem_append.mp hc).elim (hpad c) (hpad' c)

theorem trim_eq_self (h : ∀ c ∈ cs, isBlank c = false) : trim cs = cs := by
  have hself {cs : List Char} (h : ∀ c ∈ cs, isBlank c = false) : cs.dropWhile isBlank = cs := by
    cases cs with
    | nil => rfl
    | cons c cs => rw [List.dropWhile_cons_of_neg (by simp [h c])]
  rw [trim, trimStart, hself h, trimEnd, hself fun c hc => h c (List.mem_reverse.mp hc),
    List.reverse_reverse]

theorem isBlank_toLower (c : Char) : isBlank c.toLower = isBlank c := by
  unfold Char.toLower
  split
  · rename_i h
    have hval : 65 ≤ c.toNat ∧ c.toNat ≤ 90 := by
      simpa [UInt32.le_iff_toNat_le] using h
    have hlow (d : Char) (hd : 65 ≤ d.toNat ∧ d.toNat ≤ 122) : isBlank d = false := by
      simp [isBlank]
      omega
    rw [hlow c (by omega), hlow]
    rw [← Char.toNat_val, UInt32.toNat_add, Char.toNat_val]
    simp only [UInt32.reduceSub, UInt32.reduceToNat, Char.reduceVal]
    omega
  · rfl

theorem trim_lowered (cs : List Char) : trim (lowered cs) = lowered (trim cs) := by
  have hcomp : isBlank ∘ Char.toLower = isBlank := funext isBlank_toLower
  simp [trim, trimStart, trimEnd, lowered, List.dropWhile_map, ← List.map_reverse, hcomp]

theorem splitOnce_append_cons (h : sep ∉ before) (after : List Char) :
    splitOnce sep (before ++ sep :: after) = some (before, after) := by
  induction before with
  | nil => simp [splitOnce]
  | cons c before ih =>
    obtain ⟨hc, hbefore⟩ := not_or.mp (mt List.mem_cons.mpr h)
    simp [splitOnce, Ne.symm hc, ih hbefore]

theorem splitOnce_eq_none (h : sep ∉ cs) : splitOnce sep cs = none := by
  induction cs with
  | nil => rfl
  | cons c cs ih =>
    obtain ⟨hc, hcs⟩ := not_or.mp (mt List.mem_cons.mpr h)
    simp [splitOnce, Ne.symm hc, ih hcs]

theorem splitOnce_eq_some_iff :
    splitOnce sep cs = some (before, after) ↔ cs = before ++ sep :: after ∧ sep ∉ before := by
  constructor
  · intro h
    have hmem : sep ∈ cs := by
      by_contra hnot
      rw [splitOnce_eq_none hnot] at h
      cases h
    obtain ⟨front, rest, rfl, hfront⟩ := List.eq_append_cons_of_mem hmem
    rw [splitOnce_append_cons hfront] at h
    cases h
    exact ⟨rfl, hfront⟩
  · rintro ⟨rfl, hbefore⟩
    exact splitOnce_append_cons hbefore after

theorem splitOnce_eq_none_iff : splitOnce sep cs = none ↔ sep ∉ cs := by
  constructor
  · intro h hmem
    obtain ⟨front, rest, rfl, hfront⟩ := List.eq_append_cons_of_mem hmem
    rw [splitOnce_append_cons hfront] at h
    cases h
  · exact splitOnce_eq_none

theorem splitOn_eq (sep : Char) (cs : List Char) : splitOn sep cs = cs.splitOn sep := by
  induction cs with
  | nil => rfl
  | cons c cs ih =>
    rw [splitOn, ih, List.splitOn_cons_eq_if_modifyHead]
    simp only [beq_iff_eq]
    split
    · rfl
    · cases h : cs.splitOn sep with
      | nil => exact absurd h (List.splitOn_ne_nil sep cs)
      | cons part parts => rfl

theorem splitOn_append_cons (h : sep ∉ before) (after : List Char) :
    splitOn sep (before ++ sep :: after) = before :: splitOn sep after := by
  induction before with
  | nil => simp [splitOn]
  | cons c before ih =>
    obtain ⟨hc, hbefore⟩ := not_or.mp (mt List.mem_cons.mpr h)
    simp [splitOn, Ne.symm hc, ih hbefore]

theorem splitOn_eq_singleton (h : sep ∉ cs) : splitOn sep cs = [cs] := by
  induction cs with
  | nil => rfl
  | cons c cs ih =>
    obtain ⟨hc, hcs⟩ := not_or.mp (mt List.mem_cons.mpr h)
    simp [splitOn, Ne.symm hc, ih hcs]

/-- Parts that each end in the separator are followed by an empty one. -/
theorem splitOn_flatMap (h : ∀ part ∈ parts, sep ∉ part) :
    splitOn sep (parts.flatMap (· ++ [sep])) = parts ++ [[]] := by
  induction parts with
  | nil => rfl
  | cons part parts ih =>
    obtain ⟨hpart, hparts⟩ := List.forall_mem_cons.mp h
    rw [List.flatMap_cons, List.append_assoc, List.singleton_append, splitOn_append_cons hpart,
      ih hparts, List.cons_append]

theorem splitOn_intercalate (h : ∀ part ∈ parts, sep ∉ part) (hne : parts ≠ []) :
    splitOn sep ([sep].intercalate parts) = parts := by
  rw [splitOn_eq, List.splitOn_intercalate sep h hne]

theorem notMem_intercalate (hc : c ≠ sep) (h : ∀ part ∈ parts, c ∉ part) :
    c ∉ [sep].intercalate parts := by
  induction parts with
  | nil => exact List.not_mem_nil
  | cons part parts ih =>
    obtain ⟨hpart, hparts⟩ := List.forall_mem_cons.mp h
    cases parts with
    | nil => simpa using hpart
    | cons next parts => simpa [List.intercalate_cons_cons, hpart, hc] using ih hparts

end NetworkTime.Text
