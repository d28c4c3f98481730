import Mathlib.Data.Finset.Insert
import Mathlib.Data.List.Forall2
import Mathlib.Data.List.Induction
import NetworkTime.Proofs.Config.Assign

/-! What a text gives, whatever its format: the values of some settings, which stand in their
sections in any order. -/

namespace NetworkTime.Config
variable {c : Config} {s : Setting}

/-- Some settings taken over from one configuration into another. -/
def copy (c : Config) (settings : List Setting) (d : Config) : Config :=
  settings.foldl (fun d s => d.set s (c.get s)) d

theorem get_copy_of_mem {settings : List Setting} (hs : s ∈ settings) (d : Config) :
    (c.copy settings d).get s = c.get s := by
  induction settings using List.reverseRecOn with
  | nil => cases hs
  | append_singleton settings last ih =>
    rw [copy, List.foldl_append, List.foldl_cons, List.foldl_nil, ← copy]
    by_cases hlast : s = last
    · rw [hlast, get_set_same]
    · rw [get_set_of_ne _ _ hlast]
      exact ih (by simpa [hlast] using hs)

theorem get_copy_of_notMem {settings : List Setting} (hs : s ∉ settings) (d : Config) :
    (c.copy settings d).get s = d.get s := by
  induction settings generalizing d with
  | nil => rfl
  | cons first settings ih =>
    obtain ⟨hfirst, hs⟩ := not_or.mp (mt List.mem_cons.mpr hs)
    rw [copy, List.foldl_cons, ← copy, ih hs, get_set_of_ne _ _ hfirst]

theorem copy_all (c d : Config) : c.copy (Section.all.flatMap Section.settings) d = c :=
  ext_get fun s => get_copy_of_mem (List.mem_flatMap.mpr s.exists_section) d

theorem copy_flatMap {α : Type} (f : α → List Setting) (parts : List α) (d : Config) :
    c.copy (parts.flatMap f) d = parts.foldl (fun d part => c.copy (f part) d) d :=
  List.foldl_flatMap

/-- The names of the values of a kind that has such. -/
def Kind.names : (k : Kind) → List (String × k.Value)
  | .leap => leapNames
  | .level => levelNames
  | .destination => destinationNames
  | _ => []

theorem Setting.name_injective : Function.Injective Setting.name := fun s s' h =>
  eq_of_hasKey (hasKey_iff.mpr s.name_mem_keys) (hasKey_iff.mpr (h ▸ s'.name_mem_keys))

theorem Section.name_injective : Function.Injective Section.name := by
  intro sec sec' h
  have hnamed := sec.named?_name
  rw [h, sec'.named?_name] at hnamed
  cases hnamed
  rfl

/-- An order of some sections, each with some of its settings in an order of their own. -/
structure Layout (settings : Finset Setting) where
  parts : List (Section × List Setting)
  nodup : (parts.map Prod.fst).Nodup
  nodup_part : ∀ part ∈ parts, part.2.Nodup
  subset : ∀ part ∈ parts, part.2 ⊆ part.1.settings
  mem_iff : ∀ s, s ∈ settings ↔ ∃ part ∈ parts, s ∈ part.2

namespace Layout
variable {settings : Finset Setting}

/-- The settings one after the other. -/
def flat (l : Layout settings) : List Setting := l.parts.flatMap Prod.snd

theorem mem_flat (l : Layout settings) : s ∈ l.flat ↔ s ∈ settings := by
  rw [flat, List.mem_flatMap, l.mem_iff]

/-- A layout of all sections in the order in which they are declared. -/
def declared (settings : Finset Setting) : Layout settings where
  parts := Section.all.map fun sec => (sec, sec.settings.filter (· ∈ settings))
  nodup := (by decide : Section.all.Nodup)
  nodup_part := by
    intro part hpart
    obtain ⟨sec, -, rfl⟩ := List.mem_map.mp hpart
    have hnodup : sec.settings.Nodup := by cases sec <;> decide
    exact hnodup.filter _
  subset := by
    intro part hpart
    obtain ⟨sec, -, rfl⟩ := List.mem_map.mp hpart
    exact List.filter_subset_self _
  mem_iff := by
    intro s
    obtain ⟨sec, hsec, hs⟩ := s.exists_section
    constructor
    · intro hmem
      exact ⟨_, List.mem_map_of_mem hsec, List.mem_filter.mpr ⟨hs, decide_eq_true hmem⟩⟩
    · rintro ⟨part, hpart, hmem⟩
      obtain ⟨sec, -, rfl⟩ := List.mem_map.mp hpart
      exact of_decide_eq_true (List.mem_filter.mp hmem).2

theorem get_copy_flat (l : Layout settings) (c d : Config) (s : Setting) :
    (c.copy l.flat d).get s = if s ∈ settings then c.get s else d.get s := by
  split
  · exact get_copy_of_mem (l.mem_flat.mpr ‹_›) d
  · exact get_copy_of_notMem (mt l.mem_flat.mp ‹_›) d

/-- The order makes no difference. -/
theorem copy_flat_eq (l l' : Layout settings) (c d : Config) :
    c.copy l.flat d = c.copy l'.flat d :=
  ext_get fun s => by rw [get_copy_flat, get_copy_flat]

end Layout

end NetworkTime.Config
