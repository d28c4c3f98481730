import NetworkTime.Access
import NetworkTime.Proofs.Address

/-! When a client is turned away by the lists of networks, what a change to the lists does, and which
clients are one to them. -/

namespace NetworkTime.Network
variable {client client' : Address}

/-- A client belongs to a network by its host. -/
theorem contains_of_sameHost (h : client.SameHost client') (net : Network) :
    net.contains client = net.contains client' := by
  simp only [contains, show client.unmapped = client'.unmapped from h]

end NetworkTime.Network

namespace NetworkTime.AccessControl
variable {control control' : AccessControl} {client client' : Address} {net : Network}
  {before after : List Network}

/-- Networks are listed that are not served, and one of them holds the client. -/
def Denies (control : AccessControl) (client : Address) : Prop :=
  ∃ nets, control.deny = some nets ∧ ∃ net ∈ nets, net.contains client = true

/-- Networks are listed that are served, and none of them holds the client. -/
def Excludes (control : AccessControl) (client : Address) : Prop :=
  ∃ nets, control.allow = some nets ∧ ∀ net ∈ nets, net.contains client = false

theorem deny_any_iff :
    control.deny.any (·.any (·.contains client)) = true ↔ control.Denies client := by
  cases hd : control.deny <;> simp [Denies, hd]

theorem allow_all_iff :
    control.allow.all (·.any (·.contains client)) = true ↔ ¬ control.Excludes client := by
  cases ha : control.allow <;> simp [Excludes, ha]

theorem check_of_denies (h : control.Denies client) : control.check client = .deny := by
  rw [check, if_pos (deny_any_iff.mpr h)]

theorem check_of_excludes (hd : ¬ control.Denies client) (he : control.Excludes client) :
    control.check client = .restrict := by
  have hall : ¬ control.allow.all (·.any (·.contains client)) = true := by
    rw [allow_all_iff]
    exact fun hn => hn he
  rw [check, if_neg (mt deny_any_iff.mp hd), if_neg hall]

theorem check_of_admits (hd : ¬ control.Denies client) (he : ¬ control.Excludes client) :
    control.check client = .allow := by
  rw [check, if_neg (mt deny_any_iff.mp hd), if_pos (allow_all_iff.mpr he)]

/-- What a client may do tells which lists hold it. -/
theorem check_iff (control : AccessControl) (client : Address) :
    (control.check client = .deny ↔ control.Denies client) ∧
    (control.check client = .restrict ↔ ¬ control.Denies client ∧ control.Excludes client) ∧
    (control.check client = .allow ↔ ¬ control.Denies client ∧ ¬ control.Excludes client) := by
  by_cases hd : control.Denies client
  · simp [check_of_denies hd, hd]
  · by_cases he : control.Excludes client
    · simp [check_of_excludes hd he, hd, he]
    · simp [check_of_admits hd he, hd, he]

theorem check_congr (hd : control.Denies client ↔ control'.Denies client')
    (he : control.Excludes client ↔ control'.Excludes client') :
    control.check client = control'.check client' := by
  by_cases hdenies : control.Denies client
  · rw [check_of_denies hdenies, check_of_denies (hd.mp hdenies)]
  · have hdenies' := mt hd.mpr hdenies
    by_cases hexcludes : control.Excludes client
    · rw [check_of_excludes hdenies hexcludes, check_of_excludes hdenies' (he.mp hexcludes)]
    · rw [check_of_admits hdenies hexcludes, check_of_admits hdenies' (mt he.mpr hexcludes)]

/-- Lists that have the same entries, in any order and each of them any number of times. Where one is
no list, so is the other. -/
def SameEntries (list list' : Option (List Network)) : Prop :=
  Option.Rel (fun nets nets' => ∀ net, net ∈ nets ↔ net ∈ nets') list list'

theorem denies_congr (h : SameEntries control.deny control'.deny) :
    control.Denies client ↔ control'.Denies client := by
  unfold Denies
  generalize control.deny = deny, control'.deny = deny' at h
  cases h with
  | some h => simp [h]
  | none => simp

theorem excludes_congr (h : SameEntries control.allow control'.allow) :
    control.Excludes client ↔ control'.Excludes client := by
  unfold Excludes
  generalize control.allow = allow, control'.allow = allow' at h
  cases h with
  | some h => simp [h]
  | none => simp

/-- A list that denies nobody is as good as none. -/
theorem denies_iff :
    control.Denies client ↔ ∃ net ∈ control.deny.getD [], net.contains client = true := by
  cases hd : control.deny <;> simp [Denies, hd]

theorem denies_insert_iff (h : control.deny.getD [] = before ++ after) :
    { control with deny := some (before ++ net :: after) }.Denies client ↔
      net.contains client = true ∨ control.Denies client := by
  simp only [denies_iff, h, Option.getD_some, List.mem_append, List.mem_cons]
  grind

theorem excludes_insert_iff (h : control.allow = some (before ++ after)) :
    { control with allow := some (before ++ net :: after) }.Excludes client ↔
      net.contains client = false ∧ control.Excludes client := by
  simp only [Excludes, h, Option.some.injEq, exists_eq_left', List.mem_append, List.mem_cons]
  grind

theorem check_deny_insert (h : control.deny.getD [] = before ++ after) :
    { control with deny := some (before ++ net :: after) }.check client =
      if net.contains client then .deny else control.check client := by
  split
  · rename_i hnet
    exact check_of_denies ((denies_insert_iff h).mpr (.inl hnet))
  · rename_i hnet
    refine check_congr ?_ Iff.rfl
    rw [denies_insert_iff h, or_iff_right hnet]

theorem check_allow_insert (h : control.allow = some (before ++ after))
    (hallow : control.check client = .allow) :
    { control with allow := some (before ++ net :: after) }.check client = .allow := by
  obtain ⟨hdenies, hexcludes⟩ := (check_iff control client).2.2.mp hallow
  refine check_of_admits hdenies fun hexcludes' => ?_
  exact hexcludes ((excludes_insert_iff h).mp hexcludes').2

theorem check_of_sameHost (h : client.SameHost client') (control : AccessControl) :
    control.check client = control.check client' := by
  apply check_congr
  · simp only [Denies, Network.contains_of_sameHost h]
  · simp only [Excludes, Network.contains_of_sameHost h]

/-- The lists count as sets, and what is denied comes first. A client is denied if one of the
networks not served holds it, and otherwise restricted if networks are listed that are served, be it
none at all, and none of them holds it. Neither the order nor the repetition of entries matters. One
network more among those not served lets in nobody and concerns only the clients in it; one more
among those listed as served keeps out nobody. An IPv4-mapped client is treated as the IPv4 client
that it is. -/
theorem check_by_entries (control : AccessControl) (client : Address) :
    ((control.check client = .deny ↔ control.Denies client) ∧
      (control.check client = .restrict ↔ ¬ control.Denies client ∧ control.Excludes client) ∧
      (control.check client = .allow ↔ ¬ control.Denies client ∧ ¬ control.Excludes client)) ∧
    (∀ control' : AccessControl, SameEntries control.allow control'.allow →
      SameEntries control.deny control'.deny →
      control.check client = control'.check client) ∧
    (∀ net before after, control.deny.getD [] = before ++ after →
      let stricter := { control with deny := some (before ++ net :: after) }
      (control.check client ≠ .allow → stricter.check client ≠ .allow) ∧
      (net.contains client = false → stricter.check client = control.check client)) ∧
    (∀ net before after, control.allow = some (before ++ after) →
      control.check client = .allow →
      { control with allow := some (before ++ net :: after) }.check client = .allow) ∧
    ∀ inner, control.check (.mapped inner) = control.check (.v4 inner) := by
  refine ⟨check_iff control client, ?_, ?_, ?_, ?_⟩
  · intro control' hallow hdeny
    exact check_congr (denies_congr hdeny) (excludes_congr hallow)
  · intro net before after h stricter
    have hcheck : stricter.check client = _ := check_deny_insert h
    rw [hcheck]
    constructor
    · intro hrefused
      split
      · simp
      · exact hrefused
    · intro hoff
      simp [hoff]
  · intro net before after h hallow
    exact check_allow_insert h hallow
  · intro inner
    have hsame : (Address.mapped inner).SameHost (.v4 inner) := Address.unmapped_mapped inner
    exact check_of_sameHost hsame control

/-- An empty list of networks that are served is not the same as none. -/
example : (AccessControl.mk (some []) none).check (.v4 0#32) = .restrict ∧
    (AccessControl.mk none none).check (.v4 0#32) = .allow := by
  decide

end NetworkTime.AccessControl
