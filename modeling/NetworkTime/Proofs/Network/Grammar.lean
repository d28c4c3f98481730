import NetworkTime.Config.Serving
import NetworkTime.Proofs.Address.Alphabet
import NetworkTime.Proofs.Address.Roundtrip
import NetworkTime.Proofs.Text.Blank

/-! The texts of networks, and the faults of all other texts. -/

namespace NetworkTime.Network
open Text
variable {text : String} {cs before after : List Char} {a : Address} {net : Network}

/-- The text of an address alone, which is a network of its full length, or of an address and a
length of its family, with a slash between them. -/
inductive Writes : List Char → Network → Prop
  | address {cs : List Char} {a : Address} (h : Address.Writes cs a) :
      Writes cs ⟨a, a.width, Nat.le_refl _⟩
  | length {cs ds : List Char} {a : Address} {n : Nat} (h : Address.Writes cs a)
      (hds : IsUnsigned 10 ds n) (hle : n ≤ a.width) : Writes (cs ++ '/' :: ds) ⟨a, n, hle⟩

theorem parse_of_no_slash (h : '/' ∉ trim cs) : parse cs =
    match Address.parse? (trim cs) with
    | none => .error .badAddress
    | some a => .ok (host a) := by
  rewrite [parse, splitOnce_eq_none h]
  rfl

theorem parse_of_slash (h : trim cs = before ++ '/' :: after) (hbefore : '/' ∉ before) :
    parse cs =
      match Address.parse? before with
      | none => .error .badAddress
      | some a =>
        match natural 10 255 after with
        | .error fault => .error (.badLength fault)
        | .ok length =>
          if hle : length ≤ a.width then .ok ⟨a, length, hle⟩
          else .error (.lengthBeyond length a.width) := by
  rewrite [parse, h, splitOnce_append_cons hbefore]
  rfl

theorem host_eq (a : Address) : host a = ⟨a, a.width, Nat.le_refl _⟩ := by
  simp [host, ofLength]

theorem width_le (a : Address) : a.width ≤ 255 := by
  cases a <;> simp [Address.width]

theorem parse_eq_ok_iff_of_no_slash (h : '/' ∉ trim cs) : parse cs = .ok net ↔
    ∃ a, Address.Writes (trim cs) a ∧ net = ⟨a, a.width, Nat.le_refl _⟩ := by
  rw [parse_of_no_slash h]
  simp only [← Address.parse?_eq_some_iff]
  cases Address.parse? (trim cs) with
  | none => simp
  | some a => simp [host_eq, eq_comm]

theorem parse_eq_ok_iff_of_slash (h : trim cs = before ++ '/' :: after) (hbefore : '/' ∉ before) :
    parse cs = .ok net ↔ ∃ a n, Address.Writes before a ∧ IsUnsigned 10 after n ∧
      ∃ hle : n ≤ a.width, net = ⟨a, n, hle⟩ := by
  rw [parse_of_slash h hbefore]
  simp only [← Address.parse?_eq_some_iff]
  cases Address.parse? before with
  | none => simp
  | some a =>
    have hlength {n : Nat} (hle : n ≤ a.width) :
        IsUnsigned 10 after n ↔ natural 10 255 after = .ok n := by
      rw [natural_eq_ok_iff (by decide), and_iff_left (Nat.le_trans hle (width_le a))]
    constructor
    · intro hnet
      cases hn : natural 10 255 after with
      | error fault => simp [hn] at hnet
      | ok n =>
        by_cases hle : n ≤ a.width
        · have heq : net = ⟨a, n, hle⟩ := by simpa [hn, hle, eq_comm] using hnet
          exact ⟨a, n, rfl, (hlength hle).mpr hn, hle, heq⟩
        · simp [hn, hle] at hnet
    · rintro ⟨_, n, ⟨⟩, hds, hle, rfl⟩
      rw [(hlength hle).mp hds]
      exact dif_pos hle

theorem parse_eq_ok_iff_writes : parse cs = .ok net ↔ Writes (trim cs) net := by
  constructor
  · intro h
    by_cases hslash : '/' ∈ trim cs
    · obtain ⟨before, after, hsplit, hbefore⟩ := List.eq_append_cons_of_mem hslash
      obtain ⟨a, n, ha, hds, hle, rfl⟩ := (parse_eq_ok_iff_of_slash hsplit hbefore).mp h
      rw [hsplit]
      exact .length ha hds hle
    · obtain ⟨a, ha, rfl⟩ := (parse_eq_ok_iff_of_no_slash hslash).mp h
      exact .address ha
  · intro h
    generalize htrim : trim cs = body at h
    cases h with
    | address ha =>
      have hslash : '/' ∉ trim cs := htrim ▸ ha.slash_notMem
      exact (parse_eq_ok_iff_of_no_slash hslash).mpr ⟨_, htrim ▸ ha, rfl⟩
    | length ha hds hle =>
      exact (parse_eq_ok_iff_of_slash htrim ha.slash_notMem).mpr ⟨_, _, ha, hds, hle, rfl⟩

theorem writes_print (net : Network) : Writes net.print net :=
  .length (Address.writes_print net.address)
    (.inl (isNumeral_toDigits (by decide) (by decide) net.length)) net.length_le

theorem Writes.isBlank_eq_false (h : Writes cs net) : ∀ c ∈ cs, isBlank c = false := by
  cases h with
  | address h => exact h.isBlank_eq_false
  | length h hds hle =>
    intro c hc
    rcases List.mem_append.mp hc with hc | hc
    · exact h.isBlank_eq_false c hc
    · rcases List.mem_cons.mp hc with rfl | hc
      · decide
      · exact hds.isBlank_eq_false c hc

/-- A text of a network, with blanks around it. -/
def Denotes (cs : List Char) (net : Network) : Prop :=
  ∃ pad body pad', IsBlanks pad ∧ IsBlanks pad' ∧ cs = pad ++ body ++ pad' ∧ Writes body net

theorem denotes_iff : Denotes cs net ↔ Writes (trim cs) net := by
  constructor
  · rintro ⟨pad, body, pad', hpad, hpad', rfl, h⟩
    rw [trim_pad hpad hpad', trim_eq_self h.isBlank_eq_false]
    exact h
  · intro h
    obtain ⟨pad, pad', hpad, hpad', hcs⟩ := exists_blanks_trim cs
    exact ⟨pad, trim cs, pad', hpad, hpad', hcs, h⟩

theorem parse_eq_ok_iff : parse cs = .ok net ↔ Denotes cs net := by
  rw [denotes_iff, parse_eq_ok_iff_writes]

/-- The network of a text, or the fault of the server that names it. -/
def ofText (text : String) : Except SetupFault Network :=
  (parse text.toList).mapError (Config.Problem.networkFault text)

theorem ofText_eq_ok_iff : ofText text = .ok net ↔ Denotes text.toList net := by
  rw [← parse_eq_ok_iff, ofText]
  cases parse text.toList <;> simp [Except.mapError]

theorem ofText_eq_error {fault : SetupFault} (h : ofText text = .error fault) :
    ∃ detail, fault = .invalidNetwork text detail := by
  unfold ofText at h
  cases hparse : parse text.toList with
  | error detail =>
    rw [hparse] at h
    cases h
    exact ⟨detail.message, rfl⟩
  | ok net =>
    rw [hparse] at h
    cases h

/-- A server takes the networks of its configuration from their texts in this way. -/
theorem withNetworks_cons (change : Plan → Network → Plan) (p : Plan) (texts : List String) :
    Config.withNetworks change p (text :: texts) =
      match ofText text with
      | .error fault => .error (.network fault)
      | .ok net => Config.withNetworks change (change p net) texts := by
  rw [Config.withNetworks, ofText]
  cases parse text.toList <;> rfl

/-- The problems of a configuration tell of the same faults. -/
theorem message_checkNetworks (list : String) (entries : List String) :
    (Config.checkNetworks list entries).map Config.Problem.message =
      entries.flatMap fun entry => match ofText entry with
        | .error fault => [s!"{list}: {fault.message}"]
        | .ok _ => [] := by
  rw [Config.checkNetworks, List.map_flatMap]
  congr 1
  funext entry
  rw [ofText]
  cases parse entry.toList <;> rfl

/-- A network is read from its own text. A text is that of a network if it is, but for blanks around
it, an address alone or an address, a slash and a length that the address has, in decimal digits and
perhaps with a plus sign. Every other text ends in a fault that names it as it stands. -/
theorem ofText_exact (net : Network) (text : String) :
    ofText net.text = .ok net ∧
    (ofText text = .ok net ↔ Denotes text.toList net) ∧
    ((∃ detail, ofText text = .error (.invalidNetwork text detail)) ↔
      ∀ net, ¬ Denotes text.toList net) := by
  refine ⟨?_, ofText_eq_ok_iff, ?_⟩
  · rw [ofText_eq_ok_iff, Network.text, String.toList_ofList]
    exact ⟨[], net.print, [], by simp [IsBlanks], by simp [IsBlanks], by simp, writes_print net⟩
  · simp only [← ofText_eq_ok_iff]
    constructor
    · rintro ⟨detail, h⟩ net hok
      rw [h] at hok
      cases hok
    · intro hnone
      cases h : ofText text with
      | error fault =>
        obtain ⟨detail, rfl⟩ := ofText_eq_error h
        exact ⟨detail, rfl⟩
      | ok net => exact absurd h (hnone net)

end NetworkTime.Network
