import NetworkTime.Network
import NetworkTime.Proofs.Address

/-! Networks hold the clients whose addresses begin with the same bits as their own. Nothing overflows
where this is found out. -/

namespace NetworkTime.Address
variable {a b c : Address} {length shorter : Nat}

/-- Addresses of one family that have the same bits at the front, up to a number of them. -/
def SharesPrefix (length : Nat) : Address → Address → Prop
  | v4 a, v4 b => ∀ i < length, a.getMsbD i = b.getMsbD i
  | v6 a, v6 b => ∀ i < length, a.getMsbD i = b.getMsbD i
  | _, _ => False

instance : Decidable (SharesPrefix length a b) :=
  match a, b with
  | v4 a, v4 b => inferInstanceAs (Decidable (∀ i < length, a.getMsbD i = b.getMsbD i))
  | v6 a, v6 b => inferInstanceAs (Decidable (∀ i < length, a.getMsbD i = b.getMsbD i))
  | v4 _, v6 _ => inferInstanceAs (Decidable False)
  | v6 _, v4 _ => inferInstanceAs (Decidable False)

theorem sharesPrefix_zero : SharesPrefix 0 a b ↔ a.isV6 = b.isV6 := by
  cases a <;> cases b <;> simp [SharesPrefix, isV6]

theorem SharesPrefix.symm (h : SharesPrefix length a b) : SharesPrefix length b a := by
  cases a <;> cases b <;> first | exact fun i hi => (h i hi).symm | exact h

theorem SharesPrefix.trans (h : SharesPrefix length a b) (h' : SharesPrefix length b c) :
    SharesPrefix length a c := by
  cases a <;> cases b <;> cases c <;>
    first | exact fun i hi => (h i hi).trans (h' i hi) | exact h.elim | exact h'.elim

theorem SharesPrefix.mono (h : SharesPrefix length a b) (hle : shorter ≤ length) :
    SharesPrefix shorter a b := by
  cases a <;> cases b <;> first | exact fun i hi => h i (Nat.lt_of_lt_of_le hi hle) | exact h

end NetworkTime.Address

namespace NetworkTime.Network
open Address
variable {a b : Address} {width length : Nat}

/-- Of the leading bits none is changed, and the others are cleared. -/
theorem getMsbD_leading (h : length ≤ width) (w : BitVec width) (i : Nat) :
    (leading length w).getMsbD i = (decide (i < length) && w.getMsbD i) := by
  by_cases hi : i < width
  · -- The shift leaves ones in front only.
    have hmask : (BitVec.allOnes width).getMsbD (i + (width - length)) = decide (i < length) := by
      rw [BitVec.getMsbD_allOnes]
      congr 1
      exact propext (by omega)
    rw [leading, BitVec.getMsbD_and, BitVec.getMsbD_shiftLeft, hmask, Bool.and_comm]
  · rw [BitVec.getMsbD_of_ge _ _ (by omega), BitVec.getMsbD_of_ge _ _ (by omega), Bool.and_false]

theorem leading_eq_iff (h : length ≤ width) {w v : BitVec width} :
    leading length w = leading length v ↔ ∀ i < length, w.getMsbD i = v.getMsbD i := by
  constructor
  · intro heq i hi
    have hbit := congrArg (BitVec.getMsbD · i) heq
    simpa [getMsbD_leading h, hi] using hbit
  · intro hbits
    apply BitVec.eq_of_getMsbD_eq
    intro i _
    rw [getMsbD_leading h, getMsbD_leading h]
    by_cases hi : i < length
    · rw [hbits i hi]
    · simp [hi]

/-- That a network of length 0 is a case of its own makes no difference. -/
theorem contains_iff (net : Network) (client : Address) :
    net.contains client = true ↔ net.address.SharesPrefix net.length client.unmapped := by
  obtain ⟨a, length, hlength⟩ := net
  unfold contains
  by_cases hzero : length = 0
  · subst hzero
    exact beq_iff_eq.trans sharesPrefix_zero.symm
  · rw [if_neg hzero]
    cases a with
    | v4 a =>
      cases client.unmapped with
      | v4 b => exact beq_iff_eq.trans (leading_eq_iff hlength)
      | v6 b => simp [SharesPrefix]
    | v6 a =>
      cases client.unmapped with
      | v4 b => simp [SharesPrefix]
      | v6 b => exact beq_iff_eq.trans (leading_eq_iff hlength)

/-- The mask of the leading bits, by two steps that may overflow: a difference, if the length is
beyond the word, and a shift, if it is by as many bits as the word has. -/
def mask? (width length : Nat) : Option (BitVec width) := do
  let count ← if length ≤ width then some (width - length) else none
  if count < width then some (BitVec.allOnes width <<< count) else none

/-- Whether a client belongs to the network of any length, if no step overflows. -/
def contains? (a : Address) (length : Nat) (client : Address) : Option Bool :=
  let client := client.unmapped
  if length = 0 then some (a.isV6 == client.isV6)
  else match a, client with
    | .v4 a, .v4 b => (mask? 32 length).map fun mask => a &&& mask == b &&& mask
    | .v6 a, .v6 b => (mask? 128 length).map fun mask => a &&& mask == b &&& mask
    | _, _ => some false

theorem mask?_eq_some (hpos : 0 < length) (hle : length ≤ width) :
    mask? width length = some (BitVec.allOnes width <<< (width - length)) := by
  have hlt : width - length < width := by omega
  simp [mask?, hle, hlt]

theorem mask?_eq_none (h : width < length) : mask? width length = none := by
  simp [mask?, Nat.not_le_of_lt h]

/-- The two steps are safe for every network. -/
theorem contains?_eq_some (net : Network) (client : Address) :
    contains? net.address net.length client = some (net.contains client) := by
  obtain ⟨a, length, hlength⟩ := net
  unfold contains? contains
  by_cases hzero : length = 0
  · rw [if_pos hzero, if_pos hzero]
  · have hpos : 0 < length := Nat.pos_of_ne_zero hzero
    rw [if_neg hzero, if_neg hzero]
    cases a with
    | v4 a =>
      have hmask : mask? 32 length = some _ := mask?_eq_some hpos hlength
      cases client.unmapped with
      | v4 b => exact congrArg (Option.map fun mask => a &&& mask == b &&& mask) hmask
      | v6 b => rfl
    | v6 a =>
      have hmask : mask? 128 length = some _ := mask?_eq_some hpos hlength
      cases client.unmapped with
      | v4 b => rfl
      | v6 b => exact congrArg (Option.map fun mask => a &&& mask == b &&& mask) hmask

/-- They are so because of the limit on the length, and not safe beyond it. -/
theorem contains?_eq_none_iff {client : Address} :
    contains? a length client = none ↔ a.width < length ∧ a.isV6 = client.unmapped.isV6 := by
  by_cases hle : length ≤ a.width
  · have hsome : contains? a length client = some _ := contains?_eq_some ⟨a, length, hle⟩ client
    simp [hsome, Nat.not_lt_of_le hle]
  · have hlt : a.width < length := Nat.lt_of_not_le hle
    unfold contains?
    rw [if_neg (Nat.ne_zero_of_lt hlt), and_iff_right hlt]
    cases a with
    | v4 a =>
      have hmask : mask? 32 length = none := mask?_eq_none hlt
      cases client.unmapped <;> simp [hmask, isV6]
    | v6 a =>
      have hmask : mask? 128 length = none := mask?_eq_none hlt
      cases client.unmapped <;> simp [hmask, isV6]

/-- A shorter prefix is shared by all who share a longer one. -/
theorem contains_ofLength {net : Network} {client : Address} {shorter : Nat}
    (hle : shorter ≤ net.length) (h : net.contains client = true) :
    (ofLength net.address shorter).contains client = true := by
  rw [contains_iff] at h ⊢
  exact h.mono (Nat.le_trans (Nat.min_le_left ..) hle)

theorem contains_eq_of_sharesPrefix {net other : Network} (hlength : other.length = net.length)
    (hshared : other.address.SharesPrefix net.length net.address) (client : Address) :
    other.contains client = net.contains client := by
  rw [Bool.eq_iff_iff, contains_iff, contains_iff, hlength]
  exact ⟨hshared.symm.trans, hshared.trans⟩

/-- The length of a network is one that its addresses have, so that no step of the arithmetic on
words overflows. The network holds a client if the two addresses are of one family and begin with
the same bits, an IPv4-mapped client being taken for the IPv4 client that it is. So a shorter
length keeps all clients, and the bits of the network's address after its length make no
difference. -/
theorem contains_iff_sharesPrefix (net : Network) (client : Address) :
    net.length ≤ net.address.width ∧
    contains? net.address net.length client = some (net.contains client) ∧
    (net.contains client = true ↔ net.address.SharesPrefix net.length client.unmapped) ∧
    (∀ shorter ≤ net.length, net.contains client = true →
      (ofLength net.address shorter).contains client = true) ∧
    ∀ other : Network, other.length = net.length →
      other.address.SharesPrefix net.length net.address →
      other.contains client = net.contains client := by
  refine ⟨net.length_le, contains?_eq_some net client, contains_iff net client, ?_, ?_⟩
  · intro shorter hle h
    exact contains_ofLength hle h
  · intro other hlength hshared
    exact contains_eq_of_sharesPrefix hlength hshared client

/-- The mapped client `::ffff:10.1.7.9` and the network `10.1.2.3/20`. -/
example : SharesPrefix 20 (.v4 0x0A010203#32) (.v4 0x0A010709#32) ∧
    (ofLength (.v4 0x0A010203#32) 20).contains (.mapped 0x0A010709#32) = true := by
  decide

end NetworkTime.Network
