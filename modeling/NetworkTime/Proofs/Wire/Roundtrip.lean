import NetworkTime.Proofs.Positional
import NetworkTime.Wire.Layout

/-! Values of a fixed size survive the wire: what is written is read again, and what is read writes
the same bytes. -/

namespace NetworkTime.Wire
variable {α : Type} {bytes rest : Bytes}

theorem number_bigEndian (count n : Nat) : number (bigEndian count n) = n % 256 ^ count := by
  rw [number, bigEndian, List.map_map, ← Positional.value_digits]
  congr 1
  conv => rhs; rw [← List.map_id (Positional.digits 256 count n)]
  refine List.map_congr_left fun d hd => ?_
  have := Positional.lt_of_mem_digits (by decide) hd
  simpa using Nat.mod_eq_of_lt this

theorem bigEndian_number (bytes : Bytes) : bigEndian bytes.length (number bytes) = bytes := by
  have small : ∀ d ∈ bytes.map UInt8.toNat, d < 256 := by
    simp only [List.mem_map]
    rintro d ⟨b, _, rfl⟩
    exact b.toNat_lt
  have h := Positional.digits_value small
  rw [List.length_map] at h
  simp [bigEndian, number, h, Function.comp_def]

theorem number_append (bytes rest : Bytes) :
    number (bytes ++ rest) = number bytes * 256 ^ rest.length + number rest := by
  simp [number, Positional.value_append]

theorem number_lt (bytes : Bytes) : number bytes < 256 ^ bytes.length := by
  rw [← bigEndian_number bytes, number_bigEndian, length_bigEndian]
  exact Nat.mod_lt _ (Nat.pow_pos (by decide))

/-- Bytes are known by their count and their number. -/
theorem eq_bigEndian {count n : Nat} (hl : bytes.length = count) (hn : number bytes = n) :
    bytes = bigEndian count n := by
  rw [← hl, ← hn, bigEndian_number]

theorem number_take_bigEndian (count n : Nat) (rest : Bytes) :
    number ((bigEndian count n ++ rest).take count) = n % 256 ^ count := by
  rw [List.take_left' (length_bigEndian ..), number_bigEndian]

theorem bigEndian_number_take {count : Nat} (h : count ≤ bytes.length) :
    bigEndian count (number (bytes.take count)) = bytes.take count :=
  (eq_bigEndian (List.length_take_of_le h) rfl).symm

theorem number_take_lt (count : Nat) (bytes : Bytes) : number (bytes.take count) < 256 ^ count := by
  refine Nat.lt_of_lt_of_le (number_lt _) (Nat.pow_le_pow_right (by decide) ?_)
  exact List.length_take_le ..

/-- A layout that keeps its promises: values take as many bytes as it says, and neither writing nor
reading loses anything. -/
class LawfulLayout (α : Type) [Layout α] : Prop where
  length_encode (x : α) : (encode x).length = size α
  decode_encode_append (x : α) (rest : Bytes) : decode (encode x ++ rest) = x
  encode_decode {bytes : Bytes} (h : size α ≤ bytes.length) :
    encode (decode bytes : α) = bytes.take (size α)

export LawfulLayout (length_encode decode_encode_append encode_decode)
attribute [simp] length_encode decode_encode_append

namespace LawfulLayout

/-- Words that are written as their number. -/
theorem of_number [Layout α] {toNat : α → Nat} {ofNat : Nat → α}
    (hencode : ∀ x : α, encode x = bigEndian (size α) (toNat x))
    (hdecode : ∀ bytes, (decode bytes : α) = ofNat (number (bytes.take (size α))))
    (hlt : ∀ x, toNat x < 256 ^ size α) (hread : ∀ x, ofNat (toNat x) = x)
    (hwrite : ∀ n, n < 256 ^ size α → toNat (ofNat n) = n) : LawfulLayout α where
  length_encode x := by rw [hencode, length_bigEndian]
  decode_encode_append x rest := by
    rw [hdecode, hencode, number_take_bigEndian, Nat.mod_eq_of_lt (hlt x), hread]
  encode_decode {bytes} h := by
    rw [hdecode, hencode, hwrite _ (number_take_lt ..), bigEndian_number_take h]

end LawfulLayout

instance : LawfulLayout UInt8 where
  length_encode _ := rfl
  decode_encode_append _ _ := rfl
  encode_decode {bytes} h := by
    cases bytes with
    | nil => simp at h
    | cons b bytes => rfl

instance : LawfulLayout UInt16 :=
  .of_number (fun _ => rfl) (fun _ => rfl) UInt16.toNat_lt (fun _ => UInt16.ofNat_toNat)
    fun _ => UInt16.toNat_ofNat_of_lt'

instance : LawfulLayout UInt32 :=
  .of_number (fun _ => rfl) (fun _ => rfl) UInt32.toNat_lt (fun _ => UInt32.ofNat_toNat)
    fun _ => UInt32.toNat_ofNat_of_lt'

section Fields
variable [Layout α] [LawfulLayout α]

/-- A value is read off the bytes that it takes, and off no others. -/
theorem decode_eq_of_take_eq {other : Bytes} (hl : size α ≤ bytes.length)
    (hl' : size α ≤ other.length) (h : bytes.take (size α) = other.take (size α)) :
    (decode bytes : α) = decode other := by
  rw [← encode_decode hl, ← encode_decode hl'] at h
  rw [← decode_encode_append (decode bytes : α) [], h, decode_encode_append]

/-- A field is read behind the bytes that stand before it. -/
theorem decode_drop_append {before : Bytes} {place : Nat} (h : before.length = place) (x : α)
    (rest : Bytes) : decode ((before ++ (encode x ++ rest)).drop place) = x := by
  rw [List.drop_left' h, decode_encode_append]

/-- The bytes in front of a field and those that the field writes again. -/
theorem take_append_encode_decode {place : Nat} (h : place + size α ≤ bytes.length) :
    bytes.take place ++ encode (decode (bytes.drop place) : α) = bytes.take (place + size α) := by
  have hd : size α ≤ (bytes.drop place).length := by
    rw [List.length_drop]
    omega
  rw [encode_decode hd, ← List.take_add]

/-- Values of two fields that are written one after the other. -/
theorem LawfulLayout.of_fields {β : Type} [Layout β] {first : β → α} {second : β → α}
    {make : α → α → β} (hsize : size β = size α + size α)
    (hencode : ∀ x : β, encode x = encode (first x) ++ encode (second x))
    (hdecode : ∀ bytes, (decode bytes : β) = make (decode bytes) (decode (bytes.drop (size α))))
    (hread : ∀ x, make (first x) (second x) = x) (hfirst : ∀ u v, first (make u v) = u)
    (hsecond : ∀ u v, second (make u v) = v) : LawfulLayout β where
  length_encode x := by rw [hencode, List.length_append, length_encode, length_encode, hsize]
  decode_encode_append x rest := by
    rw [hdecode, hencode, List.append_assoc, decode_encode_append,
      decode_drop_append (length_encode _), hread]
  encode_decode {bytes} h := by
    rw [hsize] at h ⊢
    rw [hdecode, hencode, hfirst, hsecond, encode_decode (Nat.le_trans (Nat.le_add_right ..) h),
      take_append_encode_decode h]

end Fields

theorem read_eq_ok_of_le [Layout α] (h : size α ≤ bytes.length) :
    read α bytes = .ok (decode bytes, size α) :=
  if_neg (by omega)

theorem read_eq_error_of_lt [Layout α] (h : bytes.length < size α) :
    read α bytes = .error ⟨size α, bytes.length⟩ :=
  if_pos h

/-- A value that was written at the front of a buffer is read there. -/
theorem read_encode_append [Layout α] [LawfulLayout α] (x : α) (rest : Bytes) :
    read α (encode x ++ rest) = .ok (x, size α) := by
  have h : size α ≤ (encode x ++ rest).length := by simp
  rw [read_eq_ok_of_le h, decode_encode_append]

end NetworkTime.Wire
