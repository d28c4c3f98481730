import NetworkTime.Proofs.Wire.Roundtrip

/-! What is written over the front of a buffer, by one writer or by several in a row. -/

namespace NetworkTime.Wire
variable {α : Type} {bytes buffer : Bytes} {w v : Writer Unit}

/-- A writer with its reader: values take `count` bytes. A buffer without room for them is told by
its length and stays as it is. In any other these bytes alone change, and the value is read off
them again. -/
structure Fills (count : Nat) (writer : α → Bytes → Except TooShort Nat × Bytes)
    (reader : Bytes → Except TooShort (α × Nat)) : Prop where
  of_short (x : α) {buffer : Bytes} (h : buffer.length < count) :
    writer x buffer = (.error ⟨count, buffer.length⟩, buffer)
  of_room (x : α) {buffer : Bytes} (h : count ≤ buffer.length) :
    ∃ written : Bytes, written.length = count ∧
      writer x buffer = (.ok count, written ++ buffer.drop count) ∧
      reader (written ++ buffer.drop count) = .ok (x, count)

section Layout
variable [Layout α]

theorem write_of_lt (x : α) (h : buffer.length < size α) :
    write x buffer = (.error ⟨size α, buffer.length⟩, buffer) :=
  if_pos h

theorem write_of_le (x : α) (h : size α ≤ buffer.length) :
    write x buffer = (.ok (size α), encode x ++ buffer.drop (size α)) :=
  if_neg (by omega)

variable [LawfulLayout α]

/-- Every lawful layout is written and read as it should be. -/
theorem fills_write : Fills (size α) write (read α) where
  of_short x _ h := write_of_lt x h
  of_room x _ h := ⟨encode x, length_encode x, write_of_le x h, read_encode_append x _⟩

end Layout

/-- The cursor behind bytes that were written over the front of a buffer. -/
def Cursor.behind (bytes buffer : Bytes) : Cursor :=
  ⟨bytes.length, bytes ++ buffer.drop bytes.length⟩

theorem Cursor.behind_nil (buffer : Bytes) : behind [] buffer = ⟨0, buffer⟩ := rfl

/-- The writer puts these bytes at the cursor wherever there is room for them. What stands before
and behind them stays. -/
def Emits (w : Writer Unit) (bytes : Bytes) : Prop :=
  ∀ before buffer : Bytes, before.length + bytes.length ≤ buffer.length →
    w (.behind before buffer) = (.ok (), .behind (before ++ bytes) buffer)

theorem emits_put [Layout α] [LawfulLayout α] (x : α) : Emits (put x) (encode x) := by
  intro before buffer h
  rw [length_encode] at h
  have hroom : size α ≤ (buffer.drop before.length).length := by
    rw [List.length_drop]
    omega
  have hrest : (before ++ buffer.drop before.length).drop before.length =
      buffer.drop before.length := List.drop_left
  have htake : (before ++ buffer.drop before.length).take before.length = before := List.take_left
  simp only [put, Cursor.behind, hrest, htake, write_of_le x hroom, List.drop_drop,
    List.length_append, length_encode, List.append_assoc]

/-- A writer that finds room hands the cursor on to the next. -/
theorem bind_of_ok {cursor after : Cursor} (h : w cursor = (.ok (), after)) :
    (w >>= fun _ => v) cursor = v after := by
  change (ExceptT.bindCont (fun _ => v) (w cursor).1 : StateM Cursor _) (w cursor).2 = v after
  rw [h]
  rfl

theorem Emits.bind {more : Bytes} (hw : Emits w bytes) (hv : Emits v more) :
    Emits (w >>= fun _ => v) (bytes ++ more) := by
  intro before buffer h
  rw [List.length_append] at h
  have hfirst := hw before buffer (by omega)
  have hnext := hv (before ++ bytes) buffer (by rw [List.length_append]; omega)
  rw [bind_of_ok hfirst, hnext, List.append_assoc]

end NetworkTime.Wire
