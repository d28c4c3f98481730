import NetworkTime.Positional

/-! Values of a fixed size on the wire: bytes in network order, reading at the front of a buffer and
writing over it, one value or several in a row. -/

namespace NetworkTime

abbrev Bytes := List UInt8

namespace Wire
variable {α : Type}

/-- The number that the bytes write, most significant byte first. -/
def number (bytes : Bytes) : Nat := Positional.value 256 (bytes.map UInt8.toNat)

/-- A number in `count` bytes, most significant byte first. -/
def bigEndian (count n : Nat) : Bytes := (Positional.digits 256 count n).map UInt8.ofNat

@[simp] theorem length_bigEndian (count n : Nat) : (bigEndian count n).length = count := by
  simp [bigEndian]

/-- A buffer with less room than a value takes. -/
structure TooShort where
  needed : Nat
  available : Nat
deriving DecidableEq, Repr

def TooShort.message (e : TooShort) : String :=
  s!"buffer too short: needed {e.needed} bytes, got {e.available}"

/-- How the values of a type stand on the wire. Decoding looks at the first `size` bytes only and is
meant for buffers that have as many. -/
class Layout (α : Type) where
  size : Nat
  encode : α → Bytes
  decode : Bytes → α

export Layout (encode decode)

/-- The count of bytes that a value of the type takes. -/
abbrev size (α : Type) [Layout α] : Nat := Layout.size α

/-- The value at the front of a buffer, and the count of bytes it takes there. -/
def read (α : Type) [Layout α] (bytes : Bytes) : Except TooShort (α × Nat) :=
  if bytes.length < size α then .error ⟨size α, bytes.length⟩
  else .ok (decode bytes, size α)

/-- Writes a value over the front of a buffer. The second part is the buffer afterwards, which is
the buffer before if there is no room. -/
def write [Layout α] (x : α) (buffer : Bytes) : Except TooShort Nat × Bytes :=
  if buffer.length < size α then (.error ⟨size α, buffer.length⟩, buffer)
  else (.ok (size α), encode x ++ buffer.drop (size α))

/-- A buffer that is written from its front on, and the place reached in it. -/
structure Cursor where
  place : Nat
  buffer : Bytes
deriving DecidableEq, Repr

/-- Writing at a cursor. What has been written stays there if a later value finds no room. -/
abbrev Writer := ExceptT TooShort (StateM Cursor)

/-- Writes a value at the cursor and moves behind it. -/
def put [Layout α] (x : α) : Writer Unit := fun cursor =>
  let (result, rest) := write x (cursor.buffer.drop cursor.place)
  let buffer := cursor.buffer.take cursor.place ++ rest
  match result with
  | .ok count => (.ok (), ⟨cursor.place + count, buffer⟩)
  | .error short => (.error short, ⟨cursor.place, buffer⟩)

instance : Layout UInt8 where
  size := 1
  encode x := [x]
  decode bytes := bytes.headD 0

instance : Layout UInt16 where
  size := 2
  encode x := bigEndian 2 x.toNat
  decode bytes := UInt16.ofNat (number (bytes.take 2))

instance : Layout UInt32 where
  size := 4
  encode x := bigEndian 4 x.toNat
  decode bytes := UInt32.ofNat (number (bytes.take 4))

end Wire
end NetworkTime
