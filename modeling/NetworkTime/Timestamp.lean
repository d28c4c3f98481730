import NetworkTime.Wire.Layout

/-! Fixed-point times: timestamps with 32 bits on each side of the point, short times with 16. -/

namespace NetworkTime
open Wire

/-- Seconds since the start of an era and units of 2^-32 seconds. The first era starts with the year
1900, and a new one every 2^32 seconds. -/
structure Timestamp where
  seconds : UInt32 := 0
  fraction : UInt32 := 0
deriving DecidableEq, Repr, Inhabited, Ord

namespace Timestamp
variable {t : Timestamp}

/-- The timestamp that stands for no time at all. -/
def zero : Timestamp := {}

def isZero (t : Timestamp) : Bool := t == zero

/-- Both fields as one word, the seconds in the upper half. -/
def bits (t : Timestamp) : UInt64 := (t.seconds.toUInt64 <<< 32) ||| t.fraction.toUInt64

def ofBits (w : UInt64) : Timestamp := ⟨(w >>> 32).toUInt32, w.toUInt32⟩

instance : Layout Timestamp where
  size := size UInt32 + size UInt32
  encode t := encode t.seconds ++ encode t.fraction
  decode bytes := ⟨decode bytes, decode (bytes.drop 4)⟩

end Timestamp

/-- Seconds and units of 2^-16 seconds, for delays and dispersions. -/
structure ShortTime where
  seconds : UInt16 := 0
  fraction : UInt16 := 0
deriving DecidableEq, Repr, Inhabited, Ord

namespace ShortTime

def bits (t : ShortTime) : UInt32 := (t.seconds.toUInt32 <<< 16) ||| t.fraction.toUInt32

def ofBits (w : UInt32) : ShortTime := ⟨(w >>> 16).toUInt16, w.toUInt16⟩

/-- The nearest short time, halves away from zero. Below and above the range it is the first and the
last short time, and the first for what is no number. -/
def ofSeconds (seconds : Float) : ShortTime :=
  let units := (seconds * 65536).round
  ofBits (if units ≥ 4294967295 then 4294967295 else if units > 0 then units.toUInt32 else 0)

def toSeconds (t : ShortTime) : Float := t.seconds.toNat.toFloat + t.fraction.toNat.toFloat / 65536

instance : Layout ShortTime where
  size := size UInt16 + size UInt16
  encode t := encode t.seconds ++ encode t.fraction
  decode bytes := ⟨decode bytes, decode (bytes.drop 2)⟩

end ShortTime
end NetworkTime
