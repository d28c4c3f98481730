import NetworkTime.Timestamp

/-! Moments as signed seconds and nanoseconds from the start of 1970, and their timestamps. -/

namespace NetworkTime

/-- A signed time since 1970. Before 1970 both parts are negative or zero. -/
structure Instant where
  seconds : Int64
  nanos : Int32
deriving DecidableEq, Repr, Inhabited, Ord

/-- The nanoseconds in a second. -/
abbrev nanosPerSecond : Nat := 1000000000

/-- The seconds from the start of 1900 to the start of 1970. -/
abbrev epochDelta : Int := 2208988800

/-- The seconds in an era. -/
abbrev eraSeconds : Int := 4294967296

namespace Instant

/-- Two parts that lie on different sides of 1970. -/
inductive SignConflict
  | negativeNanos
  | positiveNanos
deriving DecidableEq, Repr

def SignConflict.message : SignConflict → String
  | negativeNanos => "invalid instant: secs was positive but subsec_nanos was negative"
  | positiveNanos => "invalid instant: secs was negative but subsec_nanos was positive"

/-- The instant with these two parts, which must not have opposite signs. -/
def ofParts (seconds : Int64) (nanos : Int32) : Except SignConflict Instant :=
  if 0 < seconds ∧ nanos < 0 then .error .negativeNanos
  else if seconds < 0 ∧ 0 < nanos then .error .positiveNanos
  else .ok ⟨seconds, nanos⟩

/-- The instant at a count of nanoseconds. Seconds beyond 64 bits lose their high bits. -/
def ofTotalNanos (n : Int) : Instant :=
  ⟨Int64.ofInt (n.tdiv nanosPerSecond), Int32.ofInt (n.tmod nanosPerSecond)⟩

def totalNanos (i : Instant) : Int := i.seconds.toInt * nanosPerSecond + i.nanos.toInt

/-- The signed nanoseconds from `earlier` to `i`. -/
def nanosSince (i earlier : Instant) : Int := i.totalNanos - earlier.totalNanos

/-- Why no instant lies a duration away from 1970. -/
inductive DurationFault
  /-- The duration itself has too many seconds. -/
  | tooLong
  | tooLate
  | tooEarly
deriving DecidableEq, Repr

def DurationFault.message : DurationFault → String
  | tooLong => "overflow in Duration::new"
  | tooLate => "overflow when adding duration to instant"
  | tooEarly => "overflow when subtracting duration from instant"

/-- The instant that lies a duration after 1970, or before it. The nanoseconds may make up whole
seconds. -/
def ofDuration (seconds : UInt64) (nanos : UInt32) (before : Bool) :
    Except DurationFault Instant :=
  let s := seconds.toNat + nanos.toNat / nanosPerSecond
  let n := nanos.toNat % nanosPerSecond
  if UInt64.size ≤ s then .error .tooLong
  else if before then
    if 0x8000000000000000 * nanosPerSecond < s * nanosPerSecond + n then .error .tooEarly
    else .ok ⟨Int64.ofInt (-s), Int32.ofInt (-n)⟩
  else if 0x8000000000000000 ≤ s then .error .tooLate
  else .ok ⟨Int64.ofNat s, Int32.ofNat n⟩

end Instant

namespace Timestamp

/-- Units of 2^-32 seconds for nanoseconds below a second, to the nearest. Can be a whole second. -/
def fractionOfNanos (nanos : UInt64) : UInt64 := ((nanos <<< 32) + 500000000) / 1000000000

/-- Whole nanoseconds in units of 2^-32 seconds. -/
def nanosOfFraction (fraction : UInt32) : Nat := fraction.toNat * nanosPerSecond / UInt32.size

/-- The timestamp nearest to an instant. Its era is lost. -/
def ofInstant (i : Instant) : Timestamp :=
  let borrow : Bool := i.nanos < 0
  let seconds : Int := i.seconds.toInt + epochDelta - (if borrow then 1 else 0)
  let nanos : Int64 := i.nanos.toInt64 + (if borrow then 1000000000 else 0)
  let fraction := fractionOfNanos nanos.toUInt64
  let carry : Bool := 4294967295 < fraction
  { seconds := UInt32.ofNat ((seconds + if carry then 1 else 0) % eraSeconds).toNat
    fraction := if carry then 0 else fraction.toUInt32 }

/-- The instant at a count of seconds since 1900 and a fraction, to the nanosecond below. -/
def instantAt (seconds : Int) (fraction : UInt32) : Instant :=
  .ofTotalNanos ((seconds - epochDelta) * nanosPerSecond + nanosOfFraction fraction)

/-- The instant of a timestamp of the first era. -/
def toInstant (t : Timestamp) : Instant := instantAt t.seconds.toNat t.fraction

/-- Seconds since 1900 that agree with the seconds of a timestamp up to whole eras, no more than
half an era away from the pivot. -/
def secondsNear (seconds : UInt32) (pivot : Instant) : Int :=
  let now := pivot.seconds.toInt + epochDelta
  let candidate := now / eraSeconds * eraSeconds + seconds.toNat
  if eraSeconds / 2 < candidate - now then candidate - eraSeconds
  else if candidate - now < -(eraSeconds / 2) then candidate + eraSeconds
  else candidate

/-- The instant of a timestamp in the era that puts it nearest to the pivot. -/
def toInstantNear (t : Timestamp) (pivot : Instant) : Instant :=
  instantAt (secondsNear t.seconds pivot) t.fraction

end Timestamp
end NetworkTime
