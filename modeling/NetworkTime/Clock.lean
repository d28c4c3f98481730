import NetworkTime.Timestamp

/-! Clocks, which give a timestamp at every reading. -/

namespace NetworkTime

/-- A source of timestamps. A reading gives the time and the clock after it. -/
class Clock (κ : Type) where
  now : κ → Timestamp × κ

/-- A clock that moves by a fixed step at every reading, and not otherwise. It wraps at the end of
an era. -/
structure ManualClock where
  bits : UInt64 := 0
  step : UInt64 := 0
deriving DecidableEq, Repr, Inhabited

namespace ManualClock

/-- A clock that stands at a time, with steps in units of 2^-32 seconds. -/
def startingAt (t : Timestamp) (step : UInt64) : ManualClock := ⟨t.bits, step⟩

def set (c : ManualClock) (t : Timestamp) : ManualClock := { c with bits := t.bits }

instance : Clock ManualClock where
  now c := (.ofBits c.bits, { c with bits := c.bits + c.step })

end ManualClock
end NetworkTime
