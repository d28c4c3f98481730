import NetworkTime.Instant

/-! Clock offset and round-trip delay from the four times of an exchange. Differences of timestamps
wrap, so an exchange may straddle the end of an era; sums are taken in whole nanoseconds. -/

namespace NetworkTime

/-- When a request left the client, reached the server, when the answer left and came back. -/
structure Exchange where
  sent : Timestamp
  received : Timestamp
  answered : Timestamp
  returned : Timestamp
deriving DecidableEq, Repr

namespace Exchange

/-- The signed nanoseconds from one timestamp to another that is less than half an era away. -/
def nanosBetween (earlier later : Timestamp) : Int64 :=
  let units := (later.bits - earlier.bits).toInt64
  Int64.ofInt (units.toInt * nanosPerSecond / UInt32.size)

/-- The time on the way, out and back, in nanoseconds. -/
def delayNanos (e : Exchange) : Int64 :=
  nanosBetween e.sent e.returned - nanosBetween e.received e.answered

/-- How far the server's clock is ahead of the client's, in nanoseconds. -/
def offsetNanos (e : Exchange) : Int64 :=
  (nanosBetween e.sent e.received + nanosBetween e.returned e.answered) / 2

def toSeconds (nanos : Int64) : Float := nanos.toFloat / 1e9

def delay (e : Exchange) : Float := toSeconds e.delayNanos

def offset (e : Exchange) : Float := toSeconds e.offsetNanos

end Exchange
end NetworkTime
