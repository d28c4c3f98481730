/-! The rate at which one client is served: a count of requests in a window of time, and a shortest
gap between two that are served. Times are nanoseconds on a clock that runs on its own. -/

namespace NetworkTime

/-- How often a client is served. -/
structure RateLimit where
  /-- The requests that are served in one window. -/
  maxRequests : UInt32 := 20
  /-- The length of a window. -/
  window : Nat := 60000000000
  /-- The shortest gap between two requests that are served. -/
  minInterval : Nat := 2000000000
deriving DecidableEq, Repr, Inhabited

/-- What a request comes to. -/
inductive Verdict
  | allow
  | rateExceeded
deriving DecidableEq, Repr

/-- What is known of a client. -/
structure Client where
  lastAdmitted : Option Nat
  windowStart : Nat
  windowCount : UInt32
  lastSeen : Nat
deriving DecidableEq, Repr

namespace Client

/-- A client that has made no request before. -/
def new (now : Nat) : Client := ⟨none, now, 0, now⟩

/-- Whether the client was served less than the shortest gap ago. -/
def isTooSoon (c : Client) (now : Nat) (limit : RateLimit) : Bool :=
  c.lastAdmitted.any fun last => now - last < limit.minInterval

/-- Starts a new window once the old one is over. -/
def roll (c : Client) (now : Nat) (limit : RateLimit) : Client :=
  if limit.window < now - c.windowStart then { c with windowStart := now, windowCount := 0 } else c

/-- The next count, which stays at the largest there is. -/
def nextCount (count : UInt32) : UInt32 := if count = 4294967295 then count else count + 1

/-- Judges a request. One that comes too soon changes nothing; any other counts in its window,
served or not. -/
def judge (c : Client) (now : Nat) (limit : RateLimit) : Verdict × Client :=
  if c.isTooSoon now limit then (.rateExceeded, c)
  else
    let c := c.roll now limit
    let c := { c with windowCount := nextCount c.windowCount }
    if limit.maxRequests < c.windowCount then (.rateExceeded, c)
    else (.allow, { c with lastAdmitted := some now })

end Client
end NetworkTime
