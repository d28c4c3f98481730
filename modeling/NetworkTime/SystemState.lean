import NetworkTime.Packet
import NetworkTime.ServerError

/-! What a server says about itself in every answer. -/

namespace NetworkTime

structure SystemState where
  leap : Leap := .none
  stratum : UInt8 := 2
  poll : Int8 := 4
  precision : Int8 := -6
  rootDelay : ShortTime := {}
  rootDispersion : ShortTime := {}
  referenceId : ReferenceId := .ofText "LOCL"
deriving DecidableEq, Repr

namespace SystemState

instance : Inhabited SystemState := ⟨{}⟩

/-- The usual state with this stratum and the first four bytes of a name. -/
def named (stratum : UInt8) (reference : String) : SystemState :=
  { stratum, referenceId := .ofText reference }

/-- The first reason for which the state cannot be sent. -/
def fault? (s : SystemState) : Option SetupFault :=
  if !Stratum.isServer s.stratum then some (.invalidStratum s.stratum)
  else if !Poll.isAllowed s.poll then some (.invalidPoll s.poll)
  else if 0 < s.precision then some (.invalidPrecision s.precision)
  else none

end SystemState
end NetworkTime
