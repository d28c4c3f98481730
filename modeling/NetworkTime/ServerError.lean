import NetworkTime.Packet.Validity

/-! Everything that goes wrong in a server: requests it does not answer, settings it does not start
with, and failures of the system below it. -/

namespace NetworkTime

/-- Why a datagram is no request. -/
inductive RequestFault
  | tooShort (received : Nat)
  | invalid (violations : List Violation)
  | unexpectedMode (mode : UInt8)
deriving DecidableEq, Repr

/-- Why a server does not start. -/
inductive SetupFault
  | invalidListenAddress (address detail : String)
  | invalidNetwork (network detail : String)
  | invalidStratum (stratum : UInt8)
  | invalidPoll (poll : Int8)
  | invalidPrecision (precision : Int8)
  | noWorkers
deriving DecidableEq, Repr

/-- A failure of the system: its kind and its wording. -/
structure SystemFailure where
  kind : String
  message : String
deriving DecidableEq, Repr

inductive ServerError
  | request (fault : RequestFault)
  | setup (fault : SetupFault)
  | system (failure : SystemFailure)
deriving DecidableEq, Repr

namespace RequestFault

def message : RequestFault → String
  | tooShort received => s!"NTP request too short ({received} bytes)"
  | invalid violations => Violation.summary violations
  | unexpectedMode mode => s!"unexpected request mode: {mode.toNat}"

/-- The wording of the cause behind the fault. -/
def cause? : RequestFault → Option String
  | invalid violations => some (Violation.summary violations)
  | _ => none

end RequestFault

namespace SetupFault

def message : SetupFault → String
  | invalidListenAddress address detail => s!"invalid listen address '{address}': {detail}"
  | invalidNetwork network detail => s!"invalid network '{network}': {detail}"
  | invalidStratum stratum => s!"stratum {stratum.toNat} out of range 1-15"
  | invalidPoll poll => s!"poll {poll.toInt} out of range 4-17"
  | invalidPrecision precision => s!"precision {precision.toInt} must not be positive"
  | noWorkers => "at least one worker is required"

end SetupFault

namespace ServerError

def message : ServerError → String
  | request fault => s!"NTP server protocol error: {fault.message}"
  | setup fault => s!"NTP server config error: {fault.message}"
  | system failure => failure.message

/-- The wording of the error inside. -/
def cause : ServerError → String
  | request fault => fault.message
  | setup fault => fault.message
  | system failure => failure.message

/-- The kind of failure that the error is to the system's callers. -/
def kind : ServerError → String
  | request _ => "InvalidData"
  | setup _ => "InvalidInput"
  | system failure => failure.kind

end ServerError
end NetworkTime
