import NetworkTime.ReferenceId

/-! What a server has done, in counters that wrap at 64 bits. -/

namespace NetworkTime

/-- Why a datagram is not answered. -/
inductive DropReason
  | tooShort
  | invalid
  | notClientRequest
deriving DecidableEq, Repr

/-- The name of a reason in the log. -/
def DropReason.name : DropReason → String
  | tooShort => "TooShort"
  | invalid => "Invalid"
  | notClientRequest => "NotClientRequest"

structure Metrics where
  requestsReceived : UInt64 := 0
  responsesSent : UInt64 := 0
  requestsDropped : UInt64 := 0
  droppedTooShort : UInt64 := 0
  droppedInvalid : UInt64 := 0
  droppedNotClient : UInt64 := 0
  kissDenySent : UInt64 := 0
  kissRestrictSent : UInt64 := 0
  kissRateSent : UInt64 := 0
  bytesReceived : UInt64 := 0
  bytesSent : UInt64 := 0
  sendErrors : UInt64 := 0
  activeClients : UInt64 := 0
deriving DecidableEq, Repr, Inhabited

namespace Metrics

def countRequest (m : Metrics) : Metrics := { m with requestsReceived := m.requestsReceived + 1 }

def countResponse (m : Metrics) (bytes : Nat) : Metrics :=
  { m with
    responsesSent := m.responsesSent + 1
    bytesSent := m.bytesSent + UInt64.ofNat bytes }

def countBytesReceived (m : Metrics) (bytes : Nat) : Metrics :=
  { m with bytesReceived := m.bytesReceived + UInt64.ofNat bytes }

def countSendError (m : Metrics) : Metrics := { m with sendErrors := m.sendErrors + 1 }

def countDrop (m : Metrics) (reason : DropReason) : Metrics :=
  let m := { m with requestsDropped := m.requestsDropped + 1 }
  match reason with
  | .tooShort => { m with droppedTooShort := m.droppedTooShort + 1 }
  | .invalid => { m with droppedInvalid := m.droppedInvalid + 1 }
  | .notClientRequest => { m with droppedNotClient := m.droppedNotClient + 1 }

def countKiss (m : Metrics) : Kiss → Metrics
  | .deny => { m with kissDenySent := m.kissDenySent + 1 }
  | .restrict => { m with kissRestrictSent := m.kissRestrictSent + 1 }
  | .rate => { m with kissRateSent := m.kissRateSent + 1 }

def setActiveClients (m : Metrics) (count : Nat) : Metrics :=
  { m with activeClients := UInt64.ofNat count }

/-- All counters in one line. -/
def text (m : Metrics) : String :=
  s!"received={m.requestsReceived} sent={m.responsesSent} dropped={m.requestsDropped} " ++
  s!"(short={m.droppedTooShort} invalid={m.droppedInvalid} not_client={m.droppedNotClient}) " ++
  s!"kod(deny={m.kissDenySent} rstr={m.kissRestrictSent} rate={m.kissRateSent}) " ++
  s!"bytes(in={m.bytesReceived} out={m.bytesSent}) send_errors={m.sendErrors} " ++
  s!"clients={m.activeClients}"

/-- Every counter under its name. -/
def counters (m : Metrics) : List (String × UInt64) :=
  [("requests_received", m.requestsReceived), ("responses_sent", m.responsesSent),
   ("requests_dropped", m.requestsDropped), ("dropped_too_short", m.droppedTooShort),
   ("dropped_invalid", m.droppedInvalid), ("dropped_not_client", m.droppedNotClient),
   ("kod_deny_sent", m.kissDenySent), ("kod_rstr_sent", m.kissRestrictSent),
   ("kod_rate_sent", m.kissRateSent), ("bytes_received", m.bytesReceived),
   ("bytes_sent", m.bytesSent), ("send_errors", m.sendErrors),
   ("active_clients", m.activeClients)]

end Metrics
end NetworkTime
