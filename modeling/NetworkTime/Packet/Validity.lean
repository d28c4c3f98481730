import NetworkTime.Packet

/-! The rules that the fields of a header keep, and the list of those that a packet breaks. -/

namespace NetworkTime

/-- A rule that a header breaks, with the value that breaks it. -/
inductive Violation
  | unsupportedVersion (version : UInt8)
  | stratumOutOfRange (stratum : UInt8)
  | pollOutOfRange (poll : Int8)
  | positivePrecision (precision : Int8)
deriving DecidableEq, Repr

namespace Violation

def message : Violation → String
  | unsupportedVersion v => s!"unsupported version {v.toNat}"
  | stratumOutOfRange s => s!"stratum {s.toNat} out of range 0-15"
  | pollOutOfRange p => s!"poll {p.toInt} out of range 4-17"
  | positivePrecision p => s!"precision {p.toInt} is positive"

/-- The wording for a packet with these faults. -/
def summary (violations : List Violation) : String :=
  "invalid packet: " ++ ", ".intercalate (violations.map message)

end Violation

namespace Packet

/-- All rules that the packet breaks, in the order of the header. -/
def violations (p : Packet) : List Violation :=
  (if p.version.isSupported then [] else [.unsupportedVersion p.version.code]) ++
  (if p.stratum ≤ 15 then [] else [.stratumOutOfRange p.stratum]) ++
  (if Poll.isAllowed p.poll then [] else [.pollOutOfRange p.poll]) ++
  (if p.precision ≤ 0 then [] else [.positivePrecision p.precision])

def isValid (p : Packet) : Bool := p.violations.isEmpty

end Packet
end NetworkTime
