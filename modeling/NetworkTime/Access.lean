import NetworkTime.Network
import NetworkTime.ReferenceId

/-! Which clients are served. -/

namespace NetworkTime

/-- The networks that are served, and those that are not. No list is not the same as an empty one:
with an empty list of served networks nobody is served. -/
structure AccessControl where
  allow : Option (List Network) := none
  deny : Option (List Network) := none
deriving DecidableEq

/-- What a client may do. -/
inductive Access
  | allow
  | deny
  | restrict
deriving DecidableEq, Repr

namespace Access

/-- The kiss that a client is turned away with. -/
def kiss? : Access → Option Kiss
  | allow => none
  | deny => some .deny
  | restrict => some .restrict

end Access

namespace AccessControl

def isRestricted (control : AccessControl) : Bool := control.allow.isSome || control.deny.isSome

/-- The networks not served come first. -/
def check (control : AccessControl) (client : Address) : Access :=
  if control.deny.any (·.any (·.contains client)) then .deny
  else if control.allow.all (·.any (·.contains client)) then .allow
  else .restrict

end AccessControl
end NetworkTime
