import NetworkTime.Address
import NetworkTime.Text.Integer

/-! Reading addresses. A reader takes what it can from the front of a text and returns the rest; an
address text has no rest. -/

namespace NetworkTime.Address

/-- One or more digits, as many as there are, up to `most` of them. A number that starts with a zero
has to be that zero alone unless `padded`. -/
def readNumber (base most limit : Nat) (padded : Bool) (cs : List Char) :
    Option (Nat × List Char) :=
  let ds := cs.takeWhile fun c => (Text.digitValue base c).isSome
  let n := Positional.value base (ds.filterMap (Text.digitValue base))
  if ds.length = 0 ∨ most < ds.length ∨ limit < n then none
  else if !padded && ds.head? == some '0' && 1 < ds.length then none
  else some (n, cs.drop ds.length)

def readChar (c : Char) : List Char → Option (List Char)
  | [] => none
  | d :: cs => if c = d then some cs else none

/-- An octet after a point. -/
def readPointOctet (cs : List Char) : Option (Nat × List Char) :=
  (readChar '.' cs).bind (readNumber 10 3 255 false)

def readOctets (cs : List Char) : Option (List Nat × List Char) := do
  let (a, cs) ← readNumber 10 3 255 false cs
  let (b, cs) ← readPointOctet cs
  let (c, cs) ← readPointOctet cs
  let (d, cs) ← readPointOctet cs
  return ([a, b, c, d], cs)

/-- The two groups that four octets make. -/
def groupsOfOctets : List Nat → List Nat
  | a :: b :: os => (a * 256 + b) :: groupsOfOctets os
  | _ => []

/-- The colon that stands before every group but the first. -/
def readSeparator (first : Bool) (cs : List Char) : Option (List Char) :=
  if first then some cs else readChar ':' cs

/-- What `readGroups` found: groups, whether the last two were octets, and the rest. -/
structure GroupRun where
  groups : List Nat
  octets : Bool
  rest : List Char

/-- As many groups as there are, up to `room`. Octets may stand for the last two groups. -/
def readGroups (first : Bool) : (room : Nat) → List Char → GroupRun
  | 0, cs => ⟨[], false, cs⟩
  | room + 1, cs =>
    match if room = 0 then none else (readSeparator first cs).bind readOctets with
    | some (os, rest) => ⟨groupsOfOctets os, true, rest⟩
    | none =>
      match (readSeparator first cs).bind (readNumber 16 4 0xffff true) with
      | none => ⟨[], false, cs⟩
      | some (g, rest) =>
        let more := readGroups false room rest
        { more with groups := g :: more.groups }

/-- Eight groups, or fewer on the two sides of a double colon, which stands for one zero group at
least. -/
def readV6 (cs : List Char) : Option (BitVec 128 × List Char) :=
  let head := readGroups true 8 cs
  if head.groups.length = 8 then some (ofGroups head.groups, head.rest)
  else if head.octets then none
  else do
    let rest ← (readChar ':' head.rest).bind (readChar ':')
    let tail := readGroups true (7 - head.groups.length) rest
    let gap := List.replicate (8 - head.groups.length - tail.groups.length) 0
    return (ofGroups (head.groups ++ gap ++ tail.groups), tail.rest)

def readV4 (cs : List Char) : Option (BitVec 32 × List Char) :=
  (readOctets cs).map fun (os, rest) => (ofOctets os, rest)

/-- What a reader takes if it takes the whole text. -/
def whole {α : Type} : Option (α × List Char) → Option α
  | some (x, []) => some x
  | _ => none

/-- An IPv4 address, or else an IPv6 address. -/
def read (cs : List Char) : Option (Address × List Char) :=
  match readV4 cs with
  | some (bits, rest) => some (v4 bits, rest)
  | none => (readV6 cs).map fun (bits, rest) => (v6 bits, rest)

/-- The address that a text writes. -/
def parse? (cs : List Char) : Option Address := whole (read cs)

/-- The wording for a text that is no address. -/
def malformed : String := "invalid IP address syntax"

end Address

namespace Endpoint

/-- The wording for a text that is no address and port. -/
def malformed : String := "invalid socket address syntax"

/-- A port after its colon. -/
def readPort (cs : List Char) : Option (UInt16 × List Char) := do
  let cs ← Address.readChar ':' cs
  let (port, cs) ← Address.readNumber 10 cs.length 0xffff true cs
  return (UInt16.ofNat port, cs)

/-- The scope after an IPv6 address, which is read and not kept. -/
def skipScope (cs : List Char) : List Char :=
  match (Address.readChar '%' cs).bind fun cs =>
    Address.readNumber 10 cs.length 0xffffffff true cs with
  | some (_, rest) => rest
  | none => cs

def readV4 (cs : List Char) : Option (Endpoint × List Char) := do
  let (bits, cs) ← Address.readV4 cs
  let (port, cs) ← readPort cs
  return (⟨.v4 bits, port⟩, cs)

def readV6 (cs : List Char) : Option (Endpoint × List Char) := do
  let cs ← Address.readChar '[' cs
  let (bits, cs) ← Address.readV6 cs
  let cs ← Address.readChar ']' (skipScope cs)
  let (port, cs) ← readPort cs
  return (⟨.v6 bits, port⟩, cs)

/-- The address and port that a text writes. -/
def parse? (cs : List Char) : Option Endpoint :=
  Address.whole (match readV4 cs with
    | some r => some r
    | none => readV6 cs)

end Endpoint
end NetworkTime
