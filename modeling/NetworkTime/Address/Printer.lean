import NetworkTime.Address

/-! Addresses as text: four octets with points between them, or eight hexadecimal groups of which
the first longest run of zeros is left out. -/

namespace NetworkTime.Address

def decimal (n : Nat) : List Char := Nat.toDigits 10 n

def hexadecimal (n : Nat) : List Char := Nat.toDigits 16 n

def printOctets (os : List Nat) : List Char := ['.'].intercalate (os.map decimal)

def printGroups (gs : List Nat) : List Char := [':'].intercalate (gs.map hexadecimal)

/-- The length of the run of zeros at the front. -/
def zeros : List Nat → Nat
  | 0 :: gs => zeros gs + 1
  | _ => 0

/-- Where the first longest run of zeros starts, and its length. -/
def longestZeros : List Nat → Nat × Nat
  | [] => (0, 0)
  | g :: gs =>
    let here := zeros (g :: gs)
    let (start, length) := longestZeros gs
    if here = 0 ∨ here < length then (start + 1, length) else (0, here)

/-- A run of one zero is written out. -/
def printV6 (bits : BitVec 128) : List Char :=
  match mapped? bits with
  | some inner => [':', ':', 'f', 'f', 'f', 'f', ':'] ++ printOctets (octets inner)
  | none =>
    let gs := groups bits
    let (start, length) := longestZeros gs
    if 1 < length then
      printGroups (gs.take start) ++ [':', ':'] ++ printGroups (gs.drop (start + length))
    else printGroups gs

def print : Address → List Char
  | v4 bits => printOctets (octets bits)
  | v6 bits => printV6 bits

def text (a : Address) : String := String.ofList a.print

end Address

namespace Endpoint

/-- The address of an IPv6 endpoint stands in brackets. -/
def text (e : Endpoint) : String :=
  match e.address with
  | .v4 _ => s!"{e.address.text}:{e.port.toNat}"
  | .v6 _ => s!"[{e.address.text}]:{e.port.toNat}"

end Endpoint
end NetworkTime
