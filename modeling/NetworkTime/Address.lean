import NetworkTime.Positional

/-! Internet addresses of both families. -/

namespace NetworkTime

/-- An Internet address. -/
inductive Address
  | v4 (bits : BitVec 32)
  | v6 (bits : BitVec 128)
deriving DecidableEq, Repr

namespace Address

/-- The count of bits in an address of the same family. -/
def width : Address → Nat
  | v4 _ => 32
  | v6 _ => 128

def isV6 : Address → Bool
  | v4 _ => false
  | v6 _ => true

/-- The IPv4 address inside an IPv4-mapped IPv6 address, `::ffff:a.b.c.d`. -/
def mapped? (bits : BitVec 128) : Option (BitVec 32) :=
  if bits >>> 32 = 0xffff#128 then some (bits.setWidth 32) else none

/-- An IPv4-mapped IPv6 address becomes the IPv4 address; other addresses stay. -/
def unmapped : Address → Address
  | v4 bits => v4 bits
  | v6 bits => match mapped? bits with
    | some inner => v4 inner
    | none => v6 bits

/-- The four octets of an IPv4 address. -/
def octets (bits : BitVec 32) : List Nat := Positional.digits 256 4 bits.toNat

/-- The eight groups of sixteen bits of an IPv6 address. -/
def groups (bits : BitVec 128) : List Nat := Positional.digits 65536 8 bits.toNat

def ofOctets (os : List Nat) : BitVec 32 := BitVec.ofNat 32 (Positional.value 256 os)

def ofGroups (gs : List Nat) : BitVec 128 := BitVec.ofNat 128 (Positional.value 65536 gs)

theorem length_octets (bits : BitVec 32) : (octets bits).length = 4 :=
  Positional.length_digits ..

theorem length_groups (bits : BitVec 128) : (groups bits).length = 8 :=
  Positional.length_digits ..

end Address

/-- An address and a port on it. -/
structure Endpoint where
  address : Address
  port : UInt16
deriving DecidableEq, Repr

end NetworkTime
