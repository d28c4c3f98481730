import NetworkTime.Address.Parser
import NetworkTime.Address.Printer
import NetworkTime.Text.Blank

/-! Networks: all addresses of one family that agree with a given one in their leading bits. -/

namespace NetworkTime

/-- The network of an address, whose leading `length` bits its members share. -/
structure Network where
  address : Address
  length : Nat
  length_le : length ≤ address.width
deriving DecidableEq

namespace Network

/-- The network of the given length, or of the whole address if the length is beyond it. -/
def ofLength (a : Address) (length : Nat) : Network :=
  ⟨a, min length a.width, Nat.min_le_right ..⟩

/-- The network of one address. -/
def host (a : Address) : Network := ofLength a a.width

/-- The bits of a word of `width` bits of which the leading `length` count. -/
def leading {width : Nat} (length : Nat) (w : BitVec width) : BitVec width :=
  w &&& (BitVec.allOnes width <<< (width - length))

/-- Whether a client belongs to the network. An IPv4-mapped client belongs as the IPv4 client that
it is. A network of length 0 holds every address of its family. -/
def contains (net : Network) (client : Address) : Bool :=
  let client := client.unmapped
  if net.length = 0 then net.address.isV6 == client.isV6
  else match net.address, client with
    | .v4 a, .v4 b => leading net.length a == leading net.length b
    | .v6 a, .v6 b => leading net.length a == leading net.length b
    | _, _ => false

/-- Why a text is no network. -/
inductive Fault
  | badAddress
  | badLength (fault : Text.NumberFault)
  | lengthBeyond (length most : Nat)
deriving DecidableEq, Repr

def Fault.message : Fault → String
  | badAddress => s!"bad address: {Address.malformed}"
  | badLength fault => s!"bad prefix length: {fault.message}"
  | lengthBeyond length most => s!"prefix length {length} exceeds {most}"

/-- An address, or an address and a length after a slash, with blanks around. -/
def parse (cs : List Char) : Except Fault Network :=
  let cs := Text.trim cs
  let (before, after) := match Text.splitOnce '/' cs with
    | some (before, after) => (before, some after)
    | none => (cs, none)
  match Address.parse? before with
  | none => .error .badAddress
  | some a =>
    match after with
    | none => .ok (host a)
    | some after =>
      match Text.natural 10 255 after with
      | .error fault => .error (.badLength fault)
      | .ok length =>
        if h : length ≤ a.width then .ok ⟨a, length, h⟩
        else .error (.lengthBeyond length a.width)

def print (net : Network) : List Char := net.address.print ++ '/' :: Address.decimal net.length

def text (net : Network) : String := String.ofList net.print

end Network
end NetworkTime
