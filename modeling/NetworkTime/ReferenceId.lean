import NetworkTime.Address.Printer
import NetworkTime.Wire.Layout

/-! The four bytes that name the source of a server's time, or the reason of a refusal. -/

namespace NetworkTime
open Wire

/-- The source of a server's time: four characters at stratum 1, an address above it. -/
structure ReferenceId where
  first : UInt8 := 0
  second : UInt8 := 0
  third : UInt8 := 0
  fourth : UInt8 := 0
deriving DecidableEq, Repr, Inhabited

/-- Why a client is turned away with an answer. -/
inductive Kiss
  | deny
  | restrict
  | rate
deriving DecidableEq, Repr

namespace ReferenceId

def bytes (id : ReferenceId) : Bytes := [id.first, id.second, id.third, id.fourth]

/-- The first four bytes, with zeros for those that are missing. -/
def ofBytes (bytes : Bytes) : ReferenceId :=
  ⟨bytes.getD 0 0, bytes.getD 1 0, bytes.getD 2 0, bytes.getD 3 0⟩

/-- The first four bytes of the UTF-8 form of a text. -/
def ofText (s : String) : ReferenceId := ofBytes s.toUTF8.data.toList

/-- The octets of an IPv4 address. -/
def ofV4 (bits : BitVec 32) : ReferenceId := ofBytes ((Address.octets bits).map UInt8.ofNat)

def ofKiss : Kiss → ReferenceId
  | .deny => ⟨0x44, 0x45, 0x4E, 0x59⟩
  | .restrict => ⟨0x52, 0x53, 0x54, 0x52⟩
  | .rate => ⟨0x52, 0x41, 0x54, 0x45⟩

def kiss? (id : ReferenceId) : Option Kiss :=
  if id = ofKiss .deny then some .deny
  else if id = ofKiss .restrict then some .restrict
  else if id = ofKiss .rate then some .rate
  else none

/-- The bytes as one word, the first byte on top. -/
def bits (id : ReferenceId) : UInt32 := UInt32.ofNat (number id.bytes)

/-- The ASCII characters with a visible shape. -/
def isGraphic (b : UInt8) : Bool := 0x21 ≤ b && b ≤ 0x7E

/-- Whether the identifier is shown as characters and not as an address. -/
def isPrintable (id : ReferenceId) : Bool :=
  isGraphic id.first && id.bytes.all fun b => b == 0 || isGraphic b || b == 0x20

/-- The characters before the first zero byte, or four octets with points between them. -/
def print (id : ReferenceId) : List Char :=
  if id.isPrintable then (id.bytes.takeWhile (· != 0)).map fun b => Char.ofNat b.toNat
  else Address.printOctets (id.bytes.map UInt8.toNat)

def text (id : ReferenceId) : String := String.ofList id.print

instance : Layout ReferenceId where
  size := 4
  encode := bytes
  decode := ofBytes

end ReferenceId

/-- The four letters of a refusal. -/
def Kiss.code (k : Kiss) : String := (ReferenceId.ofKiss k).text

example : [Kiss.deny, .restrict, .rate].map Kiss.code = ["DENY", "RSTR", "RATE"] := by
  decide +kernel

end NetworkTime
