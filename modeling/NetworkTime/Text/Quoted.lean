import NetworkTime.Text.Shapeless

/-! Text in double quotes: a quote, a backslash, and what has no shape of its own are escaped. -/

namespace NetworkTime.Text.Quoted

/-- The hexadecimal digits of a number, without leading zeros. -/
def hexDigits (n : Nat) : List Char := Nat.toDigits 16 n

def escape (c : Char) : List Char :=
  if c = '\x00' then ['\\', '0']
  else if c = '\t' then ['\\', 't']
  else if c = '\n' then ['\\', 'n']
  else if c = '\r' then ['\\', 'r']
  else if c = '\\' ∨ c = '"' then ['\\', c]
  else if isShapeless c then ['\\', 'u', '\x7b'] ++ hexDigits c.toNat ++ ['\x7d']
  else [c]

def encode (cs : List Char) : List Char := '"' :: cs.flatMap escape ++ ['"']

/-- The quoted form of a text. -/
def text (s : String) : String := String.ofList (encode s.toList)

/-- The quoted forms of several texts, in brackets. -/
def texts (ts : List String) : String := "[" ++ ", ".intercalate (ts.map text) ++ "]"

end NetworkTime.Text.Quoted
