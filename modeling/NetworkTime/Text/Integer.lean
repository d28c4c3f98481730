/-! Whole numbers of a bounded range, read from left to right. -/

namespace NetworkTime.Text

/-- Why a text is no number of the range asked for. -/
inductive NumberFault
  | empty
  | invalidDigit
  | tooLarge
  | tooSmall
deriving DecidableEq, Repr

def NumberFault.message : NumberFault → String
  | empty => "cannot parse integer from empty string"
  | invalidDigit => "invalid digit found in string"
  | tooLarge => "number too large to fit in target type"
  | tooSmall => "number too small to fit in target type"

/-- The value of an ASCII digit or letter in `base`, of either case. -/
def digitValue (base : Nat) (c : Char) : Option Nat :=
  let value :=
    if '0' ≤ c ∧ c ≤ '9' then c.toNat - '0'.toNat
    else if 'a' ≤ c ∧ c ≤ 'z' then c.toNat - 'a'.toNat + 10
    else if 'A' ≤ c ∧ c ≤ 'Z' then c.toNat - 'A'.toNat + 10
    else base
  if value < base then some value else none

/-- Continues the number `read` by the digits of a text. The first digit that does not belong, or
that takes the number past `limit`, decides the fault. -/
def digits (base limit : Nat) (beyond : NumberFault) (read : Nat) :
    List Char → Except NumberFault Nat
  | [] => .ok read
  | c :: cs =>
    match digitValue base c with
    | none => .error .invalidDigit
    | some d =>
      if limit < read * base + d then .error beyond
      else digits base limit beyond (read * base + d) cs

/-- A number from 0 to `limit`, with or without a plus sign. -/
def natural (base limit : Nat) : List Char → Except NumberFault Nat
  | [] => .error .empty
  | ['+'] => .error .invalidDigit
  | '+' :: cs => digits base limit .tooLarge 0 cs
  | cs => digits base limit .tooLarge 0 cs

/-- A number from `-limit - 1` to `limit`, with or without a sign. -/
def integer (base limit : Nat) : List Char → Except NumberFault Int
  | [] => .error .empty
  | ['+'] => .error .invalidDigit
  | ['-'] => .error .invalidDigit
  | '+' :: cs => (digits base limit .tooLarge 0 cs).map Int.ofNat
  | '-' :: cs => (digits base (limit + 1) .tooSmall 0 cs).map fun n => -(n : Int)
  | cs => (digits base limit .tooLarge 0 cs).map Int.ofNat

end NetworkTime.Text
