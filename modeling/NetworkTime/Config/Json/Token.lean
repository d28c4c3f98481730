import NetworkTime.Positional
import NetworkTime.Text.Integer

/-! The tokens of a JSON text, up to the first one that is broken. Values that are passed over are
held to less than values that are read: their numbers may be of any size, and the halves of a
surrogate pair in their texts may stand alone. -/

namespace NetworkTime.Config.Json

/-- What is wrong with a text: it breaks the grammar, ends too early, or its values do not fit. -/
inductive Fault
  | malformed
  | unfinished
  | unfitting
deriving DecidableEq, Repr

def Fault.message : Fault → String
  | malformed => "the text breaks the grammar"
  | unfinished => "the text ends too early"
  | unfitting => "a value does not fit"

/-- A number as far as its kind matters: whole numbers of 64 bits, real numbers, and those beyond
the range of these. Zero with a minus sign is a real number. -/
inductive Number
  | natural (n : Nat)
  | negative (n : Nat)
  | real
  | beyond
deriving DecidableEq, Repr

inductive Token
  | openBrace
  | closeBrace
  | openBracket
  | closeBracket
  | comma
  | colon
  | null
  | bool (b : Bool)
  | number (n : Number)
  /-- A text, which is nothing if the half of a surrogate pair stands alone in it. -/
  | text (content : Option String)
  /-- A token with a fault, which can depend on whether it is read or passed over. -/
  | broken (quoted : Bool) (reading passing : Fault)
deriving DecidableEq, Repr

/-- A part of a text: a character, or a unit of sixteen bits written as an escape. -/
inductive Piece
  | char (c : Char)
  | unit (n : Nat)
deriving DecidableEq, Repr

/-- The character that a letter stands for after a backslash. -/
def escaped? : Char → Option Char
  | '"' => some '"'
  | '\\' => some '\\'
  | '/' => some '/'
  | 'b' => some '\x08'
  | 'f' => some '\x0c'
  | 'n' => some '\n'
  | 'r' => some '\r'
  | 't' => some '\t'
  | _ => none

/-- Four hexadecimal digits. -/
def hex4? (a b c d : Char) : Option Nat := do
  let ds ← [a, b, c, d].mapM (Text.digitValue 16)
  return Positional.value 16 ds

/-- The fault of an escape without its four digits: what follows is four bytes or more, or too
little. -/
def hexFault (cs : List Char) : Fault :=
  if 4 ≤ cs.foldl (fun n c => n + c.utf8Size) 0 then .malformed else .unfinished

/-- The pieces of a text after its opening quote, and what follows the closing quote, or the fault
that ends it. -/
def scanText : List Char → List Piece × Except Fault (List Char)
  | [] => ([], .error .unfinished)
  | '"' :: cs => ([], .ok cs)
  | ['\\'] => ([], .error .unfinished)
  | '\\' :: 'u' :: a :: b :: c :: d :: cs =>
    match hex4? a b c d with
    | some n =>
      let (pieces, ending) := scanText cs
      (.unit n :: pieces, ending)
    | none => ([], .error .malformed)
  | '\\' :: 'u' :: cs => ([], .error (hexFault cs))
  | '\\' :: e :: cs =>
    match escaped? e with
    | some c =>
      let (pieces, ending) := scanText cs
      (.char c :: pieces, ending)
    | none => ([], .error .malformed)
  | c :: cs =>
    if c.toNat < 0x20 then ([], .error .malformed)
    else
      let (pieces, ending) := scanText cs
      (.char c :: pieces, ending)

/-- The first half of a surrogate pair. -/
def isHigh (n : Nat) : Bool := 0xD800 ≤ n && n ≤ 0xDBFF

/-- The second half of a surrogate pair. -/
def isLow (n : Nat) : Bool := 0xDC00 ≤ n && n ≤ 0xDFFF

/-- The characters that pieces write, with what is left where the half of a surrogate pair stands
alone. -/
def characters : List Piece → List Char × List Piece
  | [] => ([], [])
  | .char c :: ps =>
    let (cs, rest) := characters ps
    (c :: cs, rest)
  | .unit n :: .unit m :: ps =>
    if isHigh n && isLow m then
      let (cs, rest) := characters ps
      (Char.ofNat (0x10000 + (n - 0xD800) * 0x400 + (m - 0xDC00)) :: cs, rest)
    else if isHigh n || isLow n then ([], .unit n :: .unit m :: ps)
    else
      let (cs, rest) := characters (.unit m :: ps)
      (Char.ofNat n :: cs, rest)
  | .unit n :: ps =>
    if isHigh n || isLow n then ([], .unit n :: ps)
    else
      let (cs, rest) := characters ps
      (Char.ofNat n :: cs, rest)

/-- The fault of reading a text that ends in a fault: a lone half of a surrogate pair comes first,
unless it is the first half and its other half may be what is missing. -/
def readingFault (pieces : List Piece) (ending : Fault) : Fault :=
  match (characters pieces).2 with
  | [] => ending
  | [.unit n] => if isHigh n then ending else .malformed
  | _ => .malformed

/-- The digits at the front of a text, and the rest. -/
def spanDigits (cs : List Char) : List Char × List Char := cs.span Char.isDigit

/-- A part of a number is missing where the text goes on with something else, or ends. -/
def missing (cs : List Char) : Token :=
  .broken false (if cs.isEmpty then .unfinished else .malformed) .malformed

/-- The nearest number of 53 binary digits and zeros after them, of two as near the even one. -/
def nearestBinary (n : Nat) : Nat :=
  let unit := Nat.pow 2 (n.log2 - 52)
  let low := n / unit
  let excess := 2 * (n % unit)
  if unit < excess || (excess == unit && low % 2 == 1) then (low + 1) * unit else low * unit

/-- Whether `n * 10 ^ e` is past the largest finite binary number of 64 bits, where the two factors
are rounded before they are multiplied. -/
def isBeyond (n : Nat) (e : Int) : Bool :=
  if n = 0 ∨ e < 0 then false
  else if 308 < e then true
  else Nat.pow 2 1024 - Nat.pow 2 970 ≤ nearestBinary n * nearestBinary (Nat.pow 10 e.toNat)

/-- The number that digits make after those of `n`, up to the first with which it would not fit into
64 bits, and the digits from there. -/
def significand (n : Nat) : List Char → Nat × List Char
  | [] => (n, [])
  | c :: cs =>
    let m := 10 * n + (Text.digitValue 10 c).getD 0
    if m < UInt64.size then significand m cs else (n, c :: cs)

/-- The value of decimal digits. -/
def decimalValue (ds : List Char) : Nat :=
  Positional.value 10 (ds.filterMap (Text.digitValue 10))

/-- A number with a fraction or an exponent. -/
def realNumber (digits fraction : List Char) (exponent : Int) : Number :=
  let (n, left) := significand 0 digits
  let (n, past) := significand n fraction
  if isBeyond n (exponent + left.length + past.length - fraction.length) then .beyond else .real

/-- A number without a fraction and an exponent. -/
def wholeNumber (minus : Bool) (digits : List Char) : Number :=
  let n := decimalValue digits
  if minus then if 0 < n ∧ n ≤ 0x8000000000000000 then .negative n else realNumber digits [] 0
  else if n < UInt64.size then .natural n
  else realNumber digits [] 0

/-- The exponent after its letter, and the number before it. -/
def scanExponent (digits fraction cs : List Char) : Token × List Char :=
  let (minus, cs) : Bool × List Char := match cs with
    | '-' :: cs => (true, cs)
    | '+' :: cs => (false, cs)
    | cs => (false, cs)
  match spanDigits cs with
  | ([], cs) => (missing cs, cs)
  | (ds, cs) =>
    let e : Int := decimalValue ds
    (.number (realNumber digits fraction (if minus then -e else e)), cs)

/-- What may follow the digits before the point. -/
def scanFraction (minus : Bool) (digits cs : List Char) : Token × List Char :=
  match cs with
  | '.' :: cs =>
    match spanDigits cs with
    | ([], cs) => (missing cs, cs)
    | (fraction, 'e' :: cs) => scanExponent digits fraction cs
    | (fraction, 'E' :: cs) => scanExponent digits fraction cs
    | (fraction, cs) => (.number (realNumber digits fraction 0), cs)
  | 'e' :: cs => scanExponent digits [] cs
  | 'E' :: cs => scanExponent digits [] cs
  | cs => (.number (wholeNumber minus digits), cs)

/-- A number after its sign. It starts with a zero only if that is all there is before the point. -/
def scanNumber (minus : Bool) (cs : List Char) : Token × List Char :=
  match spanDigits cs with
  | ([], cs) => (missing cs, cs)
  | ('0' :: _ :: _, cs) => (.broken false .malformed .malformed, cs)
  | (digits, cs) => scanFraction minus digits cs

/-- A word whose first letter was read. -/
def scanWord (token : Token) : List Char → List Char → Token × List Char
  | [], cs => (token, cs)
  | _ :: _, [] => (.broken false .unfinished .unfinished, [])
  | e :: es, c :: cs =>
    if e = c then scanWord token es cs else (.broken false .malformed .malformed, cs)

/-- The token that starts with a character. -/
def scanToken (c : Char) (cs : List Char) : Token × List Char :=
  match c with
  | '\x7b' => (.openBrace, cs)
  | '\x7d' => (.closeBrace, cs)
  | '[' => (.openBracket, cs)
  | ']' => (.closeBracket, cs)
  | ',' => (.comma, cs)
  | ':' => (.colon, cs)
  | 'n' => scanWord .null ['u', 'l', 'l'] cs
  | 't' => scanWord (.bool true) ['r', 'u', 'e'] cs
  | 'f' => scanWord (.bool false) ['a', 'l', 's', 'e'] cs
  | '-' => scanNumber true cs
  | '"' =>
    match scanText cs with
    | (pieces, .ok rest) =>
      let (content, lone) := characters pieces
      (.text (if lone.isEmpty then some (String.ofList content) else none), rest)
    | (pieces, .error ending) => (.broken true (readingFault pieces ending) ending, [])
  | _ =>
    if c.isDigit then scanNumber false (c :: cs)
    else (.broken false .malformed .malformed, cs)

def isSpace (c : Char) : Bool := c == ' ' || c == '\n' || c == '\t' || c == '\r'

/-- The tokens of the first `fuel` characters at least. -/
def scan : (fuel : Nat) → List Char → List Token
  | 0, _ => []
  | fuel + 1, cs =>
    match cs.dropWhile isSpace with
    | [] => []
    | c :: cs =>
      match scanToken c cs with
      | (.broken quoted reading passing, _) => [.broken quoted reading passing]
      | (token, rest) => token :: scan fuel rest

/-- The tokens of a text, up to the first that is broken. -/
def tokens (cs : List Char) : List Token := scan cs.length cs

end NetworkTime.Config.Json
