import NetworkTime.Config.Yaml.Cursor
import NetworkTime.Positional
import NetworkTime.Text.Integer

/-! The content of texts in YAML: in quotes, plain, or in a block of lines. -/

namespace NetworkTime.Config.Yaml

/-- How a text is written. -/
inductive Style
  | plain
  | single
  | double
  | literal
  | folded
deriving DecidableEq, Repr

/-- A text that was read: its content, the place after it, and whether a line break was passed over
after its end. -/
structure Scanned where
  content : List Char
  cursor : Cursor
  brokeLine : Bool := false
deriving DecidableEq, Repr

/-- The text with more content before it. -/
def Scanned.after (s : Scanned) (text : List Char) : Scanned :=
  { s with content := text ++ s.content }

namespace Quoted

/-- The character that a letter stands for after a backslash. -/
def escaped? : Char → Option Char
  | '0' => some '\x00'
  | 'a' => some '\x07'
  | 'b' => some '\x08'
  | 't' | '\t' => some '\t'
  | 'n' => some '\n'
  | 'v' => some '\x0b'
  | 'f' => some '\x0c'
  | 'r' => some '\r'
  | 'e' => some '\x1b'
  | ' ' => some ' '
  | '"' => some '"'
  | '/' => some '/'
  | '\\' => some '\\'
  | 'N' => some '\u0085'
  | '_' => some '\u00a0'
  | 'L' => some '\u2028'
  | 'P' => some '\u2029'
  | _ => none

/-- The count of hexadecimal digits after the letter of a numeric escape. -/
def escapeDigits? : Char → Option Nat
  | 'x' => some 2
  | 'u' => some 4
  | 'U' => some 8
  | _ => none

/-- The character with a number, unless it is a surrogate or there is none. -/
def charOfNumber? (n : Nat) : Option Char :=
  if n.isValidChar then some (Char.ofNat n) else none

/-- The character that an escape writes after its backslash, and how many characters it takes. -/
def escape? (cs : List Char) : Option (Char × Nat) := do
  let letter ← cs.head?
  match escapeDigits? letter with
  | none => return (← escaped? letter, 1)
  | some count =>
    let digits := (cs.drop 1).take count
    if digits.length ≠ count then none
    else
      let ds ← digits.mapM (Text.digitValue 16)
      return (← charOfNumber? (Positional.value 16 ds), count + 1)

/-- Reads a text after its opening quote, up to and with the closing one. -/
def read (double : Bool) : (fuel : Nat) → Cursor → Option Scanned
  | 0, _ => none
  | fuel + 1, c =>
    if c.atMarker then none
    else match c.rest with
      | [] => none
      | x :: xs =>
        if isGap x || isBreak x then do
          let (g, c) ← Gap.read 0 (fuel + 1) {} c
          return (← read double fuel c).after g.text
        else if double then
          if x = '"' then some ⟨[], c.skip 1, false⟩
          else if x = '\\' then
            if xs.head?.any isBreak then do
              let (g, c) ← Gap.read 0 (fuel + 1) { first? := some [] } (c.skip 1).lineBreak.2
              return (← read double fuel c).after g.text
            else do
              let (y, count) ← escape? xs
              return (← read double fuel (c.skip (count + 1))).after [y]
          else do return (← read double fuel (c.skip 1)).after [x]
        else if x = '\'' then
          if xs.head? = some '\'' then do
            return (← read double fuel (c.skip 2)).after [x]
          else some ⟨[], c.skip 1, false⟩
        else do return (← read double fuel (c.skip 1)).after [x]

end Quoted

namespace Plain

/-- The characters that open and close flow collections, and the comma between their parts. -/
def isFlowIndicator (x : Char) : Bool :=
  x == ',' || x == '[' || x == ']' || x == '\x7b' || x == '\x7d'

/-- Whether a plain text ends before these characters. -/
def endsBefore (flow : Bool) : List Char → Bool
  | [] => true
  | ':' :: xs => endsWord xs
  | x :: _ => flow && isFlowIndicator x

/-- A colon that is not allowed in a plain text of a flow collection. -/
def isStrayColon (flow : Bool) : List Char → Bool
  | ':' :: x :: _ => flow && (isFlowIndicator x || x == '?')
  | _ => false

/-- Reads a plain text on after a gap. Lines that go on with it start at the column `indent` at
least. -/
def read (flow : Bool) (indent : Nat) : (fuel : Nat) → Gap → Cursor → Option Scanned
  | 0, _, _ => none
  | fuel + 1, g, c =>
    match c.rest with
    | [] => some ⟨[], c, g.first?.isSome⟩
    | x :: xs =>
      if isGap x || isBreak x then do
        let (g, c) ← Gap.read indent (fuel + 1) g c
        if (!flow && c.column < indent) || c.atMarker || c.next? = some '#' then
          return ⟨[], c, g.first?.isSome⟩
        else read flow indent fuel g c
      else if isStrayColon flow (x :: xs) then none
      else if endsBefore flow (x :: xs) then some ⟨[], c, g.first?.isSome⟩
      else do return (← read flow indent fuel {} (c.skip 1)).after (g.text ++ [x])

end Plain

namespace Block

/-- What becomes of the line breaks at the end of a block: one is kept, none or all. -/
inductive Chomping
  | clip
  | strip
  | keep
deriving DecidableEq, Repr

def chomping? : Option Char → Option Chomping
  | some '-' => some .strip
  | some '+' => some .keep
  | _ => none

/-- The column step that a digit asks for, which is not 0. -/
def step? (x : Option Char) : Option (Option Nat) :=
  match x with
  | some x =>
    if x.isDigit then if x = '0' then none else some (some (x.toNat - '0'.toNat)) else some none
  | none => some none

/-- The header of a block after its indicator: a sign and a digit in either order, or less. -/
def header? (c : Cursor) : Option (Chomping × Option Nat × Cursor) :=
  match chomping? c.next? with
  | some chomping => do
    let c := c.skip 1
    let step ← step? c.next?
    return (chomping, step, if step.isSome then c.skip 1 else c)
  | none => do
    match ← step? c.next? with
    | none => return (.clip, none, c)
    | some step =>
      let c := c.skip 1
      match chomping? c.next? with
      | some chomping => return (chomping, some step, c.skip 1)
      | none => return (.clip, some step, c)

/-- Whether an indentation goes on, of which the depth may not be known yet. -/
def isWithin (depth : Option Nat) (c : Cursor) : Bool := depth.all (c.column < ·)

/-- The indentation here as far as it may go. -/
def skipIndent (depth : Option Nat) (c : Cursor) : Cursor :=
  let spaces := (c.rest.takeWhile (· == ' ')).length
  c.skip (match depth with
    | none => spaces
    | some depth => min spaces (depth - c.column))

/-- Blank lines: their breaks, the deepest indentation among them and after them, and the place
after them. No tab may stand in an indentation. -/
def readBreaks (depth : Option Nat) :
    (fuel : Nat) → (breaks : List Char) → (deepest : Nat) → Cursor →
      Option (List Char × Nat × Cursor)
  | 0, _, _, _ => none
  | fuel + 1, breaks, deepest, c =>
    let c := skipIndent depth c
    let deepest := max deepest c.column
    if isWithin depth c && c.next? = some '\t' then none
    else if c.next?.any isBreak then
      let (text, c) := c.lineBreak
      readBreaks depth fuel (breaks ++ text) deepest c
    else some (breaks, deepest, c)

/-- The lines that were read: their content, the break of the last one, and the breaks after it. -/
structure Lines where
  content : List Char := []
  last : List Char := []
  breaks : List Char
  afterBlank : Bool := false
deriving DecidableEq, Repr

/-- The content with the line breaks before a line, where a folded block joins lines of words by a
space. -/
def Lines.joined (ls : Lines) (folded blank : Bool) : List Char :=
  if folded && ls.last == ['\n'] && !ls.afterBlank && !blank then
    ls.content ++ (if ls.breaks.isEmpty then [' '] else ls.breaks)
  else ls.content ++ ls.last ++ ls.breaks

/-- Reads lines that start in the column `depth`. -/
def readLines (folded : Bool) (depth : Nat) :
    (fuel : Nat) → Lines → Cursor → Option (Lines × Cursor)
  | 0, _, _ => none
  | fuel + 1, ls, c =>
    if c.column ≠ depth || c.rest.isEmpty then some (ls, c)
    else do
      let blank := c.next?.any isGap
      let (line, c) := c.takeWhile fun x => !isBreak x
      let (last, c) := c.lineBreak
      let (breaks, _, c) ← readBreaks (some depth) (fuel + 1) [] 0 c
      readLines folded depth fuel
        { content := ls.joined folded blank ++ line, last, breaks, afterBlank := blank } c

/-- Reads a block after its indicator. `least` is the least column of its lines. -/
def read (folded : Bool) (least : Nat) (c : Cursor) : Option Scanned := do
  let fuel := c.rest.length + 1
  let (chomping, step, c) ← header? c
  let c ← c.endOfLine?
  let known := step.map fun step => least - 1 + step
  let (breaks, deepest, c) ← readBreaks known fuel [] 0 c
  let depth := known.getD (max (max deepest least) 1)
  let (ls, c) ← readLines folded depth fuel { breaks } c
  let content := match chomping with
    | .strip => ls.content
    | .clip => ls.content ++ ls.last
    | .keep => ls.content ++ ls.last ++ ls.breaks
  return ⟨content, c, false⟩

end Block
end NetworkTime.Config.Yaml
