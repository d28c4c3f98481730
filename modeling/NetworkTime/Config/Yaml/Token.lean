import NetworkTime.Config.Yaml.Scalar

/-! The tokens of a YAML text, and those among them that stand before a value or a document:
anchors, aliases, tags and directives. -/

namespace NetworkTime.Config.Yaml

/-- The content of a tag: bytes, which may write no text. -/
abbrev Tag.Content := List UInt8

/-- The content of ASCII characters. -/
def Tag.Content.ofChars (cs : List Char) : Tag.Content := cs.map fun c => UInt8.ofNat c.toNat

inductive Token
  | versionDirective (major minor : Nat)
  | tagDirective (handle : List Char) (start : Tag.Content)
  | documentStart
  | documentEnd
  | blockSequence
  | blockMapping
  /-- The end of a sequence or mapping in a block, which is shown by the indentation alone. -/
  | blockEnd
  | openBracket
  | closeBracket
  | openBrace
  | closeBrace
  | entry
  | comma
  | key
  | value
  | aliasTo (name : List Char)
  | anchor (name : List Char)
  /-- A tag, whose handle is empty if it is written out. -/
  | tag (handle : List Char) (suffix : Tag.Content)
  | scalar (style : Style) (content : List Char)
deriving DecidableEq, Repr

/-- The name of an anchor after its indicator, which ends where a word ends or before some
indicators. -/
def anchorName? (c : Cursor) : Option (List Char × Cursor) :=
  let (name, c) := c.takeWhile isNameChar
  let ends := endsWord c.rest ||
    c.next?.any (['?', ':', ',', ']', '\x7d', '%', '@', '\x60'].contains ·)
  if !name.isEmpty && ends then some (name, c) else none

namespace Tag

/-- The characters that stand for themselves in a tag, of which some only in one that is written
out. -/
def isPlainChar (full : Bool) (x : Char) : Bool :=
  isNameChar x ||
    [';', '/', '?', ':', '@', '&', '=', '+', '$', '.', '!', '~', '*', '\'', '(', ')'].contains x ||
    (full && [',', '[', ']'].contains x)

/-- A byte written as a percent sign and two hexadecimal digits. -/
def byte? : List Char → Option (Nat × List Char)
  | '%' :: a :: b :: cs => do
    return (16 * (← Text.digitValue 16 a) + (← Text.digitValue 16 b), cs)
  | _ => none

/-- The count of bytes in the UTF-8 form that starts with a byte. -/
def formSize? (byte : Nat) : Option Nat :=
  if byte < 0x80 then some 1
  else if byte / 0x20 = 6 then some 2
  else if byte / 0x10 = 14 then some 3
  else if byte / 8 = 30 then some 4
  else none

/-- Further bytes of a UTF-8 form. -/
def moreBytes? : Nat → List Char → Option (List Nat × List Char)
  | 0, cs => some ([], cs)
  | count + 1, cs => do
    let (byte, cs) ← byte? cs
    if byte / 0x40 ≠ 2 then none
    else
      let (bytes, cs) ← moreBytes? count cs
      return (byte :: bytes, cs)

/-- The bytes of one UTF-8 form, each written as an escape, and what follows them. The form need
not be that of a character. -/
def escapedBytes? (cs : List Char) : Option (List Nat × List Char) := do
  let (first, cs) ← byte? cs
  let (more, cs) ← moreBytes? ((← formSize? first) - 1) cs
  return (first :: more, cs)

/-- The bytes of a tag up to the first character that does not belong to it. -/
def bytes? (full : Bool) : (fuel : Nat) → Cursor → Option (List Nat × Cursor)
  | 0, _ => none
  | fuel + 1, c =>
    match c.rest with
    | [] => some ([], c)
    | x :: _ =>
      if x = '%' then do
        let (form, rest) ← escapedBytes? c.rest
        let (bytes, c) ← bytes? full fuel (c.skip (c.rest.length - rest.length))
        return (form ++ bytes, c)
      else if isPlainChar full x then do
        let (bytes, c) ← bytes? full fuel (c.skip 1)
        return (x.toNat :: bytes, c)
      else some ([], c)

/-- A byte of zero ends the content of a tag. -/
def content (bytes : List Nat) : Content := (bytes.takeWhile (· ≠ 0)).map UInt8.ofNat

/-- The content of a part of a tag, which may be empty. -/
def part? (full : Bool) (c : Cursor) : Option (Content × Cursor) :=
  (bytes? full (c.rest.length + 1) c).map fun (bytes, c) => (content bytes, c)

/-- The content of a part of a tag that is written with one byte at least. -/
def somePart? (full : Bool) (c : Cursor) : Option (Content × Cursor) :=
  match bytes? full (c.rest.length + 1) c with
  | some (bytes, c) => if bytes.isEmpty then none else some (content bytes, c)
  | none => none

/-- A handle: an exclamation mark, and perhaps a name and another one. -/
def handle? (c : Cursor) : Option (List Char × Cursor) :=
  if c.next? ≠ some '!' then none
  else
    let (name, c) := (c.skip 1).takeWhile isNameChar
    if c.next? = some '!' then some ('!' :: name ++ ['!'], c.skip 1) else some ('!' :: name, c)

/-- Whether a handle has its second exclamation mark. -/
def isClosed (handle : List Char) : Bool := 1 < handle.length && handle.getLast? == some '!'

/-- A tag that is written out between angle brackets. -/
def full? (c : Cursor) : Option (Token × Cursor) := do
  let (whole, c) ← somePart? true c
  if c.next? = some '>' then return (.tag [] whole, c.skip 1) else none

/-- A tag of a handle and a suffix. One exclamation mark alone is a tag of its own. -/
def short? (c : Cursor) : Option (Token × Cursor) := do
  let (handle, c) ← handle? c
  if isClosed handle then
    let (suffix, c) ← somePart? false c
    return (.tag handle suffix, c)
  else
    let (more, c) ← part? false c
    match Content.ofChars (handle.drop 1) ++ more with
    | [] => return (.tag [] (.ofChars ['!']), c)
    | suffix => return (.tag ['!'] suffix, c)

/-- A tag, which ends where a word ends, or before a comma in a flow collection. -/
def read? (flow : Bool) (c : Cursor) : Option (Token × Cursor) := do
  let (tag, c) ← if c.rest[1]? = some '<' then full? (c.skip 2) else short? c
  if endsWord c.rest || (flow && c.next? = some ',') then return (tag, c) else none

end Tag

namespace Directive

/-- A number of nine digits at most. -/
def number? (c : Cursor) : Option (Nat × Cursor) :=
  let (ds, c) := c.takeWhile Char.isDigit
  if ds.isEmpty || 9 < ds.length then none
  else some (Positional.value 10 (ds.filterMap (Text.digitValue 10)), c)

/-- The version after the name of its directive. -/
def version? (c : Cursor) : Option (Token × Cursor) := do
  let (major, c) ← number? (c.skipWhile isGap)
  if c.next? ≠ some '.' then none
  else
    let (minor, c) ← number? (c.skip 1)
    return (.versionDirective major minor, c)

/-- The handle and the start of a tag after the name of their directive. -/
def tag? (c : Cursor) : Option (Token × Cursor) := do
  let (handle, c) ← Tag.handle? (c.skipWhile isGap)
  if handle ≠ ['!'] && !Tag.isClosed handle then none
  else if !c.next?.any isGap then none
  else
    let (start, c) ← Tag.somePart? true (c.skipWhile isGap)
    if endsWord c.rest then return (.tagDirective handle start, c) else none

/-- A directive after its indicator, up to the end of its line. -/
def read? (c : Cursor) : Option (Token × Cursor) := do
  let (name, c) := c.takeWhile isNameChar
  if !endsWord c.rest then none
  else
    let (token, c) ← if name = ['Y', 'A', 'M', 'L'] then version? c
      else if name = ['T', 'A', 'G'] then tag? c
      else none
    return (token, ← c.endOfLine?)

end Directive
end NetworkTime.Config.Yaml
