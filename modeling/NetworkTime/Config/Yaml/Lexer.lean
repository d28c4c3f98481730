import NetworkTime.Config.Yaml.Token

/-! Cutting a YAML text into tokens. Blocks are opened and closed by indentation. A text or a
collection that could be a key stays pending until a colon follows; the key is then marked before
the tokens that were read since. -/

namespace NetworkTime.Config.Yaml

/-- What may turn out to be a key: where it starts, and the count of tokens before it. -/
structure PendingKey where
  start : Cursor
  position : Nat
  /-- Whether nothing but a key may stand there. -/
  required : Bool
deriving DecidableEq, Repr

/-- A key must end in its line, and within 1024 bytes. -/
def PendingKey.isStale (k : PendingKey) (c : Cursor) : Bool :=
  k.start.line < c.line || k.start.index + 1024 < c.index

/-- A text that is read up to a place. -/
structure Lexer where
  cursor : Cursor
  /-- The tokens up to the place, the newest first. -/
  tokens : List Token := []
  /-- The columns of the open blocks, the innermost first. -/
  indents : List Nat := []
  /-- The pending key of the innermost flow collection, or of the block around them all. -/
  pending : Option PendingKey := none
  /-- The pending keys around the innermost flow collection. -/
  outer : List (Option PendingKey) := []
  /-- Whether a key may start at the place. -/
  keyAllowed : Bool := true
deriving DecidableEq, Repr

namespace Lexer

/-- Whether the place is within a flow collection. -/
def inFlow (l : Lexer) : Bool := !l.outer.isEmpty

/-- The least column of a line that goes on with the value of the innermost block. -/
def least (l : Lexer) : Nat := match l.indents with
  | [] => 0
  | column :: _ => column + 1

def emit (l : Lexer) (t : Token) : Lexer := { l with tokens := t :: l.tokens }

/-- Puts tokens before all but the first `position` tokens. -/
def insert (l : Lexer) (position : Nat) (ts : List Token) : Lexer :=
  let newer := l.tokens.length - position
  { l with tokens := l.tokens.take newer ++ ts.reverse ++ l.tokens.drop newer }

/-- Gives up the pending key, unless nothing else may stand there. -/
def dropKey (l : Lexer) : Option Lexer :=
  if l.pending.any (·.required) then none else some { l with pending := none }

/-- Takes what starts here for a key that is pending, if a key is allowed. -/
def saveKey (l : Lexer) : Option Lexer :=
  if l.keyAllowed then do
    let l ← l.dropKey
    let required := !l.inFlow && l.indents.head? == some l.cursor.column
    return { l with pending := some ⟨l.cursor, l.tokens.length, required⟩ }
  else some l

/-- Gives up the pending keys that are stale. -/
def dropStale (l : Lexer) : Option Lexer :=
  let isStale (k : Option PendingKey) : Bool := k.any (·.isStale l.cursor)
  let fresh (k : Option PendingKey) : Option PendingKey := if isStale k then none else k
  if (l.pending :: l.outer).any fun k => isStale k && k.any (·.required) then none
  else some { l with pending := fresh l.pending, outer := l.outer.map fresh }

/-- Opens a block at a column that is deeper than the blocks before. `position` says where its
token goes. -/
def openBlock (l : Lexer) (column position : Nat) (t : Token) : Lexer :=
  if !l.inFlow && l.indents.head?.all (· < column) then
    { l.insert position [t] with indents := column :: l.indents }
  else l

/-- Closes the blocks that are deeper than a column. -/
def closeBlocks (l : Lexer) (deeper : Nat → Bool) : Lexer :=
  if l.inFlow then l
  else
    let closed := l.indents.takeWhile deeper
    { l with
      tokens := closed.map (fun _ => Token.blockEnd) ++ l.tokens
      indents := l.indents.drop closed.length }

/-- Blanks, comments and line breaks before a token. In a block no tab may stand where a key is
allowed. -/
def skipGap : (fuel : Nat) → Lexer → Lexer
  | 0, l => l
  | fuel + 1, l =>
    let tabs := l.inFlow || !l.keyAllowed
    let c := l.cursor.skipMark.skipWhile fun x => x == ' ' || (tabs && x == '\t')
    let c := if c.next? = some '#' then c.skipWhile fun x => !isBreak x else c
    if c.next?.any isBreak then
      skipGap fuel { l with cursor := c.lineBreak.2, keyAllowed := !l.inFlow || l.keyAllowed }
    else { l with cursor := c }

/-- A token that stands for itself, of `count` characters. -/
def sign (l : Lexer) (count : Nat) (t : Token) : Lexer :=
  { l.emit t with cursor := l.cursor.skip count }

/-- A token that was read up to a place, after which no key may start. -/
def word (l : Lexer) (t : Token) (c : Cursor) : Lexer :=
  { l.emit t with cursor := c, keyAllowed := false }

def directive (l : Lexer) : Option Lexer := do
  let l ← (l.closeBlocks fun _ => true).dropKey
  let (t, c) ← Directive.read? (l.cursor.skip 1)
  return l.word t c

/-- The line that says where a document starts or ends. -/
def marker (l : Lexer) (t : Token) : Option Lexer := do
  let l ← (l.closeBlocks fun _ => true).dropKey
  return { l.sign 3 t with keyAllowed := false }

def openFlow (l : Lexer) (t : Token) : Option Lexer := do
  let l ← l.saveKey
  return { l.sign 1 t with pending := none, outer := l.pending :: l.outer, keyAllowed := true }

def closeFlow (l : Lexer) (t : Token) : Option Lexer := do
  let l ← l.dropKey
  let l := { l.sign 1 t with keyAllowed := false }
  match l.outer with
  | [] => return l
  | pending :: outer => return { l with pending, outer }

def comma (l : Lexer) : Option Lexer := do
  let l ← l.dropKey
  return { l.sign 1 .comma with keyAllowed := true }

/-- Opens a block here, if a key is allowed here and the place is within no flow collection. -/
def openHere (l : Lexer) (t : Token) : Option Lexer :=
  if l.inFlow then some l
  else if l.keyAllowed then some (l.openBlock l.cursor.column l.tokens.length t)
  else none

def entry (l : Lexer) : Option Lexer := do
  let l ← (← l.openHere .blockSequence).dropKey
  return { l.sign 1 .entry with keyAllowed := true }

def key (l : Lexer) : Option Lexer := do
  let l ← (← l.openHere .blockMapping).dropKey
  return { l.sign 1 .key with keyAllowed := !l.inFlow }

def value (l : Lexer) : Option Lexer :=
  match l.pending with
  | some k =>
    let l := (l.insert k.position [.key]).openBlock k.start.column k.position .blockMapping
    some { l.sign 1 .value with pending := none, keyAllowed := false }
  | none => do
    let l ← l.openHere .blockMapping
    return { l.sign 1 .value with keyAllowed := !l.inFlow }

def aliasTo (l : Lexer) : Option Lexer := do
  let l ← l.saveKey
  let (name, c) ← anchorName? (l.cursor.skip 1)
  return l.word (.aliasTo name) c

def anchor (l : Lexer) : Option Lexer := do
  let l ← l.saveKey
  let (name, c) ← anchorName? (l.cursor.skip 1)
  return l.word (.anchor name) c

def tag (l : Lexer) : Option Lexer := do
  let l ← l.saveKey
  let (t, c) ← Tag.read? l.inFlow l.cursor
  return l.word t c

def block (l : Lexer) (style : Style) : Option Lexer := do
  let l ← l.dropKey
  let s ← Block.read (style == .folded) l.least (l.cursor.skip 1)
  return { l.emit (.scalar style s.content) with cursor := s.cursor, keyAllowed := true }

def quoted (l : Lexer) (style : Style) : Option Lexer := do
  let l ← l.saveKey
  let s ← Quoted.read (style == .double) l.cursor.rest.length (l.cursor.skip 1)
  return l.word (.scalar style s.content) s.cursor

def plain (l : Lexer) : Option Lexer := do
  let l ← l.saveKey
  let s ← Plain.read l.inFlow l.least (l.cursor.rest.length + 1) {} l.cursor
  return { l.word (.scalar .plain s.content) s.cursor with keyAllowed := s.brokeLine }

/-- The characters that no plain text starts with, if nothing else speaks for it. -/
def indicators : List Char :=
  ['-', '?', ':', ',', '[', ']', '\x7b', '\x7d', '#', '&', '*', '!', '|', '>', '\'', '"', '%', '@',
   '\x60']

/-- Whether a plain text starts with a character, of which it is known that it starts no other
token. -/
def startsPlain (flow : Bool) (x : Char) (xs : List Char) : Bool :=
  !(endsWord [x] || indicators.contains x) || (x == '-' && !xs.head?.any isGap) ||
    (!flow && (x == '?' || x == ':') && !endsWord xs)

/-- The token that starts with the character `x`. -/
def token (l : Lexer) (x : Char) (xs : List Char) : Option Lexer :=
  let stands := l.inFlow || endsWord xs
  if l.cursor.column = 0 ∧ x = '%' then l.directive
  else if l.cursor.atMarker then l.marker (if x = '-' then .documentStart else .documentEnd)
  else if x = '[' then l.openFlow .openBracket
  else if x = '\x7b' then l.openFlow .openBrace
  else if x = ']' then l.closeFlow .closeBracket
  else if x = '\x7d' then l.closeFlow .closeBrace
  else if x = ',' then l.comma
  else if x = '-' ∧ endsWord xs then l.entry
  else if x = '?' ∧ stands then l.key
  else if x = ':' ∧ stands then l.value
  else if x = '*' then l.aliasTo
  else if x = '&' then l.anchor
  else if x = '!' then l.tag
  else if x = '|' ∧ !l.inFlow then l.block .literal
  else if x = '>' ∧ !l.inFlow then l.block .folded
  else if x = '\'' then l.quoted .single
  else if x = '"' then l.quoted .double
  else if startsPlain l.inFlow x xs then l.plain
  else none

/-- Reads all tokens. -/
def run : (fuel : Nat) → Lexer → Option (List Token)
  | 0, _ => none
  | fuel + 1, l => do
    let l ← (l.skipGap (fuel + 1)).dropStale
    match l.cursor.rest with
    | [] => return (← (l.closeBlocks fun _ => true).dropKey).tokens.reverse
    | x :: xs => run fuel (← (l.closeBlocks (l.cursor.column < ·)).token x xs)

end Lexer

/-- The tokens of a text. -/
def tokens? (cs : List Char) : Option (List Token) :=
  Lexer.run (cs.length + 1) { cursor := { rest := cs } }

end NetworkTime.Config.Yaml
