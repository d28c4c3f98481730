/-! A place in a YAML text, and the gaps of blanks and line breaks that a text in several lines
folds. -/

namespace NetworkTime.Config.Yaml

/-- A space or a tab. -/
def isGap (c : Char) : Bool := c == ' ' || c == '\t'

/-- A character that ends a line. -/
def isBreak (c : Char) : Bool :=
  c == '\n' || c == '\r' || c == '\u0085' || c == '\u2028' || c == '\u2029'

/-- Whether a text ends here, or a word of it. -/
def endsWord : List Char → Bool
  | [] => true
  | c :: _ => isGap c || isBreak c

/-- The characters of the names of anchors, directives and handles. -/
def isNameChar (c : Char) : Bool := c.isAlphanum || c == '_' || c == '-'

/-- Whether a line starts that says where a document starts or ends. -/
def startsMarker : List Char → Bool
  | '-' :: '-' :: '-' :: cs => endsWord cs
  | '.' :: '.' :: '.' :: cs => endsWord cs
  | _ => false

/-- What follows a place in a text, and where the place is: bytes of UTF-8 before it, lines before
it, and characters before it in its line. -/
structure Cursor where
  rest : List Char
  index : Nat := 0
  line : Nat := 0
  column : Nat := 0
deriving DecidableEq, Repr

namespace Cursor

def next? (c : Cursor) : Option Char := c.rest.head?

/-- The count of bytes in the next `count` characters. -/
def bytesIn (c : Cursor) (count : Nat) : Nat :=
  (c.rest.take count).foldl (fun n ch => n + ch.utf8Size) 0

/-- The place after `count` characters of the same line. -/
def skip (c : Cursor) (count : Nat) : Cursor :=
  { c with
    rest := c.rest.drop count
    index := c.index + c.bytesIn count
    column := c.column + count }

/-- The characters up to the first without a property, which must hold of no line break. -/
def takeWhile (c : Cursor) (p : Char → Bool) : List Char × Cursor :=
  let taken := c.rest.takeWhile p
  (taken, c.skip taken.length)

def skipWhile (c : Cursor) (p : Char → Bool) : Cursor := (c.takeWhile p).2

/-- The place at the start of the next line, past a line break of `count` characters. -/
def skipLine (c : Cursor) (count : Nat) : Cursor :=
  { rest := c.rest.drop count, index := c.index + c.bytesIn count, line := c.line + 1, column := 0 }

/-- The place after the mark of a byte order, which may start any line. It takes up a column. -/
def skipMark (c : Cursor) : Cursor :=
  if c.column = 0 ∧ c.next? = some '\ufeff' then c.skip 1 else c

/-- The line break here, if there is one, as it stands in the content of a text. -/
def lineBreak (c : Cursor) : List Char × Cursor :=
  match c.rest with
  | '\r' :: '\n' :: _ => (['\n'], c.skipLine 2)
  | b :: _ =>
    if b = '\u2028' ∨ b = '\u2029' then ([b], c.skipLine 1)
    else if isBreak b then (['\n'], c.skipLine 1)
    else ([], c)
  | [] => ([], c)

/-- The place after the blanks and the comment at the end of a line, which must come to an end
there. -/
def endOfLine? (c : Cursor) : Option Cursor :=
  let c := c.skipWhile isGap
  let c := if c.next? = some '#' then c.skipWhile fun x => !isBreak x else c
  if c.next?.all isBreak then some c.lineBreak.2 else none

/-- Whether a line starts here that says where a document starts or ends. -/
def atMarker (c : Cursor) : Bool := c.column == 0 && startsMarker c.rest

end Cursor

/-- What stands between two words: blanks, or line breaks with any blanks around them. -/
structure Gap where
  /-- The blanks before the first line break. -/
  blanks : List Char := []
  /-- The first line break, which is empty where a backslash stands before it. -/
  first? : Option (List Char) := none
  /-- The line breaks after the first. -/
  more : List Char := []
deriving DecidableEq, Repr

namespace Gap

/-- What a gap is in the content of a text: one line break becomes a space, and of several the
first is dropped. -/
def text (g : Gap) : List Char :=
  match g.first? with
  | none => g.blanks
  | some ['\n'] => if g.more.isEmpty then [' '] else g.more
  | some first => first ++ g.more

/-- Reads on in a gap. After a line break no tab may stand in a column below `indent`. -/
def read (indent : Nat) : (fuel : Nat) → Gap → Cursor → Option (Gap × Cursor)
  | 0, g, c => some (g, c)
  | fuel + 1, g, c =>
    match c.next? with
    | none => some (g, c)
    | some x =>
      if isGap x then
        if g.first?.isNone then read indent fuel { g with blanks := g.blanks ++ [x] } (c.skip 1)
        else if x = '\t' ∧ c.column < indent then none
        else read indent fuel g (c.skip 1)
      else if isBreak x then
        let (text, c) := c.lineBreak
        if g.first?.isNone then read indent fuel { g with first? := some text } c
        else read indent fuel { g with more := g.more ++ text } c
      else some (g, c)

end Gap
end NetworkTime.Config.Yaml
