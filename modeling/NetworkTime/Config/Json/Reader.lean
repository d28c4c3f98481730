import NetworkTime.Config.Json.Token
import NetworkTime.Config.Setting

/-! Reading a configuration from the tokens of a JSON text. Settings stand in objects, or in lists
in their order; what a configuration does not know is passed over. The first fault from the left
decides. -/

namespace NetworkTime.Config.Json

/-- The fault of tokens that do not start with the kind of value asked for. -/
def mismatch : List Token → Fault
  | [] => .unfinished
  | .null :: _ | .bool _ :: _ | .openBrace :: _ | .openBracket :: _ => .unfitting
  | .number .beyond :: _ => .malformed
  | .number _ :: _ => .unfitting
  | .text (some _) :: _ => .unfitting
  | .text none :: _ => .malformed
  | .broken _ reading _ :: _ => reading
  | _ => .malformed

/-- The fault of tokens that do not go on as the grammar asks. -/
def derailed : List Token → Fault
  | [] => .unfinished
  | _ => .malformed

/-- The place within a value that is passed over. -/
inductive Spot
  /-- A value is due. -/
  | value
  /-- A list or an object has just begun. -/
  | opened
  /-- A part of a list or an object is over. -/
  | closed
  /-- A key is due. -/
  | key
  /-- A colon is due. -/
  | colon
deriving DecidableEq, Repr

/-- A place in the collections that are open, each of which is an object or a list. Without a place
the value is over. -/
abbrev Place := Option (List Bool × Spot)

/-- The place after a value. -/
def afterValue : List Bool → Place
  | [] => none
  | stack => some (stack, .closed)

/-- The place after a token that starts a value. -/
def startValue (stack : List Bool) : Token → Except Fault Place
  | .null | .bool _ | .number _ | .text _ => .ok (afterValue stack)
  | .openBracket => .ok (some (false :: stack, .opened))
  | .openBrace => .ok (some (true :: stack, .opened))
  | .broken _ _ passing => .error passing
  | _ => .error .malformed

/-- The place after a key of the object on top. -/
def startKey (stack : List Bool) : Token → Except Fault Place
  | .text _ => .ok (some (true :: stack, .colon))
  | .broken true _ passing => .error passing
  | _ => .error .malformed

/-- The place after a token. -/
def advance : List Bool → Spot → Token → Except Fault Place
  | stack, .value, t => startValue stack t
  | false :: stack, .opened, t =>
    if t = .closeBracket then .ok (afterValue stack) else startValue (false :: stack) t
  | true :: stack, .opened, t =>
    if t = .closeBrace then .ok (afterValue stack) else startKey stack t
  | false :: stack, .closed, .comma => .ok (some (false :: stack, .value))
  | false :: stack, .closed, .closeBracket => .ok (afterValue stack)
  | true :: stack, .closed, .comma => .ok (some (true :: stack, .key))
  | true :: stack, .closed, .closeBrace => .ok (afterValue stack)
  | _ :: stack, .key, t => startKey stack t
  | stack, .colon, .colon => .ok (some (stack, .value))
  | _, _, _ => .error .malformed

/-- Passes over the rest of a value. -/
def pass (stack : List Bool) (spot : Spot) : List Token → Except Fault (List Token)
  | [] => .error .unfinished
  | t :: ts =>
    match advance stack spot t with
    | .error fault => .error fault
    | .ok none => .ok ts
    | .ok (some (stack, spot)) => pass stack spot ts

/-- Passes over the value at the front. -/
def passValue (ts : List Token) : Except Fault (List Token) := pass [] .value ts

def readText : List Token → Except Fault (String × List Token)
  | .text (some s) :: ts => .ok (s, ts)
  | ts => .error (mismatch ts)

/-- The texts of a list after the first one. -/
def readMoreTexts : List Token → Except Fault (List String × List Token)
  | .closeBracket :: ts => .ok ([], ts)
  | .comma :: .closeBracket :: _ => .error .malformed
  | .comma :: .text (some s) :: ts => do
    let (more, rest) ← readMoreTexts ts
    return (s :: more, rest)
  | .comma :: ts => .error (mismatch ts)
  | ts => .error (derailed ts)

def readTexts : List Token → Except Fault (List String × List Token)
  | .openBracket :: .closeBracket :: ts => .ok ([], ts)
  | .openBracket :: .text (some s) :: ts => do
    let (more, rest) ← readMoreTexts ts
    return (s :: more, rest)
  | .openBracket :: ts => .error (mismatch ts)
  | ts => .error (mismatch ts)

def readFlag : List Token → Except Fault (Bool × List Token)
  | .bool b :: ts => .ok (b, ts)
  | ts => .error (mismatch ts)

/-- A whole number from 0 to below `size`. -/
def readWord {α : Type} (size : Nat) (word : Nat → α) :
    List Token → Except Fault (α × List Token)
  | .number (.natural n) :: ts => if n < size then .ok (word n, ts) else .error .unfitting
  | ts => .error (mismatch ts)

/-- A whole number from -128 to 127. -/
def readInt8 : List Token → Except Fault (Int8 × List Token)
  | .number (.natural n) :: ts =>
    if n ≤ 127 then .ok (Int8.ofInt n, ts) else .error .unfitting
  | .number (.negative n) :: ts =>
    if n ≤ 128 then .ok (Int8.ofInt (-n), ts) else .error .unfitting
  | ts => .error (mismatch ts)

/-- One of the names, or an object whose only key is one of the names and whose value is null. -/
def readName {α : Type} (names : List (String × α)) :
    List Token → Except Fault (α × List Token)
  | .text (some s) :: ts =>
    match names.lookup s with
    | some x => .ok (x, ts)
    | none => .error .unfitting
  | .openBrace :: .text (some s) :: ts =>
    match names.lookup s with
    | none => .error .unfitting
    | some x =>
      match ts with
      | .colon :: .null :: .closeBrace :: ts => .ok (x, ts)
      | .colon :: .null :: ts => .error (derailed ts)
      | .colon :: ts => .error (mismatch ts)
      | ts => .error (derailed ts)
  | .openBrace :: .broken true reading _ :: _ => .error reading
  | .openBrace :: ts => .error (derailed ts)
  | .broken true reading _ :: _ => .error reading
  | ts => .error (derailed ts)

/-- The value of a setting. -/
def readValue : (k : Kind) → List Token → Except Fault (k.Value × List Token)
  | .text, ts => readText ts
  | .texts, ts => readTexts ts
  | .flag, ts => readFlag ts
  | .word8, ts => readWord UInt8.size UInt8.ofNat ts
  | .word16, ts => readWord UInt16.size UInt16.ofNat ts
  | .word32, ts => readWord UInt32.size UInt32.ofNat ts
  | .word64, ts => readWord UInt64.size UInt64.ofNat ts
  | .int8, ts => readInt8 ts
  | .leap, ts => readName leapNames ts
  | .level, ts => readName levelNames ts
  | .destination, ts => readName destinationNames ts

/-- A part of a record: its name, and how its value changes the record. -/
structure Field (σ : Type) where
  name : String
  read : σ → List Token → Except Fault (σ × List Token)

variable {σ : Type}

/-- The colon after a key. -/
def readColon : List Token → Except Fault (List Token)
  | .colon :: ts => .ok ts
  | ts => .error (derailed ts)

/-- The value of a member under its key. A known key may come once only. -/
def readMember (fields : List (Field σ)) (seen : List String) (key : String) (s : σ)
    (ts : List Token) : Except Fault (σ × List Token) :=
  match fields.find? (·.name == key) with
  | none => do
    let rest ← passValue (← readColon ts)
    return (s, rest)
  | some field =>
    if seen.contains key then .error .unfitting
    else do field.read s (← readColon ts)

/-- The members of an object. `key` says whether a key is due, as it is after a comma. -/
def readMembers (fields : List (Field σ)) :
    (fuel : Nat) → (key : Bool) → (seen : List String) → σ → List Token →
      Except Fault (σ × List Token)
  | 0, _, _, _, _ => .error .malformed
  | fuel + 1, true, seen, s, ts =>
    match ts with
    | .text (some key) :: ts => do
      let (s, rest) ← readMember fields seen key s ts
      readMembers fields fuel false (key :: seen) s rest
    | .broken true reading _ :: _ => .error reading
    | ts => .error (derailed ts)
  | fuel + 1, false, seen, s, ts =>
    match ts with
    | .closeBrace :: ts => .ok (s, ts)
    | .comma :: ts => readMembers fields fuel true seen s ts
    | ts => .error (derailed ts)

/-- The values of a list, one for each field until there are no more of the one or the other. -/
def readItems : (fields : List (Field σ)) → (first : Bool) → σ → List Token →
    Except Fault (σ × List Token)
  | _, _, s, .closeBracket :: ts => .ok (s, ts)
  | [], _, _, ts => .error (derailed ts)
  | _ :: _, _, _, [] => .error .unfinished
  | field :: fields, true, s, ts => do
    let (s, rest) ← field.read s ts
    readItems fields false s rest
  | field :: fields, false, s, ts =>
    match ts with
    | .comma :: .closeBracket :: _ => .error .malformed
    | .comma :: ts => do
      let (s, rest) ← field.read s ts
      readItems fields false s rest
    | _ => .error .malformed

/-- A record of fields. -/
def readRecord (fields : List (Field σ)) (s : σ) : List Token → Except Fault (σ × List Token)
  | .openBrace :: .closeBrace :: ts => .ok (s, ts)
  | .openBrace :: ts => readMembers fields (ts.length + 1) true [] s ts
  | .openBracket :: ts => readItems fields true s ts
  | ts => .error (mismatch ts)

def settingField (setting : Setting) : Field Config where
  name := setting.name
  read c ts := do
    let (v, rest) ← readValue setting.kind ts
    return (c.set setting v, rest)

def sectionField (sec : Section) : Field Config where
  name := sec.name
  read := readRecord (sec.settings.map settingField)

/-- The configuration that a text writes. Nothing may follow it. -/
def parse (text : String) : Except Fault Config := do
  let (config, rest) ← readRecord (Section.all.map sectionField) {} (tokens text.toList)
  if rest.isEmpty then return config else throw .malformed

end NetworkTime.Config.Json
