import NetworkTime.Config.Setting
import NetworkTime.Config.Yaml.Document
import NetworkTime.Text.Blank

/-! Reading a configuration from the events of a YAML text. What a configuration does not know is
passed over. -/

namespace NetworkTime.Config.Yaml

abbrev Events := List (Event Nat)

/-- Where aliases lead. -/
abbrev Targets := List (Nat × Events)

/-- A value, and the events after it. -/
abbrev Read (α : Type) := Events → Option (α × Events)

/-- Reads a value, or the one that an alias stands for. -/
def Targets.follow {α : Type} (targets : Targets) (read : Read α) : Read α
  | .aliasTo n :: es => do
    let (x, _) ← read (← targets.lookup n)
    return (x, es)
  | es => read es

/-- Passes over a value within `depth` collections that end with it. -/
def pass : (depth : Nat) → Events → Option Events
  | _, [] => none
  | 0, .aliasTo _ :: es | 0, .scalar .. :: es => some es
  | depth + 1, .aliasTo _ :: es | depth + 1, .scalar .. :: es => pass (depth + 1) es
  | depth, .sequence .. :: es | depth, .mapping .. :: es => pass (depth + 1) es
  | 0, .sequenceEnd :: _ | 0, .mappingEnd :: _ => none
  | 1, .sequenceEnd :: es | 1, .mappingEnd :: es => some es
  | depth + 2, .sequenceEnd :: es | depth + 2, .mappingEnd :: es => pass (depth + 1) es

def readText : Read String
  | .scalar _ _ _ content :: es => some (String.ofList content, es)
  | _ => none

/-- Whether a text can be a value that is no text: it is plain, or a block with the tag of the
value. -/
def isTyped (kind : String) (tag : Option Tag.Content) (style : Style) : Bool :=
  style == .plain ||
    (style == .literal && tag == some (.ofChars ("tag:yaml.org,2002:" ++ kind).toList))

/-- The names of the two flags. -/
def flag? (content : List Char) : Option Bool :=
  if ["true", "True", "TRUE"].contains (String.ofList content) then some true
  else if ["false", "False", "FALSE"].contains (String.ofList content) then some false
  else none

def readFlag : Read Bool
  | .scalar _ tag style content :: es => do
    if isTyped "bool" tag style then return (← flag? content, es) else none
  | _ => none

/-- Digits after a mark of their base, without a sign. -/
def basedDigits? : List Char → Option Nat
  | '0' :: mark :: ds =>
    let base? := if mark = 'x' then some 16 else if mark = 'o' then some 8
      else if mark = 'b' then some 2 else none
    base?.bind fun base =>
      if ds.isEmpty then none
      else (ds.mapM (Text.digitValue base)).map (Positional.value base)
  | _ => none

/-- Decimal digits without a sign, of which the first is not a zero before others. -/
def decimalDigits? : List Char → Option Nat
  | [] => none
  | '0' :: _ :: _ => none
  | ds => (ds.mapM (Text.digitValue 10)).map (Positional.value 10)

def digits? (ds : List Char) : Option Nat := (basedDigits? ds).or (decimalDigits? ds)

/-- A whole number of any size, with or without a sign. -/
def number : List Char → Option Int
  | '+' :: ds => (digits? ds).map Int.ofNat
  | '-' :: ds => (digits? ds).map fun n => -(n : Int)
  | ds => (digits? ds).map Int.ofNat

/-- A whole number of a text that has no minus sign. -/
def unsigned? (content : List Char) : Option Nat :=
  if content.head? = some '-' then none else (number content).map Int.toNat

/-- A whole number from 0 to below `size`. -/
def readWord {α : Type} (size : Nat) (word : Nat → α) : Read α
  | .scalar _ tag style content :: es => do
    if isTyped "int" tag style then
      let n ← unsigned? content
      if n < size then some (word n, es) else none
    else none
  | _ => none

/-- A whole number from -128 to 127. -/
def readInt8 : Read Int8
  | .scalar _ tag style content :: es => do
    if isTyped "int" tag style then
      let n ← number content
      if -128 ≤ n ∧ n ≤ 127 then some (Int8.ofInt n, es) else none
    else none
  | _ => none

/-- The texts that stand for no value. -/
def isNull (content : List Char) : Bool :=
  ["", "null", "Null", "NULL", "~"].contains (String.ofList content)

/-- The name that a tag gives: the text after its exclamation mark. -/
def tagName? (tag : Option Tag.Content) : Option String :=
  match tag with
  | some (mark :: name) => if mark = 0x21 then String.fromUTF8? ⟨name.toArray⟩ else none
  | _ => none

/-- One of the names, as a text or as a tag of no value. -/
def readName {α : Type} (names : List (String × α)) : Read α
  | .scalar _ tag style content :: es =>
    match tagName? tag with
    | some name =>
      if style = .plain ∧ isNull content then (names.lookup name).map fun x => (x, es) else none
    | none => (names.lookup (String.ofList content)).map fun x => (x, es)
  | _ => none

/-- The texts of a sequence up to its end. -/
def readItems (targets : Targets) : Events → Option (List String × Events)
  | [] => none
  | .sequenceEnd :: es => some ([], es)
  | e :: es => do
    let (s, _) ← targets.follow readText (e :: es)
    let (more, es) ← readItems targets es
    return (s :: more, es)

/-- A plain text of no characters stands for an empty collection. -/
def readTexts (targets : Targets) : Read (List String)
  | .sequence .. :: es => readItems targets es
  | .scalar _ _ .plain [] :: es => some ([], es)
  | _ => none

/-- The value of a setting. -/
def readValue (targets : Targets) : (k : Kind) → Read k.Value
  | .text => readText
  | .texts => readTexts targets
  | .flag => readFlag
  | .word8 => readWord UInt8.size UInt8.ofNat
  | .word16 => readWord UInt16.size UInt16.ofNat
  | .word32 => readWord UInt32.size UInt32.ofNat
  | .word64 => readWord UInt64.size UInt64.ofNat
  | .int8 => readInt8
  | .leap => readName leapNames
  | .level => readName levelNames
  | .destination => readName destinationNames

/-- A part of a record: its name, and how its value changes the record. -/
structure Field (σ : Type) where
  name : String
  read : σ → Read σ

variable {σ : Type}

/-- The keys of a mapping with their values. A known key may come once only. -/
def readPairs (targets : Targets) (fields : List (Field σ)) :
    (fuel : Nat) → (seen : List String) → σ → Read σ
  | 0, _, _, _ => none
  | _ + 1, _, s, .mappingEnd :: es => some (s, es)
  | fuel + 1, seen, s, es => do
    let (key, es) ← targets.follow readText es
    match fields.find? (·.name == key) with
    | none => readPairs targets fields fuel seen s (← pass 0 es)
    | some field =>
      if seen.contains key then none
      else
        let (s, es) ← targets.follow (field.read s) es
        readPairs targets fields fuel (key :: seen) s es

/-- A record of fields. -/
def readRecord (targets : Targets) (fields : List (Field σ)) (s : σ) : Read σ
  | .mapping .. :: es => readPairs targets fields (es.length + 1) [] s es
  | .scalar _ _ .plain [] :: es => some (s, es)
  | _ => none

def settingField (targets : Targets) (setting : Setting) : Field Config where
  name := setting.name
  read c es := do
    let (v, es) ← readValue targets setting.kind es
    return (c.set setting v, es)

def sectionField (targets : Targets) (sec : Section) : Field Config where
  name := sec.name
  read := readRecord targets (sec.settings.map (settingField targets))

/-- The configuration that a document writes. No document writes no setting. -/
def ofDocument (d : Document) : Option Config :=
  if d.events.isEmpty then some {}
  else (readRecord d.targets (Section.all.map (sectionField d.targets)) {} d.events).map Prod.fst

/-- The configuration that a text writes. A text of blanks writes no setting. -/
def parse? (text : String) : Option Config := do
  if (Text.trim text.toList).isEmpty then return {}
  else ofDocument (← Document.read? text.toList)

end NetworkTime.Config.Yaml
