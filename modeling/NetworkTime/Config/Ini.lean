import NetworkTime.Config.Setting
import NetworkTime.Text.Blank
import NetworkTime.Text.Integer
import NetworkTime.Text.Quoted

/-! Configurations as lines of headers and assignments. Each line counts on its own, under the last
header before it. -/

namespace NetworkTime.Config

/-- Why a text is no value of a setting. -/
inductive ValueFault
  | number (value : String) (fault : Text.NumberFault)
  | flag (value : String)
  | unknownName (value lowered : String) (names : List String)
deriving DecidableEq, Repr

namespace ValueFault
open Text

def message : ValueFault → String
  | number value fault => s!"{Quoted.text value}: {fault.message}"
  | flag value => s!"expected a boolean, got {Quoted.text value}"
  | unknownName value lowered names =>
    let known := ", ".intercalate (names.map fun name => s!"`{name}`")
    s!"{Quoted.text value}: unknown variant `{lowered}`, expected one of {known}"

end ValueFault

namespace Kind
open Text

def readWord {α : Type} (size : Nat) (word : Nat → α) (value : String) : Except ValueFault α :=
  match natural 10 (size - 1) value.toList with
  | .ok n => .ok (word n)
  | .error fault => .error (.number value fault)

def readFlag (value : String) : Except ValueFault Bool :=
  let low := String.ofList (lowered value.toList)
  if ["true", "yes", "on", "1"].contains low then .ok true
  else if ["false", "no", "off", "0"].contains low then .ok false
  else .error (.flag value)

def readName {α : Type} (names : List (String × α)) (value : String) : Except ValueFault α :=
  let low := String.ofList (lowered value.toList)
  match names.lookup low with
  | some x => .ok x
  | none => .error (.unknownName value low (names.map Prod.fst))

/-- The parts between commas, without the blanks around them and without those that are empty. -/
def readTexts (value : String) : List String :=
  (((splitOn ',' value.toList).map trim).filter fun part => !part.isEmpty).map String.ofList

/-- The value that a text gives to a setting. -/
def read : (k : Kind) → String → Except ValueFault k.Value
  | text, value => .ok value
  | texts, value => .ok (readTexts value)
  | flag, value => readFlag value
  | word8, value => readWord UInt8.size UInt8.ofNat value
  | word16, value => readWord UInt16.size UInt16.ofNat value
  | word32, value => readWord UInt32.size UInt32.ofNat value
  | word64, value => readWord UInt64.size UInt64.ofNat value
  | int8, value =>
    match integer 10 127 value.toList with
    | .ok n => .ok (Int8.ofInt n)
    | .error fault => .error (.number value fault)
  | leap, value => readName leapNames value
  | level, value => readName levelNames value
  | destination, value => readName destinationNames value

end Kind

/-- Why an assignment is refused. -/
inductive AssignFault
  | unknownSection (name : String)
  | unknownKey (key : String)
  | badValue (key : String) (fault : ValueFault)
deriving DecidableEq, Repr

def AssignFault.message : AssignFault → String
  | unknownSection name => s!"unknown section [{name}]"
  | unknownKey key => s!"unknown key {Text.Quoted.text key}"
  | badValue key fault => s!"{key}: {fault.message}"

/-- The sections that a header opens. Without a header every section is open. -/
def Section.named? (name : String) : Option (List Section) :=
  if name = "" then some all else (all.find? (·.headers.contains name)).map ([·])

/-- Assigns a value to the setting that the key names in the first section that knows it. -/
def assign (c : Config) (sectionName key value : String) : Except AssignFault Config :=
  let key := String.ofList (Text.lowered key.toList)
  match Section.named? sectionName with
  | none => .error (.unknownSection sectionName)
  | some sections =>
    match sections.findSome? (·.setting? key) with
    | none => .error (.unknownKey key)
    | some s =>
      match s.kind.read value with
      | .ok v => .ok (c.set s v)
      | .error fault => .error (.badValue key fault)

/-- Changes to a configuration in place. What one of them has changed stays so if a later one is
refused. -/
abbrev Editing := ExceptT AssignFault (StateM Config)

/-- Puts the value that a text gives in the place of a setting. -/
def enterAt (s : Setting) (key value : String) : Editing Unit := do
  match s.kind.read value with
  | .ok v => modify (·.set s v)
  | .error fault => throw (.badValue key fault)

/-- Asks one section after the other for the setting that the key names. -/
def enterIn (key value : String) : List Section → Editing Unit
  | [] => throw (.unknownKey key)
  | sec :: sections =>
    match sec.setting? key with
    | some s => enterAt s key value
    | none => enterIn key value sections

/-- Assigns a value in place. -/
def enter (sectionName key value : String) : Editing Unit :=
  match Section.named? sectionName with
  | none => throw (.unknownSection sectionName)
  | some sections => enterIn (String.ofList (Text.lowered key.toList)) value sections

namespace Ini
open Text

/-- What one line says. -/
inductive Line
  | blank
  | header (name : String)
  | assignment (key value : String)
deriving DecidableEq, Repr

/-- Why a line is refused. -/
inductive LineFault
  | unterminatedHeader (line : String)
  | noAssignment (line : String)
  | assignment (fault : AssignFault)
deriving DecidableEq, Repr

def LineFault.message : LineFault → String
  | unterminatedHeader line => s!"unterminated section header {Quoted.text line}"
  | noAssignment line => s!"expected key = value, got {Quoted.text line}"
  | assignment fault => fault.message

/-- A text without a given last character, if it ends in it. -/
def dropSuffix? (c : Char) (cs : List Char) : Option (List Char) :=
  if cs.getLast? = some c then some cs.dropLast else none

/-- A text without the one pair of quotes around it, if there is one. -/
def unquote (cs : List Char) : List Char :=
  match cs with
  | '"' :: inner => (dropSuffix? '"' inner).getD cs
  | _ => cs

def Line.read (raw : List Char) : Except LineFault Line :=
  match trim raw with
  | [] => .ok .blank
  | '#' :: _ => .ok .blank
  | ';' :: _ => .ok .blank
  | '[' :: name =>
    match dropSuffix? ']' name with
    | some name => .ok (.header (String.ofList (lowered (trim name))))
    | none => .error (.unterminatedHeader (String.ofList ('[' :: name)))
  | line =>
    match splitOnce '=' line with
    | some (key, value) =>
      .ok (.assignment (String.ofList (trim key)) (String.ofList (unquote (trim value))))
    | none => .error (.noAssignment (String.ofList line))

/-- A configuration in the making, and the header that is open. -/
structure Reading where
  config : Config := {}
  sectionName : String := ""
deriving DecidableEq, Repr

/-- Reads one line. -/
def Reading.line (r : Reading) (raw : List Char) : Except LineFault Reading :=
  match Line.read raw with
  | .error fault => .error fault
  | .ok .blank => .ok r
  | .ok (.header name) => .ok { r with sectionName := name }
  | .ok (.assignment key value) =>
    match r.config.assign r.sectionName key value with
    | .ok config => .ok { r with config }
    | .error fault => .error (.assignment fault)

/-- The first line that is refused. -/
structure Fault where
  line : Nat
  fault : LineFault
deriving DecidableEq, Repr

def Fault.message (f : Fault) : String := s!"invalid INI config at line {f.line}: {f.fault.message}"

/-- Reads lines, of which the first has the given number. -/
def Reading.lines (r : Reading) (number : Nat) : List (List Char) → Except Fault Reading
  | [] => .ok r
  | raw :: raws =>
    match r.line raw with
    | .error fault => .error ⟨number, fault⟩
    | .ok r => r.lines (number + 1) raws

def parse (text : String) : Except Fault Config :=
  (Reading.lines {} 1 (splitOn '\n' text.toList)).map Reading.config

end Ini
end NetworkTime.Config
