import NetworkTime.Config.Yaml.Lexer

/-! The values of a YAML text as a list of events: texts, aliases, and the starts and ends of
sequences and mappings. -/

namespace NetworkTime.Config.Yaml

/-- Events whose anchors are named by values of a type. -/
inductive Event (α : Type)
  | aliasTo (anchor : α)
  | scalar (anchor : Option α) (tag : Option Tag.Content) (style : Style) (content : List Char)
  | sequence (anchor : Option α) (tag : Option Tag.Content)
  | sequenceEnd
  | mapping (anchor : Option α) (tag : Option Tag.Content)
  | mappingEnd
deriving DecidableEq, Repr

namespace Event
variable {α : Type}

def anchor? : Event α → Option α
  | scalar anchor .. => anchor
  | sequence anchor _ => anchor
  | mapping anchor _ => anchor
  | _ => none

/-- A plain text of no characters, which stands where a value is left out. -/
def empty : Event α := scalar none none .plain []

end Event

/-- What stands before a value: an anchor and a tag. -/
structure Properties where
  anchor : Option (List Char) := none
  tag : Option Tag.Content := none
deriving DecidableEq, Repr

/-- What the handles of tags stand for. -/
abbrev Handles := List (List Char × Tag.Content)

namespace Handles

/-- The handles that stand for something in every document. -/
def standard : Handles :=
  [(['!'], .ofChars ['!']), (['!', '!'], .ofChars "tag:yaml.org,2002:".toList)]

/-- The tag of a handle and a suffix. -/
def tag? (hs : Handles) (handle : List Char) (suffix : Tag.Content) : Option Tag.Content :=
  if handle.isEmpty then some suffix else (hs.lookup handle).map (· ++ suffix)

/-- The anchor and the tag before a value, in either order. -/
def properties? (hs : Handles) : List Token → Option (Properties × List Token)
  | .anchor name :: .tag handle suffix :: ts => do
    return ({ anchor := some name, tag := some (← hs.tag? handle suffix) }, ts)
  | .anchor name :: ts => some ({ anchor := some name }, ts)
  | .tag handle suffix :: .anchor name :: ts => do
    return ({ anchor := some name, tag := some (← hs.tag? handle suffix) }, ts)
  | .tag handle suffix :: ts => do return ({ tag := some (← hs.tag? handle suffix) }, ts)
  | ts => some ({}, ts)

end Handles

namespace Grammar

/-- Events, and the tokens after them. -/
abbrev Parsed := Option (List (Event (List Char)) × List Token)

/-- More events before those that were read. -/
def after (es : List (Event (List Char))) (parsed : Parsed) : Parsed :=
  parsed.map fun (more, ts) => (es ++ more, ts)

/-- Whether a part of a mapping in a block is left out. -/
def isOmittedInBlock : List Token → Bool
  | .key :: _ | .value :: _ | .blockEnd :: _ => true
  | _ => false

/-- Whether an entry of a sequence in a block is left out. -/
def isOmittedEntry : List Token → Bool
  | .entry :: _ | .blockEnd :: _ => true
  | _ => false

/-- Whether a part of a flow collection is left out. -/
def isOmittedInFlow : List Token → Bool
  | .comma :: _ | .closeBracket :: _ | .closeBrace :: _ => true
  | _ => false

/-- The tokens after the comma that parts of a collection but the first start with. -/
def afterComma (first : Bool) : List Token → Option (List Token)
  | .comma :: ts => if first then some (.comma :: ts) else some ts
  | ts => if first then some ts else none

variable (hs : Handles)

mutual

/-- A value. `block` says whether it may be a block, and `entries` whether entries may follow it
without an indentation of their own. -/
def node (block entries : Bool) : (fuel : Nat) → List Token → Parsed
  | 0, _ => none
  | _ + 1, .aliasTo name :: ts => some ([.aliasTo name], ts)
  | fuel + 1, ts => do
    let (p, ts) ← hs.properties? ts
    match ts with
    | .scalar style content :: ts => return ([.scalar p.anchor p.tag style content], ts)
    | .openBracket :: ts => after [.sequence p.anchor p.tag] (flowItems true fuel ts)
    | .openBrace :: ts => after [.mapping p.anchor p.tag] (flowPairs true fuel ts)
    | .entry :: _ =>
      if entries then after [.sequence p.anchor p.tag] (bareItems fuel ts) else omitted p ts
    | .blockSequence :: more =>
      if block then after [.sequence p.anchor p.tag] (blockItems fuel more) else omitted p ts
    | .blockMapping :: more =>
      if block then after [.mapping p.anchor p.tag] (blockPairs fuel more) else omitted p ts
    | ts => omitted p ts
where
  /-- A value that is left out after its properties. -/
  omitted (p : Properties) (ts : List Token) : Parsed :=
    if p.anchor.isNone && p.tag.isNone then none
    else some ([.scalar p.anchor p.tag .plain []], ts)

/-- The entries of a sequence with an indentation of its own. -/
def blockItems : (fuel : Nat) → List Token → Parsed
  | 0, _ => none
  | fuel + 1, .entry :: ts =>
    if isOmittedEntry ts then after [.empty] (blockItems fuel ts)
    else do
      let (es, ts) ← node true false fuel ts
      after es (blockItems fuel ts)
  | _ + 1, .blockEnd :: ts => some ([.sequenceEnd], ts)
  | _, _ => none

/-- The entries of a sequence without an indentation of its own. -/
def bareItems : (fuel : Nat) → List Token → Parsed
  | 0, _ => none
  | fuel + 1, .entry :: ts =>
    if isOmittedEntry ts || isOmittedInBlock ts then after [.empty] (bareItems fuel ts)
    else do
      let (es, ts) ← node true false fuel ts
      after es (bareItems fuel ts)
  | _, ts => some ([.sequenceEnd], ts)

/-- A part of a mapping in a block. -/
def blockPart : (fuel : Nat) → List Token → Parsed
  | 0, _ => none
  | fuel + 1, ts => if isOmittedInBlock ts then some ([.empty], ts) else node true true fuel ts

/-- The keys and values of a mapping in a block. -/
def blockPairs : (fuel : Nat) → List Token → Parsed
  | 0, _ => none
  | fuel + 1, .key :: ts => do
    let (key, ts) ← blockPart fuel ts
    let (value, ts) ← match ts with
      | .value :: ts => blockPart fuel ts
      | ts => some ([.empty], ts)
    after (key ++ value) (blockPairs fuel ts)
  | _ + 1, .blockEnd :: ts => some ([.mappingEnd], ts)
  | _, _ => none

/-- The value after a key in a flow collection. -/
def flowValue : (fuel : Nat) → List Token → Parsed
  | 0, _ => none
  | fuel + 1, .value :: ts =>
    if isOmittedInFlow ts then some ([.empty], ts) else node false false fuel ts
  | _, ts => some ([.empty], ts)

/-- The parts of a flow sequence. A key and a value among them are a mapping of their own; where
that key is left out, so is the token after it. -/
def flowItems (first : Bool) : (fuel : Nat) → List Token → Parsed
  | 0, _ => none
  | _ + 1, .closeBracket :: ts => some ([.sequenceEnd], ts)
  | fuel + 1, ts => do
    match ← afterComma first ts with
    | .closeBracket :: ts => return ([.sequenceEnd], ts)
    | .key :: ts =>
      let (key, ts) ← match ts with
        | .value :: ts | .comma :: ts | .closeBracket :: ts => some ([.empty], ts)
        | ts => node false false fuel ts
      let (value, ts) ← flowValue fuel ts
      after (.mapping none none :: key ++ value ++ [.mappingEnd]) (flowItems false fuel ts)
    | ts =>
      let (es, ts) ← node false false fuel ts
      after es (flowItems false fuel ts)

/-- The keys and values of a flow mapping. -/
def flowPairs (first : Bool) : (fuel : Nat) → List Token → Parsed
  | 0, _ => none
  | _ + 1, .closeBrace :: ts => some ([.mappingEnd], ts)
  | fuel + 1, ts => do
    match ← afterComma first ts with
    | .closeBrace :: ts => return ([.mappingEnd], ts)
    | .key :: ts =>
      let (key, ts) ← match ts with
        | .value :: _ | .comma :: _ | .closeBrace :: _ => some ([.empty], ts)
        | ts => node false false fuel ts
      let (value, ts) ← flowValue fuel ts
      after (key ++ value) (flowPairs false fuel ts)
    | ts =>
      let (key, ts) ← node false false fuel ts
      after (key ++ [.empty]) (flowPairs false fuel ts)

end

end Grammar
end NetworkTime.Config.Yaml
