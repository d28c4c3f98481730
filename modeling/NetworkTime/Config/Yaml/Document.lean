import NetworkTime.Config.Yaml.Event

/-! The one document that a YAML text may hold: its events, with the anchors numbered as aliases
find them. -/

namespace NetworkTime.Config.Yaml

/-- The directives of a document: whether a version is among them, and the handles they give. -/
structure Directives where
  versioned : Bool := false
  handles : Handles := []
deriving DecidableEq, Repr

namespace Directives

/-- Reads directives. Only the versions 1.1 and 1.2 are known, and nothing may be said twice. -/
def read? (d : Directives) : List Token → Option (Directives × List Token)
  | .versionDirective major minor :: ts =>
    if d.versioned || major ≠ 1 || (minor ≠ 1 && minor ≠ 2) then none
    else read? { d with versioned := true } ts
  | .tagDirective handle start :: ts =>
    if (d.handles.lookup handle).isSome then none
    else read? { d with handles := d.handles ++ [(handle, start)] } ts
  | ts => some (d, ts)

end Directives

/-- Whether a document that was begun explicitly is empty. -/
def isContentOmitted : List Token → Bool
  | [] | .versionDirective .. :: _ | .tagDirective .. :: _ | .documentStart :: _
  | .documentEnd :: _ => true
  | _ => false

/-- The events of the first document, which is none in an empty text, and the tokens after it. -/
def firstDocument? (ts : List Token) : Grammar.Parsed := do
  let fuel := 2 * ts.length + 2
  match ts with
  | [] => return ([], [])
  | .versionDirective .. :: _ | .tagDirective .. :: _ | .documentStart :: _ =>
    match ← Directives.read? {} ts with
    | (d, .documentStart :: ts) =>
      if isContentOmitted ts then return ([.empty], ts)
      else Grammar.node (d.handles ++ Handles.standard) true false fuel ts
    | _ => none
  | ts => Grammar.node Handles.standard true false fuel ts

/-- The events of a text that holds one document at most. -/
def events? (cs : List Char) : Option (List (Event (List Char))) := do
  let (es, ts) ← firstDocument? (← tokens? cs)
  if (ts.dropWhile (· == .documentEnd)).isEmpty then some es else none

/-- The number of each anchor that is known by a name. -/
abbrev AnchorNumbers := List (List Char × Nat)

/-- Numbers an anchor by the count of names before it, so that a name which is used again can give
its number away. -/
def AnchorNumbers.define (ns : AnchorNumbers) (name : List Char) : Nat × AnchorNumbers :=
  (ns.length, (name, ns.length) :: ns.filter (·.1 ≠ name))

/-- Numbers the anchors. An alias must come after the anchor that it means. -/
def number? (ns : AnchorNumbers) : List (Event (List Char)) → Option (List (Event Nat))
  | [] => some []
  | e :: es => do
    let (anchor, ns') := match e.anchor? with
      | some name =>
        let (n, ns') := ns.define name
        (some n, ns')
      | none => (none, ns)
    let e' : Event Nat ← match e with
      | .aliasTo name => (ns.lookup name).map .aliasTo
      | .scalar _ tag style content => some (.scalar anchor tag style content)
      | .sequence _ tag => some (.sequence anchor tag)
      | .sequenceEnd => some .sequenceEnd
      | .mapping _ tag => some (.mapping anchor tag)
      | .mappingEnd => some .mappingEnd
    return e' :: (← number? ns' es)

/-- The events of a text from each anchor on, the last anchor first. -/
def targets : List (Event Nat) → List (Nat × List (Event Nat))
  | [] => []
  | e :: es => targets es ++ (e.anchor?.map fun n => (n, e :: es)).toList

/-- The events of a text, and where its aliases lead. -/
structure Document where
  events : List (Event Nat)
  targets : List (Nat × List (Event Nat))
deriving DecidableEq, Repr

/-- The characters that a text may hold: no control characters but tabs and line breaks. -/
def isAllowed (c : Char) : Bool :=
  let n := c.toNat
  n == 0x9 || n == 0xA || n == 0xD || (0x20 ≤ n && n ≤ 0x7E) || n == 0x85 ||
    (0xA0 ≤ n && n ≤ 0xFFFD) ||
    0x10000 ≤ n

def Document.read? (cs : List Char) : Option Document := do
  if !cs.all isAllowed then none
  else
    let es ← number? [] (← events? cs)
    return ⟨es, Yaml.targets es⟩

end NetworkTime.Config.Yaml
