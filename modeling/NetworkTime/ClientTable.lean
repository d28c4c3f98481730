import NetworkTime.Address
import NetworkTime.RateLimit

/-! The clients that a server remembers, a bounded number of them. A full table forgets the clients
not seen for a day, or else the one not seen for the longest time. -/

namespace NetworkTime

/-- What is known of each client, in the order in which they came. -/
structure ClientTable where
  entries : List (Address × Client)
  capacity : Nat
deriving DecidableEq, Repr

namespace ClientTable

/-- The time after which a client is forgotten first. -/
def staleAfter : Nat := 24 * 3600 * 1000000000

/-- A table with room for `capacity` clients, and for one at least. -/
def empty (capacity : Nat) : ClientTable := ⟨[], max capacity 1⟩

def size (t : ClientTable) : Nat := t.entries.length

def isEmpty (t : ClientTable) : Bool := t.entries.isEmpty

def find? (t : ClientTable) (a : Address) : Option Client := t.entries.lookup a

def contains (t : ClientTable) (a : Address) : Bool := (t.find? a).isSome

/-- The entry of a client is changed, or made last. -/
def put (t : ClientTable) (a : Address) (c : Client) : ClientTable :=
  if t.contains a then
    { t with entries := t.entries.map fun e => if e.1 = a then (a, c) else e }
  else { t with entries := t.entries ++ [(a, c)] }

def erase (t : ClientTable) (a : Address) : ClientTable :=
  { t with entries := t.entries.filter fun e => e.1 ≠ a }

/-- The first of the clients not seen for the longest time. Of several that were last seen at one
moment the order of the entries decides, and no result about the table depends on which it is. -/
def oldest? : List (Address × Client) → Option (Address × Client)
  | [] => none
  | e :: es => match oldest? es with
    | none => some e
    | some f => if f.2.lastSeen < e.2.lastSeen then some f else some e

/-- Forgets the clients not seen for a day, or one client if there are none such. -/
def makeRoom (t : ClientTable) (now : Nat) : ClientTable :=
  let kept := { t with entries := t.entries.filter fun e => now - e.2.lastSeen < staleAfter }
  if kept.size < t.capacity then kept
  else match oldest? kept.entries with
    | some e => kept.erase e.1
    | none => kept

/-- Makes room for a client if it is new and the table is full. -/
def roomFor (t : ClientTable) (a : Address) (now : Nat) : ClientTable :=
  if !t.contains a && t.capacity ≤ t.size then t.makeRoom now else t

/-- Records a request of a client and judges it. -/
def judge (t : ClientTable) (a : Address) (now : Nat) (limit : RateLimit) :
    Verdict × ClientTable :=
  let t := t.roomFor a now
  let c := (t.find? a).getD (.new now)
  let (verdict, c) := Client.judge { c with lastSeen := now } now limit
  (verdict, t.put a c)

end ClientTable
end NetworkTime
