import NetworkTime.Config
import NetworkTime.Text.Blank
import NetworkTime.Text.Integer

/-! The command line: options, and what is to be done. Every option may be given once. -/

namespace NetworkTime

/-- What the program is asked to do. -/
inductive Command
  | start
  | testConfig
deriving DecidableEq, Repr, Inhabited

/-- What the command line says. A value that is given wins over the configuration. -/
structure CommandLine where
  config : Option String := none
  listen : Option String := none
  port : Option UInt16 := none
  stratum : Option UInt8 := none
  referenceId : Option String := none
  workers : Option UInt64 := none
  verbose : Bool := false
  foreground : Bool := false
  command : Command := .start
deriving DecidableEq, Repr, Inhabited

namespace CommandLine

/-- Why a command line is not followed: it is malformed, or it asks for help. -/
inductive Refusal
  | malformed
  | help
deriving DecidableEq, Repr

/-- The options that take a value. -/
inductive Parameter
  | config
  | listen
  | port
  | stratum
  | referenceId
  | workers
deriving DecidableEq, Repr

/-- The options that stand alone. -/
inductive Flag
  | verbose
  | foreground
  | help
deriving DecidableEq, Repr

/-- An option of either kind. -/
inductive Switch
  | flag (flag : Flag)
  | parameter (parameter : Parameter)
deriving DecidableEq, Repr

/-- The options by the names that follow two dashes. -/
def longNames : List (String × Switch) :=
  [("config", .parameter .config), ("listen", .parameter .listen), ("port", .parameter .port),
   ("stratum", .parameter .stratum), ("reference-id", .parameter .referenceId),
   ("workers", .parameter .workers), ("verbose", .flag .verbose),
   ("foreground", .flag .foreground), ("help", .flag .help)]

/-- The options by the letters that follow one dash. -/
def letters : List (Char × Switch) :=
  [('c', .parameter .config), ('V', .flag .verbose), ('f', .flag .foreground), ('h', .flag .help)]

/-- The command line in short. -/
def usage : String :=
  "usage: simple-ntpd [-c FILE] [-V] [-f] [--listen ADDR] [--port PORT] [--stratum LEVEL] " ++
    "[--reference-id ID] [--workers N] [start | test-config]"

/-- The commands by name. -/
def commands : List (String × Command) := [("start", .start), ("test-config", .testConfig)]

/-- A whole number of 64 bits with a sign that lies in a range from 0 on. -/
def numberIn? (least most : Nat) (value : String) : Option Nat :=
  match Text.integer 10 0x7fffffffffffffff value.toList with
  | .ok n => if (least : Int) ≤ n ∧ n ≤ most then some n.toNat else none
  | .error _ => none

/-- A whole number of 64 bits without a minus sign. -/
def word64? (value : String) : Option UInt64 :=
  match Text.natural 10 (UInt64.size - 1) value.toList with
  | .ok n => some (UInt64.ofNat n)
  | .error _ => none

/-- The value of an option that may be given once only. -/
def once {α : Type} (given : Option α) (value : Option α) : Option (Option α) :=
  if given.isSome then none else value.map some

/-- Gives an option a value. -/
def give? (c : CommandLine) (p : Parameter) (value : String) : Option CommandLine :=
  match p with
  | .config => do
    return { c with config := ← once c.config (if value = "" then none else some value) }
  | .listen => do return { c with listen := ← once c.listen (some value) }
  | .port => do
    return { c with port := ← once c.port ((numberIn? 0 65535 value).map UInt16.ofNat) }
  | .stratum => do
    return { c with stratum := ← once c.stratum ((numberIn? 1 15 value).map UInt8.ofNat) }
  | .referenceId => do return { c with referenceId := ← once c.referenceId (some value) }
  | .workers => do return { c with workers := ← once c.workers (word64? value) }

/-- Gives an option that stands alone. -/
def raise (c : CommandLine) : Flag → Except Refusal CommandLine
  | .help => .error .help
  | .verbose => if c.verbose then .error .malformed else .ok { c with verbose := true }
  | .foreground => if c.foreground then .error .malformed else .ok { c with foreground := true }

/-- The command line after a word, and the option of which the value is the next word. -/
abbrev Step := Except Refusal (CommandLine × Option Parameter)

def give (c : CommandLine) (p : Parameter) (value : String) : Step :=
  match c.give? p value with
  | some c => .ok (c, none)
  | none => .error .malformed

/-- A word after two dashes: the name of an option, and perhaps its value after an equals sign. -/
def longWord (c : CommandLine) (word : List Char) : Step :=
  let (name, value) := match Text.splitOnce '=' word with
    | some (name, value) => (name, some (String.ofList value))
    | none => (word, none)
  match longNames.lookup (String.ofList name), value with
  | some (.flag flag), none => (c.raise flag).map fun c => (c, none)
  | some (.parameter p), none => .ok (c, some p)
  | some (.parameter p), some value => c.give p value
  | _, _ => .error .malformed

/-- The letters after one dash, of which the first that takes a value has it right after it,
perhaps with an equals sign between them. -/
def shortWord (c : CommandLine) : List Char → Step
  | [] => .ok (c, none)
  | letter :: word =>
    match letters.lookup letter with
    | none => .error .malformed
    | some (.flag flag) => do shortWord (← c.raise flag) word
    | some (.parameter p) =>
      match word with
      | [] => .ok (c, some p)
      | '=' :: value => c.give p (String.ofList value)
      | value => c.give p (String.ofList value)

/-- Whether a word is read as options. One dash alone is not. -/
def isOption (word : String) : Bool := word.toList.head? == some '-' && word != "-"

/-- What may follow a command: nothing, or the mark after which there are no more options. -/
def finish (c : CommandLine) : List String → Except Refusal CommandLine
  | [] | ["--"] => .ok c
  | word :: _ => if word = "--help" || word.startsWith "-h" then .error .help else .error .malformed

/-- What may follow a question for help: the name of a command, or that of help. -/
def askHelp : List String → Refusal
  | [] => .help
  | [word] => if word = "help" || (commands.lookup word).isSome then .help else .malformed
  | _ => .malformed

/-- Reads the words of a command line, of which the first can be the value of an option. -/
def read :
    (pending : Option Parameter) → CommandLine → List String → Except Refusal CommandLine
  | none, c, [] => .ok c
  | some _, _, [] => .error .malformed
  | some p, c, word :: words =>
    if isOption word then .error .malformed
    else do
      let (c, pending) ← c.give p word
      read pending c words
  | none, c, word :: words =>
    match commands.lookup word, word.toList with
    | some command, _ => finish { c with command } words
    | none, ['-', '-'] => if words.isEmpty then .ok c else .error .malformed
    | none, '-' :: '-' :: name => do
      let (c, pending) ← c.longWord name
      read pending c words
    | none, '-' :: letter :: more => do
      let (c, pending) ← c.shortWord (letter :: more)
      read pending c words
    | none, _ => .error (if word = "help" then askHelp words else .malformed)

/-- The command line that words write. -/
def parse (words : List String) : Except Refusal CommandLine := read none {} words

/-- What the command line changes in a configuration. In the foreground a log that would go to a
file alone goes to the console too. -/
def apply (c : CommandLine) (config : Config) : Config :=
  let logging := config.logging
  { config with
    network.listenAddress := c.listen.getD config.network.listenAddress
    network.listenPort := c.port.getD config.network.listenPort
    server.stratum := c.stratum.getD config.server.stratum
    server.referenceId := c.referenceId.getD config.server.referenceId
    performance.workerThreads := c.workers.getD config.performance.workerThreads
    logging.level := if c.verbose then .debug else logging.level
    logging.destination :=
      if c.foreground ∧ logging.destination = .file then .both else logging.destination }

end CommandLine
end NetworkTime
