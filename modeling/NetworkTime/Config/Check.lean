import NetworkTime.Config
import NetworkTime.Network
import NetworkTime.Plan
import NetworkTime.Text.Quoted

/-! Whether a configuration can be served: every rule that it breaks is a problem of its own. -/

namespace NetworkTime.Config

/-- A rule that a configuration breaks. -/
inductive Problem
  | v6Disabled (address : Address)
  | badListenAddress (text : String)
  | zeroPort
  | stratumOutOfRange (stratum : UInt8)
  | emptyReferenceId
  | pollOutOfRange (poll : Int8)
  | positivePrecision (precision : Int8)
  | badNetwork (list : String) (text : String) (fault : Network.Fault)
  | noWorkers
  | noClients
  | zeroStatsInterval
  | noLogFile
deriving DecidableEq, Repr

namespace Problem

/-- The fault of a text in a list of networks. -/
def networkFault (text : String) (fault : Network.Fault) : SetupFault :=
  .invalidNetwork text fault.message

def message : Problem → String
  | v6Disabled a => s!"listen_address {a.text} is IPv6 but enable_ipv6 is false"
  | badListenAddress text => s!"listen_address {Text.Quoted.text text}: {Address.malformed}"
  | zeroPort => "listen_port must not be 0"
  | stratumOutOfRange stratum => s!"stratum {stratum.toNat} out of range 1-15"
  | emptyReferenceId => "reference_id must not be empty"
  | pollOutOfRange poll => s!"poll {poll.toInt} out of range 4-17"
  | positivePrecision precision => s!"precision {precision.toInt} must not be positive"
  | badNetwork list text fault => s!"{list}: {(networkFault text fault).message}"
  | noWorkers => "worker_threads must be at least 1"
  | noClients => "max_clients must be at least 1"
  | zeroStatsInterval => "stats_interval_secs must be at least 1"
  | noLogFile => "log_file must be set when logging to a file"

end Problem

/-- The problem, if the rule is broken. -/
def require (rule : Bool) (problem : Problem) : List Problem := if rule then [] else [problem]

def checkListenAddress (n : NetworkConfig) : List Problem :=
  match Address.parse? n.listenAddress.toList with
  | some a => require (!a.isV6 || n.enableV6) (.v6Disabled a)
  | none => [.badListenAddress n.listenAddress]

/-- The entries of a list that are no networks. -/
def checkNetworks (list : String) (entries : List String) : List Problem :=
  entries.flatMap fun entry => match Network.parse entry.toList with
    | .ok _ => []
    | .error fault => [.badNetwork list entry fault]

/-- All problems of a configuration, in the order of its settings. -/
def problems (c : Config) : List Problem :=
  checkListenAddress c.network ++
  require (c.network.listenPort != 0) .zeroPort ++
  require (Stratum.isServer c.server.stratum) (.stratumOutOfRange c.server.stratum) ++
  require (!(Text.trim c.server.referenceId.toList).isEmpty) .emptyReferenceId ++
  require (Poll.isAllowed c.server.poll) (.pollOutOfRange c.server.poll) ++
  require (c.server.precision ≤ 0) (.positivePrecision c.server.precision) ++
  checkNetworks "allowed_clients" c.security.allowedClients ++
  checkNetworks "denied_clients" c.security.deniedClients ++
  require (c.performance.workerThreads != 0) .noWorkers ++
  require (c.performance.maxClients != 0) .noClients ++
  require (!c.performance.enableStatistics || c.performance.statsInterval != 0)
    .zeroStatsInterval ++
  require (!c.logging.destination.toFile || c.logging.logFile != "") .noLogFile

/-- The wording for a configuration with these problems. -/
def invalidMessage (problems : List Problem) : String :=
  "invalid configuration: " ++ "; ".intercalate (problems.map Problem.message)

/-- The endpoint that the configuration names, whether or not its other settings are sound. -/
def endpoint (c : Config) : Except Problem Endpoint :=
  match Address.parse? c.network.listenAddress.toList with
  | some a => .ok ⟨a, c.network.listenPort⟩
  | none => .error (.badListenAddress c.network.listenAddress)

end NetworkTime.Config
