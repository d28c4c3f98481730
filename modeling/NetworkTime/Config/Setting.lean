import NetworkTime.Config

/-! The settings of a configuration one by one: where each stands, what its field is called,
under which keys it is assigned and what kind of value it takes. -/

namespace NetworkTime.Config

inductive Section
  | network
  | server
  | security
  | performance
  | logging
deriving DecidableEq, Repr

inductive Setting
  | listenAddress
  | listenPort
  | enableV6
  | stratum
  | referenceId
  | poll
  | precision
  | leap
  | enableAuthentication
  | restrictQueries
  | allowedClients
  | deniedClients
  | rateLimit
  | workerThreads
  | maxClients
  | enableStatistics
  | statsInterval
  | level
  | destination
  | logFile
deriving DecidableEq, Repr

/-- The kinds of value that settings take. -/
inductive Kind
  | text
  | texts
  | flag
  | word8
  | word16
  | word32
  | word64
  | int8
  | leap
  | level
  | destination
deriving DecidableEq, Repr

abbrev Kind.Value : Kind → Type
  | text => String
  | texts => List String
  | flag => Bool
  | word8 => UInt8
  | word16 => UInt16
  | word32 => UInt32
  | word64 => UInt64
  | int8 => Int8
  | leap => Leap
  | level => Log.Level
  | destination => Log.Destination

namespace Section

def all : List Section := [network, server, security, performance, logging]

/-- The name of the field that holds the section. -/
def name : Section → String
  | network => "network"
  | server => "server"
  | security => "security"
  | performance => "performance"
  | logging => "logging"

/-- The headers that open the section. -/
def headers : Section → List String
  | network => ["network"]
  | server => ["server", "ntp_server"]
  | security => ["security"]
  | performance => ["performance"]
  | logging => ["logging"]

/-- The settings of a section, in the order in which a plain list gives their values. -/
def settings : Section → List Setting
  | network => [.listenAddress, .listenPort, .enableV6]
  | server => [.stratum, .referenceId, .poll, .precision, .leap]
  | security =>
    [.enableAuthentication, .restrictQueries, .allowedClients, .deniedClients, .rateLimit]
  | performance => [.workerThreads, .maxClients, .enableStatistics, .statsInterval]
  | logging => [.level, .destination, .logFile]

end Section

namespace Setting

@[reducible] def kind : Setting → Kind
  | listenAddress | referenceId | logFile => .text
  | allowedClients | deniedClients => .texts
  | enableV6 | enableAuthentication | restrictQueries | enableStatistics => .flag
  | stratum => .word8
  | listenPort => .word16
  | rateLimit => .word32
  | workerThreads | maxClients | statsInterval => .word64
  | poll | precision => .int8
  | leap => .leap
  | level => .level
  | destination => .destination

/-- The name of the field that holds the setting. -/
def name : Setting → String
  | listenAddress => "listen_address"
  | listenPort => "listen_port"
  | enableV6 => "enable_ipv6"
  | stratum => "stratum"
  | referenceId => "reference_id"
  | poll => "poll"
  | precision => "precision"
  | leap => "leap_indicator"
  | enableAuthentication => "enable_authentication"
  | restrictQueries => "restrict_queries"
  | allowedClients => "allowed_clients"
  | deniedClients => "denied_clients"
  | rateLimit => "rate_limit"
  | workerThreads => "worker_threads"
  | maxClients => "max_clients"
  | enableStatistics => "enable_statistics"
  | statsInterval => "stats_interval_secs"
  | level => "level"
  | destination => "destination"
  | logFile => "log_file"

/-- The keys under which a setting is assigned. Some settings have two. -/
def keys : Setting → List String
  | listenAddress => ["listen_address"]
  | listenPort => ["listen_port"]
  | enableV6 => ["enable_ipv6"]
  | stratum => ["stratum"]
  | referenceId => ["reference_id", "reference_clock"]
  | poll => ["poll", "min_poll"]
  | precision => ["precision"]
  | leap => ["leap_indicator"]
  | enableAuthentication => ["enable_authentication"]
  | restrictQueries => ["restrict_queries"]
  | allowedClients => ["allowed_clients"]
  | deniedClients => ["denied_clients"]
  | rateLimit => ["rate_limit"]
  | workerThreads => ["worker_threads"]
  | maxClients => ["max_clients"]
  | enableStatistics => ["enable_statistics"]
  | statsInterval => ["stats_interval_secs", "stats_interval"]
  | level => ["level", "log_level"]
  | destination => ["destination"]
  | logFile => ["log_file"]

/-- Whether the setting is assigned under a key. -/
def hasKey (s : Setting) (key : String) : Bool := s.keys.contains key

end Setting

/-- The value of one setting. -/
def get (c : Config) : (s : Setting) → s.kind.Value
  | .listenAddress => c.network.listenAddress
  | .listenPort => c.network.listenPort
  | .enableV6 => c.network.enableV6
  | .stratum => c.server.stratum
  | .referenceId => c.server.referenceId
  | .poll => c.server.poll
  | .precision => c.server.precision
  | .leap => c.server.leap
  | .enableAuthentication => c.security.enableAuthentication
  | .restrictQueries => c.security.restrictQueries
  | .allowedClients => c.security.allowedClients
  | .deniedClients => c.security.deniedClients
  | .rateLimit => c.security.rateLimit
  | .workerThreads => c.performance.workerThreads
  | .maxClients => c.performance.maxClients
  | .enableStatistics => c.performance.enableStatistics
  | .statsInterval => c.performance.statsInterval
  | .level => c.logging.level
  | .destination => c.logging.destination
  | .logFile => c.logging.logFile

/-- The configuration with one setting changed. -/
def set (c : Config) : (s : Setting) → s.kind.Value → Config
  | .listenAddress, v => { c with network.listenAddress := v }
  | .listenPort, v => { c with network.listenPort := v }
  | .enableV6, v => { c with network.enableV6 := v }
  | .stratum, v => { c with server.stratum := v }
  | .referenceId, v => { c with server.referenceId := v }
  | .poll, v => { c with server.poll := v }
  | .precision, v => { c with server.precision := v }
  | .leap, v => { c with server.leap := v }
  | .enableAuthentication, v => { c with security.enableAuthentication := v }
  | .restrictQueries, v => { c with security.restrictQueries := v }
  | .allowedClients, v => { c with security.allowedClients := v }
  | .deniedClients, v => { c with security.deniedClients := v }
  | .rateLimit, v => { c with security.rateLimit := v }
  | .workerThreads, v => { c with performance.workerThreads := v }
  | .maxClients, v => { c with performance.maxClients := v }
  | .enableStatistics, v => { c with performance.enableStatistics := v }
  | .statsInterval, v => { c with performance.statsInterval := v }
  | .level, v => { c with logging.level := v }
  | .destination, v => { c with logging.destination := v }
  | .logFile, v => { c with logging.logFile := v }

@[simp] theorem get_set_same (c : Config) (s : Setting) (v : s.kind.Value) :
    (c.set s v).get s = v := by
  cases s <;> rfl

theorem get_set_of_ne (c : Config) {s s' : Setting} (v : s.kind.Value) (h : s' ≠ s) :
    (c.set s v).get s' = c.get s' := by
  cases s <;> cases s' <;> first | rfl | exact absurd rfl h

/-- A configuration is nothing but its settings. -/
theorem ext_get {c d : Config} (h : ∀ s, c.get s = d.get s) : c = d := by
  obtain ⟨⟨_, _, _⟩, ⟨_, _, _, _, _⟩, ⟨_, _, _, _, _⟩, ⟨_, _, _, _⟩, ⟨_, _, _⟩⟩ := c
  obtain ⟨⟨_, _, _⟩, ⟨_, _, _, _, _⟩, ⟨_, _, _, _, _⟩, ⟨_, _, _, _⟩, ⟨_, _, _⟩⟩ := d
  simp only [Config.mk.injEq, NetworkConfig.mk.injEq, ServerConfig.mk.injEq,
    SecurityConfig.mk.injEq, PerformanceConfig.mk.injEq, LoggingConfig.mk.injEq]
  exact ⟨⟨h .listenAddress, h .listenPort, h .enableV6⟩,
    ⟨h .stratum, h .referenceId, h .poll, h .precision, h .leap⟩,
    ⟨h .enableAuthentication, h .restrictQueries, h .allowedClients, h .deniedClients,
      h .rateLimit⟩,
    ⟨h .workerThreads, h .maxClients, h .enableStatistics, h .statsInterval⟩,
    ⟨h .level, h .destination, h .logFile⟩⟩

/-- The setting of a section that a key assigns. -/
def Section.setting? (sec : Section) (key : String) : Option Setting :=
  sec.settings.find? (·.hasKey key)

/-- The names of leap warnings. -/
def leapNames : List (String × Leap) :=
  [("none", .none), ("add_second", .addSecond), ("delete_second", .deleteSecond),
   ("unsynchronized", .unsynchronized)]

/-- The names of log levels, of which one has two. -/
def levelNames : List (String × Log.Level) :=
  [("trace", .trace), ("debug", .debug), ("info", .info), ("warn", .warn), ("warning", .warn),
   ("error", .error)]

def destinationNames : List (String × Log.Destination) :=
  [("console", .console), ("file", .file), ("both", .both)]

end NetworkTime.Config
