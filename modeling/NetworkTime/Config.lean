import NetworkTime.Log
import NetworkTime.Packet

/-! The configuration of the daemon, in five sections, each of which starts from its defaults. -/

namespace NetworkTime

/-- Where the log goes. -/
inductive Log.Destination
  | console
  | file
  | both
deriving DecidableEq, Repr, Inhabited

namespace Log.Destination

def toConsole : Destination → Bool
  | console | both => true
  | file => false

def toFile : Destination → Bool
  | file | both => true
  | console => false

end Log.Destination

structure NetworkConfig where
  listenAddress : String := "0.0.0.0"
  listenPort : UInt16 := 123
  enableV6 : Bool := true
deriving DecidableEq, Repr, Inhabited

structure ServerConfig where
  stratum : UInt8 := 2
  referenceId : String := "LOCL"
  poll : Int8 := 4
  precision : Int8 := -6
  leap : Leap := .none
deriving DecidableEq, Repr, Inhabited

structure SecurityConfig where
  /-- Known as a setting only: no packet is ever authenticated. -/
  enableAuthentication : Bool := false
  /-- Whether `allowedClients` counts. The denied clients always do. -/
  restrictQueries : Bool := false
  allowedClients : List String := []
  deniedClients : List String := []
  /-- The requests of one client that are served in a minute, or 0 for any number of them. -/
  rateLimit : UInt32 := 0
deriving DecidableEq, Repr, Inhabited

structure PerformanceConfig where
  workerThreads : UInt64 := 4
  maxClients : UInt64 := 100000
  enableStatistics : Bool := true
  statsInterval : UInt64 := 300
deriving DecidableEq, Repr, Inhabited

structure LoggingConfig where
  level : Log.Level := .info
  destination : Log.Destination := .console
  logFile : String := "/var/log/simple-ntpd/simple-ntpd.log"
deriving DecidableEq, Repr, Inhabited

structure Config where
  network : NetworkConfig := {}
  server : ServerConfig := {}
  security : SecurityConfig := {}
  performance : PerformanceConfig := {}
  logging : LoggingConfig := {}
deriving DecidableEq, Repr, Inhabited

end NetworkTime
