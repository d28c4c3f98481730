import NetworkTime.Config
import NetworkTime.Text.Quoted

/-! A configuration in five lines. -/

namespace NetworkTime

/-- The name of a leap warning in a summary. -/
def Leap.title : Leap → String
  | none => "None"
  | addSecond => "AddSecond"
  | deleteSecond => "DeleteSecond"
  | unsynchronized => "Unsynchronized"

/-- The name of a destination in a summary. -/
def Log.Destination.title : Log.Destination → String
  | console => "Console"
  | file => "File"
  | both => "Both"

namespace Config
open Text

def summaryLines (c : Config) : List String :=
  let family := if c.network.enableV6 then "on" else "off"
  [s!"listen: {c.network.listenAddress}:{c.network.listenPort} (ipv6 {family})",
   s!"server: stratum {c.server.stratum} reference {Quoted.text c.server.referenceId} " ++
     s!"poll {c.server.poll.toInt} precision {c.server.precision.toInt} " ++
     s!"leap {c.server.leap.title}",
   s!"security: restrict {c.security.restrictQueries} " ++
     s!"allowed {Quoted.texts c.security.allowedClients} " ++
     s!"denied {Quoted.texts c.security.deniedClients} " ++
     s!"rate limit {c.security.rateLimit}/min",
   s!"performance: {c.performance.workerThreads} workers, " ++
     s!"{c.performance.maxClients} max clients, " ++
     s!"statistics {c.performance.enableStatistics} every {c.performance.statsInterval}s",
   s!"logging: {c.logging.level.name} to {c.logging.destination.title} ({c.logging.logFile})"]

def summary (c : Config) : String := "\n".intercalate c.summaryLines

end Config
end NetworkTime
