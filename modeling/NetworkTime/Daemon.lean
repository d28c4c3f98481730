import NetworkTime.CommandLine
import NetworkTime.Config.Load
import NetworkTime.Config.Serving
import NetworkTime.Config.Summary
import NetworkTime.Report
import NetworkTime.Session

/-! The daemon: it loads its configuration, opens its log, serves until it is told to stop, and
says on the way what happens. -/

namespace NetworkTime

/-- What tells the daemon to stop. -/
inductive Signal
  | interrupt
  | terminate
deriving DecidableEq, Repr

def Signal.message : Signal → String
  | interrupt => "received Ctrl-C"
  | terminate => "received SIGTERM"

/-- What a run has come to so far: the files, and the text on its standard output. -/
structure Progress where
  files : Files
  output : String := ""

namespace Progress

/-- Writes a line on the standard output. -/
def print (p : Progress) (line : String) : Progress := { p with output := p.output ++ line ++ "\n" }

/-- Writes an event to the log, wherever the log goes. -/
def log (p : Progress) (c : LoggingConfig) (e : Log.Event) : Progress :=
  if !c.level.shows e.level then p
  else
    let p := if c.destination.toConsole then p.print e.line else p
    if c.destination.toFile then
      { p with files := p.files.append c.logFile (e.line ++ "\n") }
    else p

def logAll (p : Progress) (c : LoggingConfig) (es : List Log.Event) : Progress :=
  es.foldl (fun p e => p.log c e) p

end Progress

/-- The configuration that a command line asks for, where files have the given contents. -/
def CommandLine.configuration (c : CommandLine) (content : String → Except FileFault String) :
    Except Report Config :=
  match c.config with
  | none => .ok (c.apply {})
  | some path =>
    match Config.ofFile path (content path) with
    | .ok config => .ok (c.apply config)
    | .error fault =>
      .error
        ⟨s!"failed to load configuration from {path}", fault.message :: fault.cause?.toList⟩

/-- Refuses a configuration with problems. -/
def Config.check (c : Config) : Except Report Unit :=
  if c.problems.isEmpty then .ok () else .error { message := invalidMessage c.problems }

/-- Makes the log file ready, if the log goes to one. -/
def LoggingConfig.prepare (c : LoggingConfig) (fs : Files) : Except Report Files := do
  if c.destination.toFile then
    let fs ← (fs.makeRoomFor c.logFile).mapError fun fault =>
      ⟨"cannot create log directory " ++ (Path.directory? c.logFile).getD "", [fault.message]⟩
    (fs.openFile c.logFile).mapError fun fault =>
      ⟨s!"cannot open log file {c.logFile}", [fault.message]⟩
  else return fs

/-- A daemon that serves. -/
structure Daemon (κ σ : Type) where
  config : Config
  endpoint : Endpoint
  /-- What it listens with. -/
  socket : σ
  service : Service κ

namespace Daemon
variable {κ σ : Type}

/-- An event of the program as a whole. -/
def event (level : Log.Level) (message : String) (fields : List (String × String)) : Log.Event :=
  { level, source := "simple_ntpd", message, fields }

/-- An event of the server. -/
def serverEvent (level : Log.Level) (message : String) (fields : List (String × String)) :
    Log.Event :=
  { level, source := "ntp_server::server", message, fields }

/-- The activity of the server on an endpoint. -/
def scope (e : Endpoint) : String := s!"ntp_server\x7baddr={e.text}\x7d"

/-- The activity of one worker. -/
def workerScope (n : Nat) : String := s!"worker\x7bid={n}\x7d"

/-- What a configuration promises in vain. -/
def warnings (s : SecurityConfig) : List Log.Event :=
  (if s.enableAuthentication then
    [event .warn "enable_authentication is set but not supported; serving unauthenticated" []]
  else []) ++
  (if s.restrictQueries && s.allowedClients.isEmpty then
    [event .warn ("restrict_queries is set with an empty allowed_clients list; " ++
      "no restriction applied") []]
  else [])

/-- What is said when the server is up. -/
def startEvents (c : Config) (e : Endpoint) : List Log.Event :=
  let workers := toString c.performance.workerThreads
  [serverEvent .debug "NTP server socket bound" [("addr", e.text)],
   event .info "simple-ntpd started"
    [("addr", e.text), ("stratum", toString c.server.stratum),
     ("reference_id", c.server.referenceId), ("workers", workers)],
   (serverEvent .info "NTP server started" [("workers", workers)]).within (scope e)]

/-- The counters so far. -/
def statisticsEvent (d : Daemon κ σ) (message : String) : Log.Event :=
  event .info message [("stats", (d.service.metrics.getD {}).text)]

/-- What is said when the server goes down. -/
def stopEvents (d : Daemon κ σ) (signal : Signal) : List Log.Event :=
  let workers := d.config.performance.workerThreads.toNat
  let stopped := if d.config.logging.level.shows .debug then
      (List.range workers).map fun n =>
        (serverEvent .debug "worker stopped" []).within (workerScope n)
    else []
  ([event .info signal.message [],
    serverEvent .info "shutdown requested, stopping workers" []] ++ stopped ++
    [serverEvent .info "NTP server stopped" []]).map (·.within (scope d.endpoint)) ++
  [d.statisticsEvent "simple-ntpd stopped"]

/-- Starts a server with a configuration that has no problems. -/
def serve (c : Config) (clock : κ) (listen : Endpoint → Except SystemFailure σ) (p : Progress) :
    Except Report (Daemon κ σ) × Progress :=
  let p := p.logAll c.logging (warnings c.security)
  match c.plan with
  | .error fault => (.error { message := fault.message }, p)
  | .ok plan =>
    match plan.bind listen with
    | .error e => (.error ⟨"failed to start the NTP server", [e.message]⟩, p)
    | .ok (endpoint, socket) =>
      (.ok ⟨c, endpoint, socket, plan.service clock (some {})⟩,
        p.logAll c.logging (startEvents c endpoint))

/-- Checks a configuration, makes its log ready, and starts a server. -/
def start (c : Config) (clock : κ) (listen : Endpoint → Except SystemFailure σ) (p : Progress) :
    Except Report (Daemon κ σ) × Progress :=
  match c.check with
  | .error r => (.error r, p)
  | .ok () =>
    match c.logging.prepare p.files with
    | .error r => (.error r, p)
    | .ok files => serve c clock listen { p with files }

/-- Takes a datagram by one of the workers, and gives the answer to it. -/
def receive [Clock κ] (d : Daemon κ σ) (worker : Nat) (bytes : Bytes) (sender : Endpoint)
    (moment : Nat) (failure : Option SystemFailure) (p : Progress) :
    Outcome × Daemon κ σ × Progress :=
  let handled := d.service.receive bytes sender moment failure
  let log := handled.log.map fun e => (e.within (workerScope worker)).within (scope d.endpoint)
  (handled.outcome, { d with service := handled.service }, p.logAll d.config.logging log)

/-- Stops the server. -/
def stop (d : Daemon κ σ) (signal : Signal) (p : Progress) : Progress :=
  p.logAll d.config.logging (d.stopEvents signal)

end Daemon

/-- What a run of the program has come to. -/
inductive Status (κ σ : Type)
  /-- It has ended, with an exit code and a text on its standard error. -/
  | ended (code : Nat) (error : String)
  | serving (daemon : Daemon κ σ)

/-- Checks a configuration and shows it. -/
def Config.test {κ σ : Type} (c : Config) (p : Progress) : Status κ σ × Progress :=
  match c.check with
  | .error r => (.ended 1 r.text, p)
  | .ok () => (.ended 0 "", (p.print "Configuration is valid").print c.summary)

/-- Runs the program with the words of its command line. -/
def run {κ σ : Type} (words : List String) (clock : κ) (files : Files)
    (listen : Endpoint → Except SystemFailure σ) : Status κ σ × Progress :=
  let p : Progress := { files }
  match CommandLine.parse words with
  | .error .malformed => (.ended 2 "", p)
  | .error .help => (.ended 0 "", p)
  | .ok c =>
    match c.configuration files.readText with
    | .error r => (.ended 1 r.text, p)
    | .ok config =>
      match c.command with
      | .testConfig => config.test p
      | .start =>
        match Daemon.start config clock listen p with
        | (.ok daemon, p) => (.serving daemon, p)
        | (.error r, p) => (.ended 1 r.text, p)

end NetworkTime
