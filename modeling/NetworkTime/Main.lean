import NetworkTime.Daemon
import NetworkTime.Instant
import Std.Async.Signal
import Std.Async.Timer
import Std.Async.UDP
import Std.Time

/-! The program. Everything that is decided is decided elsewhere: here files are read and written,
datagrams are received and sent, clocks are read, and signals are awaited. -/

namespace NetworkTime.Main
open Std.Async

/-- The fault behind a failure of the system. -/
def fileFault : IO.Error → FileFault
  | .noFileOrDirectory .. => .notFound
  | .permissionDenied .. => .denied
  | e => .other (toString e)

/-- The content of a file. -/
def readText (path : String) : IO (Except FileFault String) := do
  try
    let bytes ← IO.FS.readBinFile path
    return (String.fromUTF8? bytes).elim (.error .notText) .ok
  catch e => return .error (fileFault e)

/-- Opens the log file, if the log goes to one. -/
def openLog (c : LoggingConfig) : IO (Except Report (Option IO.FS.Handle)) := do
  if !c.destination.toFile then return .ok none
  let directory := (Path.directory? c.logFile).getD "."
  try IO.FS.createDirAll directory
  catch e => return .error ⟨s!"cannot create log directory {directory}", [(fileFault e).message]⟩
  try return .ok (some (← IO.FS.Handle.mk c.logFile .append))
  catch e => return .error ⟨s!"cannot open log file {c.logFile}", [(fileFault e).message]⟩

/-- The time of the system's clock. -/
def now : IO Timestamp := do
  return .ofInstant (.ofTotalNanos (← Std.Time.Timestamp.now).toNanosecondsSinceUnixEpoch.val)

/-- Writes events to the log, each with the time before it. -/
def log (c : LoggingConfig) (file : Option IO.FS.Handle) (es : List Log.Event) : IO Unit := do
  for e in es do
    if c.level.shows e.level then
      let time := (Std.Time.DateTime.ofTimestamp (← Std.Time.Timestamp.now) .UTC).format
        "uuuu-MM-dd'T'HH:mm:ss.SSSSSS'Z'"
      let line := s!"{time} {e.line}\n"
      if c.destination.toConsole then
        (← IO.getStdout).putStr line
        (← IO.getStdout).flush
      if let some file := file then
        file.putStr line
        file.flush

/-- An endpoint as the system takes it. -/
def toSocketAddress (e : Endpoint) : Std.Net.SocketAddress :=
  match e.address with
  | .v4 bits =>
    let octets := Address.octets bits
    .v4 ⟨⟨Vector.ofFn fun i => UInt8.ofNat (octets.getD i 0)⟩, e.port⟩
  | .v6 bits =>
    let groups := Address.groups bits
    .v6 ⟨⟨Vector.ofFn fun i => UInt16.ofNat (groups.getD i 0)⟩, e.port⟩

/-- An endpoint as the system gives it. -/
def ofSocketAddress : Std.Net.SocketAddress → Endpoint
  | .v4 a =>
    ⟨.v4 (.ofNat 32 (Positional.value 256 (a.addr.octets.toList.map UInt8.toNat))), a.port⟩
  | .v6 a =>
    ⟨.v6 (.ofNat 128 (Positional.value 65536 (a.addr.segments.toList.map UInt16.toNat))), a.port⟩

/-- A daemon with a socket of the system. -/
abbrev Server := Daemon ManualClock UDP.Socket

/-- Answers a datagram. The time of leaving is stamped right before it leaves. -/
def answer (d : Server) (bytes : ByteArray) (sender : Std.Net.SocketAddress) :
    Async (Service.Handled ManualClock) := do
  let service := { d.service with clock := ManualClock.startingAt (← now) 0 }
  let moment ← IO.monoNanosNow
  let handle := service.receive bytes.data.toList (ofSocketAddress sender) moment
  let handled := handle none
  match handled.outcome with
  | .drop _ => return handled
  | .respond response =>
    try
      d.socket.send ⟨(Packet.stamp response (← now)).toArray⟩ (some sender)
      return handled
    catch e => return handle (some ⟨"Other", toString e⟩)

/-- Answers datagrams for ever. The daemon is kept up to date in the reference. -/
partial def serve (daemon : IO.Ref Server) (file : Option IO.FS.Handle) : Async Unit := do
  let d ← daemon.get
  if let (bytes, some sender) ← d.socket.recv receiveLimit.toUInt64 then
    let handled ← answer d bytes sender
    daemon.set { d with service := handled.service }
    log d.config.logging file (handled.log.map fun e =>
      (e.within (Daemon.workerScope 0)).within (Daemon.scope d.endpoint))
  serve daemon file

/-- Says every so many seconds what the counters are. -/
partial def report (daemon : IO.Ref Server) (seconds : Nat) (file : Option IO.FS.Handle) :
    Async Unit := do
  sleep (.ofNat (1000 * seconds))
  let d ← daemon.get
  log d.config.logging file [d.statisticsEvent "server statistics"]
  report daemon seconds file

/-- Waits for a signal to stop. -/
def awaitSignal : IO NetworkTime.Signal := do
  let interrupted ← (← Signal.Waiter.mk .sigint false).wait
  let terminated ← (← Signal.Waiter.mk .sigterm false).wait
  let signal ← IO.waitAny [
    interrupted.map fun _ => NetworkTime.Signal.interrupt,
    terminated.map fun _ => NetworkTime.Signal.terminate]
  IO.ofExcept signal

/-- Shows an error, and gives the exit code for it. -/
def fail (r : Report) : IO UInt32 := do
  IO.eprint r.text
  return 1

/-- Starts the server of a configuration without problems. -/
def start (c : Config) : IO UInt32 := do
  match ← openLog c.logging with
  | .error r => fail r
  | .ok file =>
    log c.logging file (Daemon.warnings c.security)
    match c.plan.mapError Config.ServingFault.message with
    | .error message => fail { message }
    | .ok plan =>
      match plan.endpoint with
      | .error fault => fail ⟨"failed to start the NTP server", [(ServerError.setup fault).message]⟩
      | .ok endpoint =>
        let socket ← UDP.Socket.mk
        try socket.bind (toSocketAddress endpoint)
        catch e => return ← fail ⟨"failed to start the NTP server", [toString e]⟩
        log c.logging file (Daemon.startEvents c endpoint)
        let daemon ← IO.mkRef ⟨c, endpoint, socket, plan.service {} (some {})⟩
        discard (serve daemon file).toIO
        if c.performance.enableStatistics then
          discard (report daemon c.performance.statsInterval.toNat file).toIO
        let signal ← awaitSignal
        log c.logging file ((← daemon.get).stopEvents signal)
        return 0

end NetworkTime.Main

open NetworkTime in
def main (words : List String) : IO UInt32 := do
  match CommandLine.parse words with
  | .error .malformed =>
    IO.eprintln CommandLine.usage
    return 2
  | .error .help =>
    IO.println CommandLine.usage
    return 0
  | .ok c =>
    let content ← match c.config with
      | some path => Main.readText path
      | none => pure (.error .notFound)
    match c.configuration fun _ => content with
    | .error r => Main.fail r
    | .ok config =>
      match config.check with
      | .error r => Main.fail r
      | .ok () =>
        match c.command with
        | .testConfig =>
          IO.println "Configuration is valid"
          IO.println config.summary
          return 0
        | .start => Main.start config
