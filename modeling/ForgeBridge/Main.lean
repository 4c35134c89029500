import ForgeBridge.CommandLine.Exit
import ForgeBridge.Log.Filter
import ForgeBridge.Log.Line
import Std.Async.TCP
import Std.Time

/-!
The command line: it starts the server up to the point where it listens, and tells what keeps it from
doing so.
-/

namespace ForgeBridge.Main

/-- The number by which the system tells an error. It comes with or without a minus sign. -/
def osCode (e : IO.Error) : Nat :=
  let code := match e with
    | .alreadyExists _ code _ | .otherError code _ | .resourceBusy code _ | .resourceVanished code _
    | .unsupportedOperation code _ | .hardwareFault code _ | .unsatisfiedConstraints code _
    | .illegalOperation code _ | .protocolError code _ | .timeExpired code _
    | .interrupted _ code _ | .noFileOrDirectory _ code _ | .invalidArgument _ code _
    | .permissionDenied _ code _ | .resourceExhausted _ code _ | .inappropriateType _ code _
    | .noSuchThing _ code _ => code
    | .unexpectedEof | .userError _ => 0
  (min code (0 - code)).toNat

/-- What stands under the name of a file. -/
def fileState (path : String) : IO Config.FileState := do
  try
    let content ← IO.FS.readBinFile path
    return .file content.toList
  catch e =>
    match osCode e with
    | 2 => return .missing
    | 20 => return .unreadable .notDirectory
    | 36 => return .unreadable .nameTooLong
    | _ => return .unreadable .isDirectory

/-- The variables that the program looks at. -/
def environment : IO Environment := do
  let values ← (Log.Filter.variableName :: Overrides.variableNames).mapM fun name => do
    return (name, (← IO.getEnv name).map Text.bytes)
  return fun name => (values.lookup name).join

/-- An address in the form in which the system takes it. -/
def systemAddress : Net.SocketAddress → Std.Net.SocketAddress
  | .v4 address port =>
    let byte (i : Nat) := address.bytes.getD i 0
    .v4 ⟨.ofParts (byte 0) (byte 1) (byte 2) (byte 3), port⟩
  | .v6 address _ port =>
    let group (i : Nat) := address.groups.getD i 0
    .v6 ⟨.ofParts (group 0) (group 1) (group 2) (group 3) (group 4) (group 5) (group 6) (group 7),
      port⟩

/-- How many connections may wait. -/
def backlog : UInt32 := 1024

/-- Starts to listen at an address, and tells why where it cannot. -/
def listen (address : Net.SocketAddress) : IO (Option Startup.BindFailure) := do
  try
    let socket ← Std.Async.TCP.Socket.Server.mk
    socket.bind (systemAddress address)
    socket.listen backlog
    return none
  catch e => return some (.ofCode (osCode e))

/-- The time, as log lines tell it. -/
def timestamp : IO String := do
  let now := Std.Time.DateTime.ofTimestamp (← Std.Time.Timestamp.now) .UTC
  return now.format "uuuu-MM-dd'T'HH:mm:ss.SSSSSS'Z'"

/-- Writes events as log lines. -/
def writeLog (asJson : Bool) (events : List Log.Event) : IO Unit := do
  let output ← IO.getStdout
  for e in events do
    let time ← timestamp
    let line := if asJson then e.json time else e.words time
    output.write (line ++ [Ascii.newline]).toByteArray
  output.flush

/-- Writes what a program has to say at its end, and gives its exit status. -/
def finish (e : CommandLine.Exit) : IO UInt32 := do
  IO.print e.output
  IO.eprint e.errors
  return .ofNat e.code

/-- Runs the program with options. -/
def run (o : CommandLine.Options) : IO UInt32 := do
  let env ← environment
  let filter := Log.Filter.ofEnvironment env
  let started := Startup.start o env (← fileState o.config)
  writeLog o.json (filter.select started.log)
  match started.value with
  | .error failure => finish (.ofFailure failure)
  | .ok ready =>
    match ← listen ready.address with
    | some failure => finish (.ofFailure (.bind failure))
    | none =>
      writeLog o.json (filter.select [Startup.farewell])
      finish .good

end ForgeBridge.Main

/-- Reads the command line and does what it says. -/
def main (arguments : List String) : IO UInt32 :=
  match ForgeBridge.CommandLine.parse arguments with
  | .error stop => ForgeBridge.Main.finish (.ofStop stop)
  | .ok o => ForgeBridge.Main.run o
