import ForgeBridge.CommandLine.Options
import ForgeBridge.Config.Load
import ForgeBridge.Homeserver
import ForgeBridge.Service.Registry

/-!
Starting the server: the configuration is loaded and checked, and only then the address of the
command line takes the place of the configured one; the services are made before the server listens.
-/

namespace ForgeBridge.Startup

open CommandLine (Options)

/-- Why a server cannot listen at an address. -/
inductive BindFailure where
  | notPermitted
  | badFamily
  | inUse
  | notAvailable
deriving DecidableEq

def BindFailure.message : BindFailure → String
  | .notPermitted => "Permission denied (os error 13)"
  | .badFamily => "Address family not supported by protocol (os error 97)"
  | .inUse => "Address already in use (os error 98)"
  | .notAvailable => "Cannot assign requested address (os error 99)"

/-- The failure that the system tells by a number. What is told by no known number is taken for the
lack of a permission. -/
def BindFailure.ofCode (code : Nat) : BindFailure :=
  if code = 97 then .badFamily
  else if code = 98 then .inUse
  else if code = 99 then .notAvailable
  else .notPermitted

/-- Why the server does not start. -/
inductive Failure where
  | loading (path : String) (error : ConfigError)
  | listen (error : ConfigError)
  | homeserver (error : Url.Error)
  | services (error : BridgeError)
  | bind (failure : BindFailure)
deriving DecidableEq

/-- The words for an error of the configuration, and for the cause behind it. -/
def configReasons (e : ConfigError) : List String :=
  e.message ::
    match e with
    | .unreadable failure => [failure.message]
    | _ => []

/-- The words for an error of the bridge, and for the causes behind it. -/
def bridgeReasons (e : BridgeError) : List String :=
  e.message ::
    match e with
    | .config error => configReasons error
    | .invalidUrl error => [error.message]
    | .httpClient reason => [reason]
    | _ => []

/-- The words for a failure, each with its cause behind it. -/
def Failure.reasons : Failure → List String
  | .loading path error => ("loading " ++ path) :: configReasons error
  | .listen error => configReasons error
  | .homeserver error => bridgeReasons (.invalidUrl error)
  | .services error => bridgeReasons error
  | .bind failure => [failure.message]

/-- A text in which each line is set in, the first one by a mark. -/
def setIn (mark blanks : String) (s : String) : String :=
  mark ++ ("\n" ++ blanks).intercalate ((Text.splitAt '\n' s.toList).map .ofList)

/-- Causes, each on lines of its own. Several are numbered. -/
def causesText (causes : List String) : List String :=
  match causes with
  | [cause] => [setIn "    " "    " cause]
  | causes => causes.zipIdx.map fun (cause, i) =>
    let number := toString i
    setIn (.ofList (List.replicate (5 - number.length) ' ') ++ number ++ ": ") "       " cause

/-- What is told of a failure. -/
def Failure.report (f : Failure) : String :=
  match f.reasons with
  | [] => "Error: \n"
  | reason :: causes =>
    "Error: " ++ reason ++
      (if causes.isEmpty then "" else "\n\nCaused by:\n" ++ "\n".intercalate (causesText causes)) ++
      "\n"

/-! ## Steps -/

/-- A server that is ready to listen. -/
structure Ready where
  address : Net.SocketAddress
  homeserver : Homeserver
  registry : Registry

/-- The configuration with the address of the command line. -/
def override (o : Options) (c : Config) : Config :=
  { c with listen := o.listen.getD c.listen }

/-- The configuration that a server starts with, and where it listens. -/
def configure (o : Options) (env : Environment) (file : Config.FileState) :
    Except Failure (Config × Net.SocketAddress) :=
  match Config.loadFile env o.config file with
  | .error e => .error (.loading o.config e)
  | .ok c =>
    let c := override o c
    match c.listenAddress with
    | .error e => .error (.listen e)
    | .ok address => .ok (c, address)

/-- What is logged before anything else. -/
def greeting (o : Options) : List Log.Event := [
  ⟨.logging, .info, "Telemetry initialized", [("json", .flag o.json)]⟩,
  ⟨.program, .info, "Waddle Bridge Server starting...", []⟩,
  ⟨.program, .info, "Version: " ++ CommandLine.programVersion, []⟩]

/-- Makes a server of a configuration. -/
def prepare (c : Config) (address : Net.SocketAddress) : Logged (Except Failure Ready) :=
  match Homeserver.ofText c.homeserverUrl c.accessToken with
  | .error e => return .error (.homeserver e)
  | .ok homeserver => do
    match ← (Registry.new false).load c with
    | (_, .error e) => return .error (.services e)
    | (registry, .ok ()) =>
      .tell ⟨.program, .info, "Services loaded", [("services", .number registry.size)]⟩
      .tell ⟨.server, .info, "Starting Axum HTTP server on " ++ address.display, []⟩
      return .ok ⟨address, homeserver, registry⟩

/-- What is logged when the server has ended. -/
def farewell : Log.Event := ⟨.logging, .info, "Telemetry shutdown complete", []⟩

/-- All steps up to listening. -/
def start (o : Options) (env : Environment) (file : Config.FileState) :
    Logged (Except Failure Ready) := do
  let _ ← (⟨(), greeting o⟩ : Logged Unit)
  match configure o env file with
  | .error e => return .error e
  | .ok (c, address) => prepare c address

end ForgeBridge.Startup
