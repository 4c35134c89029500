import ForgeBridge.Config.Error
import ForgeBridge.Config.Overrides
import ForgeBridge.Toml.Decode
import ForgeBridge.Url.Parser

/-!
Loading a configuration: the text is read, the environment is applied, and only then the whole is
checked. Of several faults, empty fields are told first and all at once.
-/

namespace ForgeBridge.Config

/-- The empty fields of the service with an index. -/
def emptyServiceFields (index : Nat) (s : ServiceConfig) : List String :=
  let place := "services[" ++ toString index ++ "]."
  (if s.id = "" then [place ++ "id"] else []) ++
    if s.userId = "" then [place ++ "user_id"] else []

/-- The fields that are empty and must not be, in order. -/
def emptyFields (c : Config) : List String :=
  (if c.homeserverUrl = "" then ["homeserver_url"] else []) ++
  (if c.accessToken = "" then ["access_token"] else []) ++
  c.services.zipIdx.flatMap fun (s, i) => emptyServiceFields i s

/-- The first name that stands earlier in a list too, given the names before it. -/
def firstRepeated? (before : List String) : List String → Option String
  | [] => none
  | name :: names =>
    if before.contains name then some name else firstRepeated? (name :: before) names

/-- What is wrong with an address to listen at. -/
def badListen : ConfigError := .invalidValue "listen" "invalid socket address syntax"

/-- The address to listen at. -/
def listenAddress (c : Config) : Except ConfigError Net.SocketAddress :=
  match c.listenAddress? with
  | some address => .ok address
  | none => .error badListen

/-- Checks a configuration. -/
def validate (c : Config) : Except ConfigError Unit :=
  if c.emptyFields ≠ [] then .error (.missingRequiredFields c.emptyFields)
  else if c.listenAddress? = none then .error badListen
  else
    match Url.parse c.homeserverUrl with
    | .error _ => .error (.invalidValue "homeserver_url" "must be an absolute URL")
    | .ok _ =>
      match firstRepeated? [] (c.services.map (·.id)) with
      | some id =>
        .error (.invalidValue "services.id" ("duplicate service id '" ++ id ++ "'"))
      | none => .ok ()

/-- Reads a configuration from its text. -/
def ofToml (text : String) : Except ConfigError Config :=
  match Toml.read shape text with
  | .error e => .error (.invalidToml e.position e.reason.message)
  | .ok value => .ok (ofShape value)

/-- Applies what the environment sets, and checks the result. -/
def settle (o : Overrides) (c : Config) : Except ConfigError Config :=
  match (o.apply c).validate with
  | .error e => .error e
  | .ok () => .ok (o.apply c)

/-- Loads a configuration from its text. -/
def load (env : Environment) (text : String) : Except ConfigError Config :=
  match ofToml text with
  | .error e => .error e
  | .ok c => settle (.ofEnvironment env) c

/-- What stands under the name of a file. -/
inductive FileState where
  | missing
  | unreadable (failure : ReadFailure)
  | file (content : List UInt8)
deriving DecidableEq

/-- Loads a configuration from a file. -/
def loadFile (env : Environment) (path : String) (state : FileState) : Except ConfigError Config :=
  if path.toList.contains '\x00' then .error (.unreadable .nulInPath)
  else
    match state with
    | .missing => .error (.fileNotFound path)
    | .unreadable failure => .error (.unreadable failure)
    | .file content =>
      match Text.ofBytes? content with
      | none => .error (.unreadable .notText)
      | some text => load env text

end ForgeBridge.Config
