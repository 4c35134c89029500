import ForgeBridge.Config.Basic
import ForgeBridge.Text.Position

/-!
Settings from the environment. A variable counts when it is set to text that is not empty.
-/

namespace ForgeBridge

/-- The bytes that variables are set to. -/
abbrev Environment := String → Option (List UInt8)

/-- The text that a variable is set to, if it counts. -/
def Environment.text? (env : Environment) (name : String) : Option String :=
  ((env name).bind Text.ofBytes?).filter (· ≠ "")

/-- What the environment sets. -/
structure Overrides where
  listen : Option String
  homeserverUrl : Option String
  accessToken : Option String
  githubToken : Option String
deriving DecidableEq

namespace Overrides

def listenVariable : String := "WADDLE_BRIDGE_LISTEN"
def homeserverVariable : String := "WADDLE_BRIDGE_HOMESERVER"
def accessTokenVariable : String := "WADDLE_BRIDGE_ACCESS_TOKEN"
def githubTokenVariable : String := "GITHUB_TOKEN"

/-- The variables that count. -/
def variableNames : List String :=
  [listenVariable, homeserverVariable, accessTokenVariable, githubTokenVariable]

def ofEnvironment (env : Environment) : Overrides where
  listen := env.text? listenVariable
  homeserverUrl := env.text? homeserverVariable
  accessToken := env.text? accessTokenVariable
  githubToken := env.text? githubTokenVariable

/-- Gives a service the token of the environment, unless it has its own. -/
def applyToService (o : Overrides) (s : ServiceConfig) : ServiceConfig :=
  { s with githubToken := s.githubToken.or o.githubToken }

/-- A configuration with what the environment sets. -/
def apply (o : Overrides) (c : Config) : Config where
  listen := o.listen.getD c.listen
  homeserverUrl := o.homeserverUrl.getD c.homeserverUrl
  accessToken := o.accessToken.getD c.accessToken
  services := c.services.map o.applyToService

end Overrides

end ForgeBridge
