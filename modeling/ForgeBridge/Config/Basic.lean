import ForgeBridge.Net.SocketAddress
import ForgeBridge.Shape
import ForgeBridge.Subscriptions

/-!
What the bridge is told to do: where it listens, through which account of which homeserver it talks,
and which services it runs.
-/

namespace ForgeBridge

/-- One service, as it is configured. -/
structure ServiceConfig where
  id : String
  type : String
  /-- The account the service posts as. -/
  userId : String
  /-- The secret that signs webhooks; without one they need no signature. -/
  webhookSecret : Option String
  githubToken : Option String
  rooms : Subscriptions
deriving DecidableEq

structure Config where
  listen : String
  homeserverUrl : String
  accessToken : String
  services : List ServiceConfig
deriving DecidableEq

namespace ServiceConfig

def shape : Shape :=
  .record "ServiceConfig"
    (.cons "id" .required .text
    (.cons "type" .required .text
    (.cons "user_id" .required .text
    (.cons "webhook_secret" .nullable .text
    (.cons "github_token" .nullable .text
    (.cons "rooms" .defaulted Subscriptions.shape .nil))))))

def ofShape : shape.Val → ServiceConfig
  | (id, type, userId, webhookSecret, githubToken, rooms, ()) =>
    ⟨id, type, userId, webhookSecret, githubToken,
      match rooms with
      | some entries => .ofShape entries
      | none => .empty⟩

end ServiceConfig

namespace Config

/-- Where the bridge listens when it is not told. -/
def defaultListen : String := "0.0.0.0:4050"

def shape : Shape :=
  .record "BridgeConfig"
    (.cons "listen" .defaulted .text
    (.cons "homeserver_url" .defaulted .text
    (.cons "access_token" .defaulted .text
    (.cons "services" .defaulted (.list ServiceConfig.shape) .nil))))

def ofShape : shape.Val → Config
  | (listen, homeserverUrl, accessToken, services, ()) =>
    ⟨listen.getD defaultListen, homeserverUrl.getD "", accessToken.getD "",
      (services.getD []).map .ofShape⟩

/-- The address to listen at. -/
def listenAddress? (c : Config) : Option Net.SocketAddress := Net.SocketAddress.ofText? c.listen

end Config

end ForgeBridge
