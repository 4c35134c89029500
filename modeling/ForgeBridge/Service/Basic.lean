import ForgeBridge.Config.Basic
import ForgeBridge.Expansion
import ForgeBridge.Routing
import ForgeBridge.Tracker.Client

/-!
A service: webhooks of repositories come in and go to the rooms that want them, and references to
issues in chat texts are expanded. Its table of rooms can be replaced as a whole.
-/

namespace ForgeBridge

structure Service where
  id : String
  userId : String
  webhookSecret : Option String
  subscriptions : Subscriptions
deriving DecidableEq

namespace Service

/-- The type of these services. -/
def typeName : String := "github"

/-- The service that is configured, which has no tracker of its own when it is given one to share. -/
def ofConfig (sharesTracker : Bool) (c : ServiceConfig) : Logged Service := do
  if !sharesTracker then
    let _ ← Tracker.Client.new Tracker.Client.publicApi c.githubToken
  return ⟨c.id, c.userId, c.webhookSecret, c.rooms⟩

def roomIds (s : Service) : List String := s.subscriptions.roomIds

/-- The kinds of text it wants to see. -/
def expansions (_ : Service) : List Expansion.Pattern := [Expansion.issueReferences]

/-- Another table takes the place of the present one. -/
def replaceSubscriptions (s : Service) (t : Subscriptions) : Logged Service := do
  .tell ⟨.service, .debug, "Replaced subscription table", [("service_id", .text s.id)]⟩
  return { s with subscriptions := t }

/-- Decodes a webhook and routes its event. -/
def handleWebhook (s : Service) (deliver : String → Message → Outcome) (r : Webhook.Request) :
    Logged (Except Webhook.DecodeError Routing.Pass) :=
  match Webhook.Event.ofRequest r s.webhookSecret with
  | .error e => return .error e
  | .ok event => do
    let pass ← Routing.route deliver s.subscriptions event
    return .ok pass

/-- Expands a text that was seen in a room. -/
def expand (_ : Service) (lookup : Tracker.Lookup) (_room text : String) : Logged Expansion.Result :=
  Expansion.expand lookup text

end Service

end ForgeBridge
