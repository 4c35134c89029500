/-!
What the bridge logs: operations return their log beside their result, in the order in which the
events happen.
-/

namespace ForgeBridge

namespace Log

inductive Level where
  | debug
  | info
  | warn
deriving DecidableEq

/-- The part of the bridge an event comes from. -/
inductive Source where
  | client
  | expansion
  | resolver
  | router
  | service
  | transport
  | hookRoute
  | server
  | logging
  | program
deriving DecidableEq

/-- The name of a part in log lines. -/
def Source.name : Source → String
  | .client => "waddle_github_bridge::client"
  | .expansion => "waddle_github_bridge::expand"
  | .resolver => "waddle_github_bridge::resolve"
  | .router => "waddle_github_bridge::router"
  | .service => "waddle_github_bridge::service"
  | .transport => "waddle_github_bridge::transport"
  | .hookRoute => "waddle_bridge_server::server::routes::hooks"
  | .server => "waddle_bridge_server::server"
  | .logging => "waddle_bridge_server::telemetry"
  | .program => "waddle_bridge_server"

/-- The value of a field. -/
inductive Value where
  | text (s : String)
  | number (n : Nat)
  | flag (b : Bool)
deriving DecidableEq

structure Event where
  source : Source
  level : Level
  message : String
  fields : List (String × Value)
deriving DecidableEq

def Level.name : Level → String
  | .debug => "DEBUG"
  | .info => "INFO"
  | .warn => "WARN"

/-- A value as it is displayed. -/
def Value.display : Value → String
  | .text s => s
  | .number n => toString n
  | .flag b => if b then "true" else "false"

end Log

/-- A result with what was logged on the way to it. -/
structure Logged (α : Type) where
  value : α
  log : List Log.Event
deriving DecidableEq

namespace Logged

instance : Monad Logged where
  pure a := ⟨a, []⟩
  bind x f := ⟨(f x.value).value, x.log ++ (f x.value).log⟩

/-- Logs one event. -/
def tell (e : Log.Event) : Logged Unit := ⟨(), [e]⟩

@[simp] theorem value_pure (a : α) : (pure a : Logged α).value = a := rfl

@[simp] theorem log_pure (a : α) : (pure a : Logged α).log = [] := rfl

@[simp] theorem value_bind (x : Logged α) (f : α → Logged β) :
    (x >>= f).value = (f x.value).value := rfl

@[simp] theorem log_bind (x : Logged α) (f : α → Logged β) :
    (x >>= f).log = x.log ++ (f x.value).log := rfl

@[simp] theorem value_tell (e : Log.Event) : (tell e).value = () := rfl

@[simp] theorem log_tell (e : Log.Event) : (tell e).log = [e] := rfl

end Logged

end ForgeBridge
