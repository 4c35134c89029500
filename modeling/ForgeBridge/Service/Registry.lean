import ForgeBridge.Config.Error
import ForgeBridge.Service.Basic

/-!
The services that are live, by their ids, and how services of each type are made.
-/

namespace ForgeBridge

/-- Why a service cannot be made or found. -/
inductive BridgeError where
  | config (error : ConfigError)
  | unknownServiceType (type : String)
  | duplicateService (id : String)
  | serviceNotFound (id : String)
  | httpClient (reason : String)
  | invalidUrl (error : Url.Error)
deriving DecidableEq

def BridgeError.message : BridgeError → String
  | .config error => "Configuration error: " ++ error.message
  | .unknownServiceType type => "Unknown service type: " ++ type
  | .duplicateService id => "Service already registered: " ++ id
  | .serviceNotFound id => "Service not found: " ++ id
  | .httpClient reason => "HTTP client error: " ++ reason
  | .invalidUrl error => "Invalid URL: " ++ error.message

/-- Makes a service as it is configured. -/
abbrev Factory := ServiceConfig → Logged (Except BridgeError Service)

structure Registry where
  factories : Keyed Factory
  services : Keyed Service

namespace Registry

/-- A registry that knows no type of service. -/
def empty : Registry := ⟨.empty, .empty⟩

/-- Makes services of the built-in type. -/
def builtIn (sharesTracker : Bool) : Factory := fun c => do
  let service ← Service.ofConfig sharesTracker c
  return .ok service

/-- From now on, services of a type are made in this way. -/
def registerFactory (r : Registry) (type : String) (f : Factory) : Registry :=
  { r with factories := r.factories.insert type f }

/-- A registry that knows the built-in type. -/
def new (sharesTracker : Bool) : Registry :=
  empty.registerFactory Service.typeName (builtIn sharesTracker)

def get? (r : Registry) (id : String) : Option Service := r.services.get? id

def serviceIds (r : Registry) : List String := r.services.keys

def size (r : Registry) : Nat := r.services.size

/-- Makes a service and takes it in, if its type is known and its id is free. -/
def register (r : Registry) (c : ServiceConfig) : Logged (Registry × Except BridgeError Service) :=
  match r.factories.get? c.type with
  | none => return (r, .error (.unknownServiceType c.type))
  | some factory =>
    match r.get? c.id with
    | some _ => return (r, .error (.duplicateService c.id))
    | none => do
      match ← factory c with
      | .error e => return (r, .error e)
      | .ok service =>
        .tell ⟨.service, .info, "Registered service",
          [("service_id", .text c.id), ("service_type", .text c.type),
            ("rooms", .number service.roomIds.length)]⟩
        return ({ r with services := r.services.insert c.id service }, .ok service)

/-- Registers services one after the other, up to the first that cannot be. -/
def registerAll (r : Registry) : List ServiceConfig → Logged (Registry × Except BridgeError Unit)
  | [] => return (r, .ok ())
  | c :: cs => do
    match ← r.register c with
    | (r, .error e) => return (r, .error e)
    | (r, .ok _) => r.registerAll cs

/-- Registers the services of a configuration. -/
def load (r : Registry) (c : Config) : Logged (Registry × Except BridgeError Unit) :=
  r.registerAll c.services

/-- Takes a service out. -/
def deregister (r : Registry) (id : String) : Logged (Registry × Option Service) :=
  match r.get? id with
  | none => return (r, none)
  | some service => do
    .tell ⟨.service, .info, "Deregistered service", [("service_id", .text id)]⟩
    return ({ r with services := r.services.erase id }, some service)

/-- Shows a text to a service. The service is only asked when the text is of a kind it wants to
see. -/
def expand (r : Registry) (lookup : Tracker.Lookup) (id room text : String) :
    Logged (Except BridgeError Expansion.Result) :=
  match r.get? id with
  | none => return .error (.serviceNotFound id)
  | some service =>
    if service.expansions.any (·.isIn text) then do
      let result ← service.expand lookup room text
      return .ok result
    else return .ok ⟨none, []⟩

end Registry

end ForgeBridge
