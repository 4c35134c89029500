import ForgeBridge.Log
import ForgeBridge.Text.Pieces
import ForgeBridge.Text.Position

/-!
Which events are logged. A filter is a list of directives with commas in between: a level for all
events, or a level for those of a part of the program. The directive that names an event's part most
closely counts.
-/

namespace ForgeBridge.Log

/-- How much is logged. -/
inductive Verbosity where
  | off
  | error
  | warn
  | info
  | debug
  | trace
deriving DecidableEq

namespace Verbosity

def rank : Verbosity → Nat
  | .off => 0
  | .error => 1
  | .warn => 2
  | .info => 3
  | .debug => 4
  | .trace => 5

def all : List (String × Verbosity) :=
  [("off", .off), ("error", .error), ("warn", .warn), ("info", .info), ("debug", .debug),
    ("trace", .trace), ("0", .off), ("1", .error), ("2", .warn), ("3", .info), ("4", .debug),
    ("5", .trace)]

/-- Reads a level, in small or capital letters or as a number. -/
def ofText? (s : String) : Option Verbosity := all.lookup (.ofList (s.toList.map Char.toLower))

end Verbosity

/-- The level from which on events of a level are logged. -/
def Level.verbosity : Level → Verbosity
  | .debug => .debug
  | .info => .info
  | .warn => .warn

/-- A level for the parts of the program whose names start in a way. -/
structure Directive where
  source : String
  verbosity : Verbosity
deriving DecidableEq

abbrev Filter := List Directive

namespace Filter

/-- Everything that matters, and all that this program has to say. -/
def standard : Filter :=
  [⟨"", .info⟩, ⟨"waddle_github_bridge", .debug⟩, ⟨"waddle_bridge_server", .debug⟩]

def isNameChar (c : Char) : Bool := c.isAlphanum || c = '_' || c = ':' || c = '-'

/-- Reads a directive. A name alone means everything from there. -/
def directive? (cs : List Char) : Option Directive :=
  match Text.cut ['='] cs with
  | some (name, level) =>
    if name.all isNameChar then (Verbosity.ofText? (.ofList level)).map (⟨.ofList name, ·⟩) else none
  | none =>
    match Verbosity.ofText? (.ofList cs) with
    | some v => some ⟨"", v⟩
    | none => if cs.all isNameChar then some ⟨.ofList cs, .trace⟩ else none

/-- Reads a filter. One that is empty lets errors through. -/
def ofText? (s : String) : Option Filter := do
  let pieces := (Text.splitAt ',' s.toList).filter (· ≠ [])
  let directives ← pieces.mapM directive?
  return if directives.isEmpty then [⟨"", .error⟩] else directives

/-- The variable that a filter can be set by. -/
def variableName : String := "RUST_LOG"

/-- The filter that the environment asks for. -/
def ofEnvironment (env : String → Option (List UInt8)) : Filter :=
  (((env variableName).bind Text.ofBytes?).bind ofText?).getD standard

/-- The directives for a part of the program. -/
def relevant (f : Filter) (s : Source) : Filter :=
  f.filter fun d => d.source.toList.isPrefixOf s.name.toList

/-- Whether an event is logged. -/
def passes (f : Filter) (e : Event) : Bool :=
  let best := (relevant f e.source).foldl (fun (best : Option Directive) d =>
    match best with
    | none => some d
    | some b => if b.source.length ≤ d.source.length then some d else best) none
  best.any fun d => e.level.verbosity.rank ≤ d.verbosity.rank

/-- The events that are logged. -/
def select (f : Filter) (events : List Event) : List Event := events.filter f.passes

end Filter

end ForgeBridge.Log
