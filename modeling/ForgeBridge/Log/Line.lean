import ForgeBridge.Json.Printer
import ForgeBridge.Log

/-!
Log lines: an event as JSON, or in words.
-/

namespace ForgeBridge.Log

def Value.json : Value → List UInt8
  | .text s => Json.text s
  | .number n => Json.number n
  | .flag b => Text.bytes (if b then "true" else "false")

/-- The fields of an event, the message first. -/
def Event.fieldsJson (e : Event) : List UInt8 :=
  Json.object (("message", Json.text e.message) :: e.fields.map fun (name, v) => (name, v.json))

/-- An event at a time. -/
def Event.json (timestamp : String) (e : Event) : List UInt8 :=
  Json.object [
    ("timestamp", Json.text timestamp), ("level", Json.text e.level.name),
    ("fields", e.fieldsJson), ("target", Json.text e.source.name)]

/-- An event at a time, in words. -/
def Event.words (timestamp : String) (e : Event) : List UInt8 :=
  Text.bytes <| " ".intercalate <|
    [timestamp, e.level.name, e.source.name ++ ":", e.message] ++
      e.fields.map fun (name, v) => name ++ "=" ++ v.display

end ForgeBridge.Log
