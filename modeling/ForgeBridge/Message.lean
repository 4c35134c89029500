import ForgeBridge.Json.Printer
import ForgeBridge.Json.Reader

/-!
Messages to a chat room, and the JSON text in which they travel.
-/

namespace ForgeBridge

/-- A chat message: what kind of message it is, and its text. -/
structure Message where
  msgtype : String
  body : String
deriving DecidableEq

namespace Message

/-- The type of a message that is marked as sent by a program. -/
def noticeType : String := "m.notice"

/-- A notice. -/
def notice (body : String) : Message := ⟨noticeType, body⟩

/-- The JSON text of a message. -/
def json (m : Message) : List UInt8 :=
  Json.object [("msgtype", Json.text m.msgtype), ("body", Json.text m.body)]

def shape : Shape :=
  .record "ChatMessage" (.cons "msgtype" .required .text (.cons "body" .required .text .nil))

def ofShape : shape.Val → Message
  | (msgtype, body, ()) => ⟨msgtype, body⟩

/-- Reads a message from its JSON text. -/
def ofJson (text : List UInt8) : Except Json.Error Message := (Json.read shape text).map ofShape

end Message

end ForgeBridge
