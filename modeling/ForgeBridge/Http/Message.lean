import ForgeBridge.Http.MediaType
import ForgeBridge.Http.Target

/-!
Requests to the server as they arrive, and its answers.
-/

namespace ForgeBridge.Http

structure Request where
  method : List UInt8
  target : List UInt8
  headers : List (List UInt8 × List UInt8)
  body : List UInt8
deriving DecidableEq

structure Response where
  status : Nat
  contentType : Option String
  /-- The methods that would be allowed, where this one is not. -/
  allow : Option String
  body : List UInt8
deriving DecidableEq

namespace Response

/-- An answer without a body. -/
def empty (status : Nat) : Response := ⟨status, none, none, []⟩

/-- An answer in words. -/
def text (status : Nat) (s : String) : Response :=
  ⟨status, some "text/plain; charset=utf-8", none, Text.bytes s⟩

/-- An answer in JSON. -/
def json (status : Nat) (body : List UInt8) : Response :=
  ⟨status, some "application/json", none, body⟩

/-- The answer to a method that is not among those allowed. -/
def notAllowed (methods : List String) : Response :=
  ⟨405, none, some (",".intercalate methods), []⟩

/-- The answer without its body. -/
def withoutBody (r : Response) : Response := { r with body := [] }

end Response

namespace Request

/-- A byte that may stand in the name of a method or of a header. -/
def isTokenByte (b : UInt8) : Bool := b < 0x80 && isTokenChar (.ofNat b.toNat)

def isToken (bs : List UInt8) : Bool := !bs.isEmpty && bs.all isTokenByte

/-- A byte that may stand in the value of a header. -/
def isValueByte (b : UInt8) : Bool := b = Ascii.tab || (Ascii.space ≤ b && b ≠ 0x7F)

/-- Whether a request can be understood at all. -/
def isWellFormed (r : Request) : Bool :=
  isToken r.method && r.headers.all fun (name, value) => isToken name && value.all isValueByte

def isBlank (b : UInt8) : Bool := b = Ascii.space || b = Ascii.tab

/-- The value of a header without the blanks around it. -/
def trim (value : List UInt8) : List UInt8 :=
  ((value.dropWhile isBlank).reverse.dropWhile isBlank).reverse

/-- A capital letter as a small one. -/
def lowerByte (b : UInt8) : UInt8 := if 0x41 ≤ b && b ≤ 0x5A then b + 0x20 else b

/-- The value of the first header of a name. Names are the same in capital and in small letters. -/
def header? (r : Request) (name : String) : Option (List UInt8) :=
  (r.headers.find? fun h => h.1.map lowerByte = Text.bytes name).map (trim ·.2)

/-- A byte that stands for a character that can be seen, a space or a tab. -/
def isVisible (b : UInt8) : Bool := b = Ascii.tab || (Ascii.space ≤ b && b < 0x7F)

/-- The value of a header as text. A value that is more than visible ASCII counts as none. -/
def headerText? (r : Request) (name : String) : Option String := do
  let value ← r.header? name
  if value.all isVisible then Text.ofBytes? value else none

/-- Whether the body of a request is said to be JSON. -/
def isJson (r : Request) : Bool :=
  ((r.headerText? "content-type").bind MediaType.ofText?).any (·.isJson)

/-- How many bytes a body may have. -/
def bodyLimit : Nat := 2 * 1024 * 1024

def isTooLarge (r : Request) : Bool := bodyLimit < r.body.length

end Request

end ForgeBridge.Http
