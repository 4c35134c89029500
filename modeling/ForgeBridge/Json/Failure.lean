import ForgeBridge.Shape
import ForgeBridge.Text.Position

/-!
Why a JSON text cannot be read, and where.
-/

namespace ForgeBridge.Json

inductive Cause where
  | endInList
  | endInObject
  | endInString
  | endInValue
  | noColon
  | noCommaOrBracket
  | noCommaOrBrace
  | badWord
  | noValue
  | badEscape
  | badNumber
  | numberTooLarge
  | badUnicode
  | controlCharacter
  | keyNotText
  | loneSurrogate
  | trailingComma
  | trailingCharacters
  | halfSurrogatePair
  | mismatch (m : Mismatch)
deriving DecidableEq

/-- The words for a cause. -/
def Cause.message : Cause → String
  | .endInList => "EOF while parsing a list"
  | .endInObject => "EOF while parsing an object"
  | .endInString => "EOF while parsing a string"
  | .endInValue => "EOF while parsing a value"
  | .noColon => "expected `:`"
  | .noCommaOrBracket => "expected `,` or `]`"
  | .noCommaOrBrace => "expected `,` or `\x7d`"
  | .badWord => "expected ident"
  | .noValue => "expected value"
  | .badEscape => "invalid escape"
  | .badNumber => "invalid number"
  | .numberTooLarge => "number out of range"
  | .badUnicode => "invalid unicode code point"
  | .controlCharacter => "control character (\\u0000-\\u001F) found while parsing a string"
  | .keyNotText => "key must be a string"
  | .loneSurrogate => "lone leading surrogate in hex escape"
  | .trailingComma => "trailing comma"
  | .trailingCharacters => "trailing characters"
  | .halfSurrogatePair => "unexpected end of hex escape"
  | .mismatch m => m.message Numeric.Binary64.compact

/-- Whether the text is JSON, but not of the shape that is asked for. -/
def Cause.isMismatch : Cause → Bool
  | .mismatch _ => true
  | _ => false

/-- One step into a value: to a member or to an element. -/
inductive Step where
  | member (name : String)
  | element (index : Nat)
deriving DecidableEq

/-- The way to a value as messages write it, such as `rooms[0].name`. -/
def Step.path : List Step → String
  | [] => ""
  | .member name :: steps => name ++ more steps
  | .element index :: steps => "[" ++ toString index ++ "]" ++ more steps
where
  more : List Step → String
    | [] => ""
    | .member name :: steps => "." ++ name ++ more steps
    | .element index :: steps => "[" ++ toString index ++ "]" ++ more steps

/-- A cause, with what of the text was unread and the way to the value that was being read. -/
structure Failure where
  cause : Cause
  rest : List UInt8
  steps : List Step
deriving DecidableEq

namespace Failure

/-- A failure in front of `rest`. -/
def before (rest : List UInt8) (cause : Cause) : Failure := ⟨cause, rest, []⟩

/-- A failure at the first byte of `bs`; its place is behind that byte. -/
def here (bs : List UInt8) (cause : Cause) : Failure := ⟨cause, bs.tail, []⟩

/-- A failure inside a member or an element, as one of the value that holds it. -/
def inside (step : Step) (f : Failure) : Failure := { f with steps := step :: f.steps }

end Failure

/-- A failure with its place in the whole text. -/
structure Error where
  cause : Cause
  position : Text.Position
  steps : List Step
deriving DecidableEq

/-- A failure, placed in the text it was met in. -/
def Failure.inText (text : List UInt8) (f : Failure) : Error :=
  ⟨f.cause, .after (text.take (text.length - f.rest.length)), f.steps⟩

/-- The words for an error. -/
def Error.message (e : Error) : String :=
  e.cause.message ++ " at line " ++ toString e.position.line ++
    " column " ++ toString e.position.column

/-- The words for an error, after the way to the value it was met in. -/
def Error.messageWithPath (e : Error) : String :=
  if e.steps.isEmpty then e.message else Step.path e.steps ++ ": " ++ e.message

/-- A function that reads a value from the front of a text and gives what is left. It reads at
least one byte. -/
structure Reader (α : Type) where
  read : List UInt8 → Except Failure (α × List UInt8)
  shorter : ∀ {bs a rest}, read bs = .ok (a, rest) → rest.length < bs.length

end ForgeBridge.Json
