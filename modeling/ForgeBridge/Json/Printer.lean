import ForgeBridge.Text.Hex
import ForgeBridge.Text.Position

/-!
Writing JSON without white space. Strings are written with the fewest escapes: the quote, the
backslash and the controls; all else stands as it is.
-/

namespace ForgeBridge.Json

open Ascii

/-- The form of one byte inside a string. -/
def escape (b : UInt8) : List UInt8 :=
  if b = quote then [backslash, quote]
  else if b = backslash then [backslash, backslash]
  else if b = 0x08 then [backslash, letterB]
  else if b = tab then [backslash, letterT]
  else if b = newline then [backslash, letterN]
  else if b = 0x0C then [backslash, letterF]
  else if b = carriageReturn then [backslash, letterR]
  else if b < space then
    [backslash, letterU, zero, zero, Text.Hex.digit (b.toNat / 16), Text.Hex.digit (b.toNat % 16)]
  else [b]

/-- A string. -/
def text (s : String) : List UInt8 := quote :: (Text.bytes s).flatMap escape ++ [quote]

/-- A whole number. -/
def number (n : Nat) : List UInt8 := Text.bytes (toString n)

/-- The members of an object, with commas between them. -/
def members : List (String × List UInt8) → List UInt8
  | [] => []
  | [(key, value)] => text key ++ colon :: value
  | (key, value) :: others => text key ++ colon :: value ++ comma :: members others

/-- An object of values that are written already. -/
def object (entries : List (String × List UInt8)) : List UInt8 :=
  openBrace :: members entries ++ [closeBrace]

end ForgeBridge.Json
