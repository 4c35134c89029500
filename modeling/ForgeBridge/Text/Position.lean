import ForgeBridge.Text.Ascii

/-!
Places in a text, as error messages name them.
-/

namespace ForgeBridge.Text

/-- A line, counted from one, and how many bytes of it stand before the place. -/
structure Position where
  line : Nat
  column : Nat
deriving DecidableEq

/-- The place reached once `before` is read. -/
def Position.after (before : List UInt8) : Position where
  line := before.count Ascii.newline + 1
  column := (before.reverse.takeWhile (· ≠ Ascii.newline)).length

/-- The bytes of a text. -/
def bytes (s : String) : List UInt8 := s.toUTF8.toList

/-- The text that bytes encode, when they encode one. -/
def ofBytes? (bs : List UInt8) : Option String := String.fromUTF8? bs.toByteArray

end ForgeBridge.Text
