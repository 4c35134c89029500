import ForgeBridge.Text.Hex
import ForgeBridge.Text.Position

/-!
Percent encoding: a byte that may not stand for itself is written as a percent sign and two capital
hexadecimal digits. Which bytes those are depends on the part of the URL.
-/

namespace ForgeBridge.Url

/-- A set of ASCII characters to encode. Controls and all that is not ASCII are always encoded. -/
abbrev EncodeSet := List Char

namespace EncodeSet

def controls : EncodeSet := []
def fragment : EncodeSet := [' ', '"', '<', '>', '\x60']
def query : EncodeSet := [' ', '"', '#', '<', '>']
def specialQuery : EncodeSet := '\'' :: query
def path : EncodeSet := ['#', '?', '\x7b', '\x7d'] ++ fragment
def userinfo : EncodeSet := ['/', ':', ';', '=', '@', '[', '\\', ']', '^', '|'] ++ path

/-- For a segment of a path that is given as a whole: the slash and the percent sign too. -/
def segment : EncodeSet := ['/', '%'] ++ path

/-- In URLs of special schemes, a backslash means a slash. -/
def specialSegment : EncodeSet := '\\' :: segment

/-- Whether a character is encoded. -/
def holds (set : EncodeSet) (c : Char) : Bool := c < ' ' || '~' < c || set.contains c

end EncodeSet

/-- A capital hexadecimal digit. -/
def hexCapital (n : Nat) : Char := if n < 10 then .ofNat (0x30 + n) else .ofNat (0x37 + n)

/-- The bytes of a character, each as a percent sign and two digits. -/
def percentChar (c : Char) : List Char :=
  (String.utf8EncodeChar c).flatMap fun b =>
    ['%', hexCapital (b.toNat / 16), hexCapital (b.toNat % 16)]

/-- A text with the characters of a set encoded. -/
def percentEncode (set : EncodeSet) (cs : List Char) : List Char :=
  cs.flatMap fun c => if set.holds c then percentChar c else [c]

/-- The bytes of a text, with those that percent signs stand for. A percent sign without two digits
stands for itself. -/
def percentDecode : List UInt8 → List UInt8
  | [] => []
  | 0x25 :: high :: low :: rest =>
    match Ascii.hexDigit? high, Ascii.hexDigit? low with
    | some h, some l => .ofNat (h * 16 + l) :: percentDecode rest
    | _, _ => 0x25 :: percentDecode (high :: low :: rest)
  | b :: rest => b :: percentDecode rest

end ForgeBridge.Url
