import ForgeBridge.Text.Ascii

/-!
Bytes written as pairs of hexadecimal digits. Both cases are read, small letters are written.
-/

namespace ForgeBridge.Text.Hex

/-- The bytes that pairs of digits stand for. -/
def decode : List UInt8 → Option (List UInt8)
  | [] => some []
  | [_] => none
  | high :: low :: rest =>
    match Ascii.hexDigit? high, Ascii.hexDigit? low with
    | some h, some l => (decode rest).map (.ofNat (h * 16 + l) :: ·)
    | _, _ => none

/-- The digit of a number below sixteen. -/
def digit (n : Nat) : UInt8 := if n < 10 then .ofNat (0x30 + n) else .ofNat (0x57 + n)

/-- Two digits for each byte. -/
def encode (bs : List UInt8) : List UInt8 :=
  bs.flatMap fun b => [digit (b.toNat / 16), digit (b.toNat % 16)]

end ForgeBridge.Text.Hex
