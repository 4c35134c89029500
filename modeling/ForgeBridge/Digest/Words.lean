/-!
Messages as blocks of 32-bit words, most significant byte first, as the SHA family takes them.
-/

namespace ForgeBridge.Digest

/-- The word of four bytes. -/
def word (a b c d : UInt8) : UInt32 :=
  (a.toUInt32 <<< 24) ||| (b.toUInt32 <<< 16) ||| (c.toUInt32 <<< 8) ||| d.toUInt32

/-- The words of a text, which are whole. -/
def words : List UInt8 → List UInt32
  | a :: b :: c :: d :: rest => word a b c d :: words rest
  | _ => []

/-- The four bytes of a word. -/
def wordBytes (w : UInt32) : List UInt8 :=
  [(w >>> 24).toUInt8, (w >>> 16).toUInt8, (w >>> 8).toUInt8, w.toUInt8]

/-- A word turned to the left. -/
def rotateLeft (w : UInt32) (n : UInt32) : UInt32 := (w <<< n) ||| (w >>> (32 - n))

/-- A word turned to the right. -/
def rotateRight (w : UInt32) (n : UInt32) : UInt32 := (w >>> n) ||| (w <<< (32 - n))

/-- What is put behind a message: a one bit, zeros up to a whole number of blocks, and the number
of bits in 64 bits. -/
def padding (length : Nat) : List UInt8 :=
  0x80 :: List.replicate ((119 - length % 64) % 64) 0 ++
    wordBytes (.ofNat (length * 8 / UInt32.size)) ++ wordBytes (.ofNat (length * 8))

/-- The blocks of sixteen words of a padded message. -/
def blocksOf (ws : List UInt32) : List (List UInt32) :=
  match ws with
  | [] => []
  | w :: rest => (w :: rest).take 16 :: blocksOf ((w :: rest).drop 16)
termination_by ws.length
decreasing_by
  rw [List.length_drop, List.length_cons]
  omega

/-- The blocks of a message. -/
def blocks (message : List UInt8) : List (List UInt32) :=
  blocksOf (words (message ++ padding message.length))

end ForgeBridge.Digest
