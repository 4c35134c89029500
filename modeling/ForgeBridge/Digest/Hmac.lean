import ForgeBridge.Digest.Sha1
import ForgeBridge.Digest.Sha256

/-!
Keyed digests of messages (HMAC) over digests with blocks of 64 bytes.
-/

namespace ForgeBridge.Digest

/-- The size of a block. -/
def blockSize : Nat := 64

/-- A key of one block: a longer one is digested first, a shorter one is filled up with zeros. -/
def blockKey (digest : List UInt8 → List UInt8) (key : List UInt8) : List UInt8 :=
  let short := if key.length ≤ blockSize then key else digest key
  short ++ List.replicate (blockSize - short.length) 0

/-- The digest of a message under a key. -/
def hmac (digest : List UInt8 → List UInt8) (key message : List UInt8) : List UInt8 :=
  let key := blockKey digest key
  digest (key.map (· ^^^ 0x5C) ++ digest (key.map (· ^^^ 0x36) ++ message))

end ForgeBridge.Digest
