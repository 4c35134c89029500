import ForgeBridge.Digest.Hmac
import ForgeBridge.Text.Hex
import ForgeBridge.Text.Pieces
import ForgeBridge.Webhook.Request

/-!
Signatures of webhook deliveries. A secret that is not empty asks for one. A SHA-256 signature
counts alone when there is one, and else the SHA-1 signature.
-/

namespace ForgeBridge.Webhook

open Digest

/-- Whether a signature, with or without its label, is the keyed digest of a body in hexadecimal
digits. -/
def isSignature (label : String) (digest : List UInt8 → List UInt8) (secret : String)
    (body : List UInt8) (signature : String) : Bool :=
  Text.Hex.decode (Text.bytes (Text.dropLabel label signature)) =
    some (hmac digest (Text.bytes secret) body)

/-- Whether a request is signed with a secret. -/
def Request.verify (r : Request) (secret : String) : Except DecodeError Unit :=
  match r.signature256, r.signature with
  | some s, _ => if isSignature "sha256=" sha256 secret r.body s then .ok () else .error .badSignature
  | none, some s => if isSignature "sha1=" sha1 secret r.body s then .ok () else .error .badSignature
  | none, none => .error .missingSignature

end ForgeBridge.Webhook
