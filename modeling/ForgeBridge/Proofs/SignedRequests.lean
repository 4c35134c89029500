import ForgeBridge.Http.Message
import ForgeBridge.Proofs.TextBytes
import ForgeBridge.Webhook.Event
import Mathlib.Data.FinEnum

/-!
# Signed requests

A signature is a keyed digest of the body, written in hexadecimal digits of either case, with or without
one label in front (`isSignature_iff`). Where a secret is set, a request that is signed is decoded as if
there were no secret, and every other one is refused with 403, whatever else is wrong with it; without a
secret the signatures are not looked at (`Event.ofRequest_signed`).
-/

namespace ForgeBridge

/-! ## Hexadecimal digits -/

namespace Text.Hex

open Http.Request (lowerByte)

/-- A text that writes bytes as pairs of hexadecimal digits, of either case. -/
def Spells (s : String) (bs : List UInt8) : Prop := (bytes s).map lowerByte = encode bs

theorem encode_cons (b : UInt8) (bs : List UInt8) :
    encode (b :: bs) = digit (b.toNat / 16) :: digit (b.toNat % 16) :: encode bs := rfl

/-- What stands for a number is its digit, as a capital or as a small letter. -/
theorem hexDigit?_eq_some {b : UInt8} {n : Nat} :
    Ascii.hexDigit? b = some n ↔ n < 16 ∧ lowerByte b = digit n := by
  -- both ways are checked byte by byte
  constructor
  · have h : ∀ b, ∀ n ∈ Ascii.hexDigit? b, n < 16 ∧ lowerByte b = digit n := by decide +kernel
    exact h b n
  · have h : ∀ b, ∀ n < 16, lowerByte b = digit n → Ascii.hexDigit? b = some n := by decide +kernel
    exact fun ⟨hn, hb⟩ => h b n hn hb

theorem digit_inj {m n : Nat} (hm : m < 16) (hn : n < 16) : digit m = digit n ↔ m = n := by
  have h : ∀ m < 16, ∀ n < 16, digit m = digit n ↔ m = n := by decide
  exact h m hm n hn

/-- Two digits are those of a byte when they are the digits of its halves. -/
theorem ofNat_eq_iff {m n : Nat} (hm : m < 16) (hn : n < 16) {b : UInt8} :
    UInt8.ofNat (m * 16 + n) = b ↔ m = b.toNat / 16 ∧ n = b.toNat % 16 := by
  rw [← UInt8.toNat_inj, UInt8.toNat_ofNat_of_lt' (show m * 16 + n < 256 by omega)]
  omega

/-- Digits stand for bytes when they are the digits of these bytes, capital letters taken as small ones. -/
theorem decode_eq_some {cs bs : List UInt8} : decode cs = some bs ↔ cs.map lowerByte = encode bs := by
  fun_induction decode cs generalizing bs with
  | case1 => cases bs <;> simp [encode]
  | case2 c => cases bs <;> simp [encode]
  | case3 high low rest h l hl hh ih =>
    obtain ⟨hlt, hhigh⟩ := hexDigit?_eq_some.1 hh
    obtain ⟨llt, hlow⟩ := hexDigit?_eq_some.1 hl
    cases bs with
    | nil => simp [encode]
    | cons b bs =>
      have hb : b.toNat < 256 := b.toNat_lt
      simp only [Option.map_eq_some_iff, List.cons.injEq, exists_eq_right_right, ih, List.map_cons, encode_cons,
        hhigh, hlow, digit_inj hlt (show b.toNat / 16 < 16 by omega),
        digit_inj llt (show b.toNat % 16 < 16 by omega), ofNat_eq_iff hlt llt]
      tauto
  | case4 high low rest hnot =>
    refine iff_of_false (by simp) fun h => ?_
    cases bs with
    | nil => simp [encode] at h
    | cons b bs =>
      have hb : b.toNat < 256 := b.toNat_lt
      simp only [List.map_cons, encode_cons, List.cons.injEq] at h
      exact hnot _ _ (hexDigit?_eq_some.2 ⟨by omega, h.1⟩) (hexDigit?_eq_some.2 ⟨by omega, h.2.1⟩)

theorem exists_digit_of_mem {bs : List UInt8} {b : UInt8} (h : b ∈ encode bs) : ∃ n < 16, b = digit n := by
  obtain ⟨c, -, hc⟩ := List.mem_flatMap.1 h
  have hlt : c.toNat < 256 := c.toNat_lt
  rcases List.mem_pair.1 hc with rfl | rfl
  · exact ⟨_, by omega, rfl⟩
  · exact ⟨_, by omega, rfl⟩

/-- The equals sign is no digit. -/
theorem equals_notMem_encode (bs : List UInt8) : 0x3D ∉ encode bs := by
  have hne : ∀ n < 16, 0x3D ≠ digit n := by decide
  intro h
  obtain ⟨n, hn, heq⟩ := exists_digit_of_mem h
  exact hne n hn heq

theorem decode_bytes {s : String} {bs : List UInt8} : decode (bytes s) = some bs ↔ Spells s bs :=
  decode_eq_some

end Text.Hex

/-! ## Labels -/

namespace Text

theorem dropLabel_append (label s : String) : dropLabel label (label ++ s) = s := by
  rw [dropLabel, String.toList_append, if_pos (by simp), ← String.length_toList, List.drop_left,
    String.ofList_toList]

/-- Nothing is dropped, or the label stands in front of what is left. -/
theorem dropLabel_cases (label s : String) : dropLabel label s = s ∨ s = label ++ dropLabel label s := by
  by_cases h : label.toList <+: s.toList
  · obtain ⟨rest, hrest⟩ := h
    have hs : s = label ++ .ofList rest := by
      rw [← String.toList_inj, String.toList_append, String.toList_ofList, hrest]
    exact .inr (by rw [hs, dropLabel_append])
  · exact .inl (by rw [dropLabel, if_neg (by simpa using h)])

end Text

/-! ## Signatures -/

namespace Webhook

open Digest

/-- A signature of what has a keyed digest: its hexadecimal digits, with or without a label. -/
def Signs (label : String) (tag : List UInt8) (signature : String) : Prop :=
  ∃ digits, Text.Hex.Spells digits tag ∧ (signature = digits ∨ signature = label ++ digits)

/-- Digits never start with a label that ends in an equals sign. -/
theorem dropLabel_digits {label digits : String} {tag : List UInt8} (hlabel : 0x3D ∈ Text.bytes label)
    (h : Text.Hex.Spells digits tag) : Text.dropLabel label digits = digits := by
  rcases Text.dropLabel_cases label digits with hsame | hcut
  · exact hsame
  · have hmem : (0x3D : UInt8) ∈ (Text.bytes digits).map Http.Request.lowerByte := by
      rw [hcut, Text.bytes_append]
      exact List.mem_map.2 ⟨0x3D, List.mem_append_left _ hlabel, by decide⟩
    rw [h] at hmem
    exact absurd hmem (Text.Hex.equals_notMem_encode tag)

theorem isSignature_iff {label : String} (hlabel : 0x3D ∈ Text.bytes label)
    {digest : List UInt8 → List UInt8} {secret : String} {body : List UInt8} {signature : String} :
    isSignature label digest secret body signature ↔
      Signs label (hmac digest (Text.bytes secret) body) signature := by
  simp only [isSignature, decide_eq_true_eq, Text.Hex.decode_bytes]
  constructor
  · intro h
    refine ⟨_, h, ?_⟩
    rcases Text.dropLabel_cases label signature with hsame | hcut
    · exact .inl hsame.symm
    · exact .inr hcut
  · rintro ⟨digits, h, rfl | rfl⟩
    · rwa [dropLabel_digits hlabel h]
    · rwa [Text.dropLabel_append]

namespace Request

/-- A request is signed when the SHA-256 signature, or the SHA-1 signature if there is no other, is one of
the body under the secret. -/
def Signed (r : Request) (secret : String) : Prop :=
  match r.signature256, r.signature with
  | some s, _ => Signs "sha256=" (hmac sha256 (Text.bytes secret) r.body) s
  | none, some s => Signs "sha1=" (hmac sha1 (Text.bytes secret) r.body) s
  | none, none => False

theorem verify_eq_ok {r : Request} {secret : String} : r.verify secret = .ok () ↔ r.Signed secret := by
  obtain ⟨event, signature, signature256, body⟩ := r
  cases signature256 with
  | some s =>
    have h : verify ⟨event, signature, some s, body⟩ secret = .ok () ↔
        isSignature "sha256=" sha256 secret body s := by simp [verify]
    exact h.trans (isSignature_iff (by decide +kernel))
  | none =>
    cases signature with
    | some s =>
      have h : verify ⟨event, some s, none, body⟩ secret = .ok () ↔
          isSignature "sha1=" sha1 secret body s := by simp [verify]
      exact h.trans (isSignature_iff (by decide +kernel))
    | none => simp [verify, Signed]

theorem status_of_verify {r : Request} {secret : String} {e : DecodeError} (h : r.verify secret = .error e) :
    e.status = 403 := by
  simp only [verify] at h
  split at h
  · split at h <;> cases h
    rfl
  · split at h <;> cases h
    rfl
  · cases h
    rfl

end Request

/-! ## Events of requests -/

namespace Event

theorem ofRequest_some (r : Request) {secret : String} (h : secret ≠ "") :
    ofRequest r (some secret) = (r.verify secret).bind fun _ => ofUnsigned r := by
  have hfilter : (some secret).filter (· ≠ "") = some secret := by simpa using h
  simp only [ofRequest, hfilter]
  cases r.verify secret <;> rfl

theorem ofRequest_of_signed {r : Request} {secret : String} (hne : secret ≠ "") (h : r.Signed secret) :
    ofRequest r (some secret) = ofUnsigned r := by
  rw [ofRequest_some r hne, Request.verify_eq_ok.2 h]
  rfl

theorem ofRequest_of_not_signed {r : Request} {secret : String} (hne : secret ≠ "") (h : ¬r.Signed secret) :
    ∃ e, ofRequest r (some secret) = .error e ∧ e.status = 403 := by
  rw [ofRequest_some r hne]
  cases hv : r.verify secret with
  | ok u => exact absurd (Request.verify_eq_ok.1 hv) h
  | error e => exact ⟨e, rfl, Request.status_of_verify hv⟩

/-- A SHA-256 signature decides alone. -/
theorem ofRequest_withSignature {r : Request} {s : String} (h : r.signature256 = some s)
    (signature : Option String) (secret : Option String) :
    ofRequest { r with signature := signature } secret = ofRequest r secret := by
  have hverify : ∀ secret, Request.verify { r with signature := signature } secret = r.verify secret := by
    intro secret
    simp only [Request.verify, h]
  simp only [ofRequest, hverify]
  rfl

theorem status_of_ofUnsigned {r : Request} {e : DecodeError} (h : ofUnsigned r = .error e) :
    e.status = 400 := by
  simp only [ofUnsigned] at h
  split at h
  · cases h
    rfl
  · split at h
    · cases h
      rfl
    · split at h
      · cases h
        rfl
      · cases h

theorem status_of_ofRequest {r : Request} {secret : Option String} {e : DecodeError}
    (h : ofRequest r secret = .error e) : e.status = 400 ∨ e.status = 403 := by
  simp only [ofRequest] at h
  split at h
  · exact .inl (status_of_ofUnsigned h)
  · split at h
    case h_1 hv =>
      cases h
      exact .inr (Request.status_of_verify hv)
    case h_2 => exact .inl (status_of_ofUnsigned h)

/-- What a request amounts to, given a secret or none. Where none counts, the signatures make no
difference. Under a secret, a signed request amounts to what it does without one, and any other is refused
with 403. The status of a refusal is 400 or 403. -/
theorem ofRequest_signed (r : Request) (secret : Option String) :
    (secret = none ∨ secret = some "" → ∀ signature signature256,
      ofRequest { r with signature := signature, signature256 := signature256 } secret = ofRequest r none) ∧
    (∀ s, secret = some s → s ≠ "" →
      (r.Signed s → ofRequest r secret = ofRequest r none) ∧
      (¬r.Signed s → ∃ e, ofRequest r secret = .error e ∧ e.status = 403)) ∧
    ∀ e, ofRequest r secret = .error e → e.status = 400 ∨ e.status = 403 := by
  refine ⟨?_, ?_, fun e => status_of_ofRequest⟩
  · rintro (rfl | rfl) signature signature256 <;> rfl
  · rintro s rfl hs
    exact ⟨ofRequest_of_signed hs, ofRequest_of_not_signed hs⟩

/-- The payload of a ping. -/
def pingBody : List UInt8 := Text.bytes "\x7b\"zen\":\"z\"\x7d"

/-- A ping, signed in capital letters. -/
def genuinePing : Request where
  event := some "ping"
  signature := none
  signature256 := some "sha256=C4572DA079B0B1A19738F3466C2AC6F1A91AB9D8D0540540EB4A856E760E3B7F"
  body := pingBody

/-- The same ping with a SHA-1 signature alone. -/
def legacyPing : Request :=
  { genuinePing with
    signature := some "sha1=d95397b59be9fa27a0c3b19d1a49811448296d06"
    signature256 := none }

/-- The same ping under a wrong signature, next to a right SHA-1 signature. -/
def forgedPing : Request := { legacyPing with signature256 := some "sha256=00" }

theorem ofRequest_signed_ping :
    (genuinePing.Signed "s3cret" ∧ legacyPing.Signed "s3cret" ∧ ¬forgedPing.Signed "s3cret") ∧
      ofRequest genuinePing (some "s3cret") = .ok ⟨"ping", "", .notice "[] webhook configured: z"⟩ ∧
      ofRequest legacyPing (some "s3cret") = .ok ⟨"ping", "", .notice "[] webhook configured: z"⟩ ∧
      ∃ e, ofRequest forgedPing (some "s3cret") = .error e ∧ e.status = 403 := by
  have hgenuine : genuinePing.Signed "s3cret" := Request.verify_eq_ok.1 (by decide +kernel)
  have hlegacy : legacyPing.Signed "s3cret" := Request.verify_eq_ok.1 (by decide +kernel)
  have hforged : ¬forgedPing.Signed "s3cret" := mt Request.verify_eq_ok.2 (by decide +kernel)
  refine ⟨⟨hgenuine, hlegacy, hforged⟩, ?_, ?_, ?_⟩
  · rw [((ofRequest_signed genuinePing _).2.1 "s3cret" rfl (by decide)).1 hgenuine]
    decide +kernel
  · rw [((ofRequest_signed legacyPing _).2.1 "s3cret" rfl (by decide)).1 hlegacy]
    decide +kernel
  · exact ((ofRequest_signed forgedPing _).2.1 "s3cret" rfl (by decide)).2 hforged

end Event

end Webhook

end ForgeBridge
