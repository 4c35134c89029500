import ForgeBridge.Json.Printer
import ForgeBridge.Message
import ForgeBridge.Proofs.JsonShapes
import Mathlib.Data.FinEnum

/-!
# Writing JSON

What the program writes is JSON: strings are spelled with their escapes (`isText_text`), and objects hold the members
they were given (`isObject_object`). So a message is read again from its text (`Message.ofJson_json`).
-/

namespace ForgeBridge

namespace Json

open Ascii

/-! ## Strings -/

/-- A byte is escaped with one letter, or by its number, or stands as it is. -/
theorem escape_cases (b : UInt8) :
    (∃ e ∈ escape b, escape b = [backslash, e] ∧ escaped? e = some b) ∨
    (b < space ∧ escape b =
      [backslash, letterU, zero, zero, Text.Hex.digit (b.toNat / 16), Text.Hex.digit (b.toNat % 16)]) ∨
    (escape b = [b] ∧ space ≤ b ∧ b ≠ quote ∧ b ≠ backslash) := by
  -- checked byte by byte
  have h : ∀ b : UInt8, (∃ e ∈ escape b, escape b = [backslash, e] ∧ escaped? e = some b) ∨
      (b < space ∧ escape b =
        [backslash, letterU, zero, zero, Text.Hex.digit (b.toNat / 16), Text.Hex.digit (b.toNat % 16)]) ∨
      (escape b = [b] ∧ space ≤ b ∧ b ≠ quote ∧ b ≠ backslash) := by decide +kernel
  exact h b

/-- The digits of a control are those of a character that is written as one byte. -/
theorem isHex4_of_lt {b : UInt8} (h : b < space) :
    IsHex4 [zero, zero, Text.Hex.digit (b.toNat / 16), Text.Hex.digit (b.toNat % 16)] b.toNat := by
  have hlt : b.toNat < 32 := UInt8.lt_iff_toNat_lt.1 h
  have hdigit : ∀ n < 16, hexDigit? (Text.Hex.digit n) = some n := by decide
  refine ⟨_, _, _, _, 0, 0, _, _, rfl, by decide, by decide, hdigit _ (by omega), hdigit _ (by omega), by omega⟩

theorem spells_escape (b : UInt8) {s t : List UInt8} (h : Spells s t) : Spells (b :: s) (escape b ++ t) := by
  rcases escape_cases b with ⟨e, -, he, hb⟩ | ⟨hlow, hb⟩ | ⟨hb, hlow, hquote, hback⟩
  · rw [he]
    exact .short hb h
  · have hlt : b.toNat < 32 := UInt8.lt_iff_toNat_lt.1 hlow
    have hbyte : utf8 b.toNat = [b] :=
      Text.utf8EncodeChar_ofNat (UInt8.lt_iff_toNat_lt.2 (Nat.lt_of_lt_of_le hlt (by decide)))
    have hlead : isLeadingSurrogate b.toNat = false := by
      simp only [isLeadingSurrogate, Bool.and_eq_false_iff, decide_eq_false_iff_not]
      omega
    have htrail : isTrailingSurrogate b.toNat = false := by
      simp only [isTrailingSurrogate, Bool.and_eq_false_iff, decide_eq_false_iff_not]
      omega
    have hspells := Spells.unicode (isHex4_of_lt hlow) hlead htrail h
    rw [hbyte] at hspells
    rw [hb]
    exact hspells
  · rw [hb]
    exact .plain hlow hquote hback h

theorem spells_flatMap (bs : List UInt8) : Spells bs (bs.flatMap escape) := by
  induction bs with
  | nil => exact .nil
  | cons b bs ih => exact spells_escape b ih

/-- A text is written as a string literal. -/
theorem isText_text (s : String) : IsText s (text s) := ⟨_, spells_flatMap (Text.bytes s), rfl⟩

theorem length_le_flatMap {f : α → List β} (h : ∀ x, f x ≠ []) (xs : List α) : xs.length ≤ (xs.flatMap f).length := by
  induction xs with
  | nil => exact Nat.zero_le _
  | cons x xs ih =>
    have hx := List.length_pos_of_ne_nil (h x)
    rw [List.flatMap_cons, List.length_append, List.length_cons]
    omega

/-- A text is written with at least as many bytes as it has characters. -/
theorem length_le_text (t : String) : t.toList.length ≤ (Json.text t).length := by
  have hescape : ∀ b, escape b ≠ [] := by
    intro b hb
    rcases escape_cases b with ⟨e, -, he, -⟩ | ⟨-, he⟩ | ⟨he, -⟩ <;> cases hb.symm.trans he
  have hchar : ∀ c, String.utf8EncodeChar c ≠ [] := fun c => String.utf8EncodeChar_ne_nil
  have hchars := length_le_flatMap hchar t.toList
  rw [← Text.bytes_eq_flatMap] at hchars
  refine Nat.le_trans hchars (Nat.le_trans (length_le_flatMap hescape _) ?_)
  rw [Json.text, List.cons_append, List.length_cons, List.length_append]
  omega

/-! ## Lists -/

/-- Items behind another one stand behind a comma each. -/
theorem follows_commas (f : Frame) (items : List (List UInt8)) :
    Follows f items (items.flatMap (comma :: ·) ++ [f.close]) := by
  induction items with
  | nil => exact .close blank_nil
  | cons i items ih =>
    have hfollows := Follows.item (i := i) blank_nil blank_nil ih
    simpa using hfollows

/-- A list of values that are written already. -/
def listText : List (List UInt8) → List UInt8
  | [] => [openBracket, closeBracket]
  | item :: items => openBracket :: (item ++ (items.flatMap (comma :: ·) ++ [closeBracket]))

theorem enclosed_listText (items : List (List UInt8)) : Enclosed .list items (listText items) := by
  cases items with
  | nil => exact .empty blank_nil
  | cons item items => exact .items (w := []) blank_nil (follows_commas .list items)

/-! ## Objects -/

/-- A member as it is written. -/
def entryText (e : String × List UInt8) : List UInt8 := text e.1 ++ colon :: e.2

theorem isEntry_entryText (e : String × List UInt8) : IsEntry e (entryText e) :=
  ⟨_, [], [], isText_text e.1, blank_nil, blank_nil, rfl⟩

theorem members_cons (e : String × List UInt8) (es : List (String × List UInt8)) :
    members (e :: es) = entryText e ++ es.flatMap fun e => comma :: entryText e := by
  induction es generalizing e with
  | nil =>
    obtain ⟨key, value⟩ := e
    simp [members, entryText]
  | cons e' es ih =>
    obtain ⟨key, value⟩ := e
    rw [members, ih e', List.flatMap_cons]
    · simp [entryText]
    · simp

/-- An object is written with its members. -/
theorem isObject_object (es : List (String × List UInt8)) : IsObject es (object es) := by
  refine ⟨es.map entryText, ?_, ?_⟩
  · rw [List.forall₂_map_right_iff, List.forall₂_same]
    exact fun e _ => isEntry_entryText e
  · cases es with
    | nil => exact .empty blank_nil
    | cons e es =>
      have henclosed := Enclosed.items (i := entryText e) blank_nil (follows_commas .object (es.map entryText))
      rw [List.flatMap_map] at henclosed
      rw [object, members_cons]
      simpa [Frame.opening, Frame.close] using henclosed

end Json

namespace Message

open Json

/-- A message is written as an object with its two texts. -/
theorem isRecord_json (m : Message) :
    IsRecord [("msgtype", Given (IsText m.msgtype)), ("body", Given (IsText m.body))] m.json := by
  refine ⟨_, isObject_object _, ⟨some (text m.msgtype), by simp, _, rfl, isText_text m.msgtype⟩,
    ⟨some (text m.body), by simp, _, rfl, isText_text m.body⟩, ?_⟩
  simp [Holds]

/-- A message is read again from its text. -/
theorem ofJson_json (m : Message) : ofJson m.json = .ok m := by
  have hfits : Fits shape (m.msgtype, m.body, ()) m.json := m.isRecord_json
  have hread := read_eq_ok hfits blank_nil blank_nil
  rw [List.nil_append, List.append_nil] at hread
  rw [ofJson, hread]
  rfl

end Message

end ForgeBridge
