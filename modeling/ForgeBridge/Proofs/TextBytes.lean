import ForgeBridge.Text.Position
import Mathlib.Data.List.Basic

/-!
# Texts and their bytes

The bytes of a text are those of its characters, one after the other. A text can be told from its bytes,
and reading them gives it back (`ofBytes?_eq_some`); bytes below 128 are always the bytes of a text.
-/

namespace ForgeBridge.Text

/-! ## Arrays of bytes as lists -/

theorem loop_eq (a : ByteArray) (i : Nat) (r : List UInt8) :
    ByteArray.toList.loop a i r = r.reverse ++ a.data.toList.drop i := by
  fun_induction ByteArray.toList.loop a i r with
  | case1 i r hi ih =>
    have hi' : i < a.data.toList.length := hi
    have hget : a.get! i = a.data.toList[i] := getElem!_pos a.data i hi
    rw [ih, List.reverse_cons, List.append_assoc, List.drop_eq_getElem_cons hi', hget]
    rfl
  | case2 i r hi =>
    have hlen : a.data.toList.length ≤ i := Nat.not_lt.1 hi
    rw [List.drop_eq_nil_of_le hlen, List.append_nil]

theorem toList_eq (a : ByteArray) : a.toList = a.data.toList := loop_eq a 0 []

theorem toByteArray_toList (a : ByteArray) : a.toList.toByteArray = a := by
  rw [toList_eq, ByteArray.ext_iff, List.data_toByteArray, Array.toArray_toList]

theorem toList_toByteArray (bs : List UInt8) : bs.toByteArray.toList = bs := by
  rw [toList_eq, List.toList_data_toByteArray]

/-! ## The characters of a text -/

/-- What is checked for each of some characters holds of them all. To decide the conclusion at once would be to go over
all characters there are. -/
theorem forall_mem_of_all {P : Char → Prop} [DecidablePred P] {cs : List Char} (h : cs.all (P ·) = true) :
    ∀ c ∈ cs, P c :=
  fun c hc => of_decide_eq_true (List.all_eq_true.1 h c hc)

/-- What holds for all codes of ASCII holds for all its characters. -/
theorem forall_ascii {P : Char → Prop} (h : ∀ n < 128, P (.ofNat n)) {c : Char} (hc : c.toNat < 128) : P c := by
  have hcode := h c.toNat hc
  rwa [Char.ofNat_toNat] at hcode

/-! ## The bytes of a text -/

theorem bytes_append (s t : String) : bytes (s ++ t) = bytes s ++ bytes t := by
  simp only [bytes, toList_eq, String.toUTF8_eq_toByteArray, String.toByteArray_append, ByteArray.data_append,
    Array.toList_append]

theorem bytes_eq_flatMap (s : String) : bytes s = s.toList.flatMap String.utf8EncodeChar := by
  have hs : s.toByteArray = s.toList.utf8Encode := by
    rw [← String.toByteArray_ofList, String.ofList_toList]
  rw [bytes, String.toUTF8_eq_toByteArray, hs, List.utf8Encode, toList_toByteArray]

theorem length_bytes (s : String) : (bytes s).length = s.utf8ByteSize := by
  simp [bytes, toList_eq]

/-- A text of ASCII has as many bytes as characters. -/
theorem utf8ByteSize_of_ascii {s : String} (h : ∀ c ∈ s.toList, c.toNat < 128) : s.utf8ByteSize = s.toList.length := by
  have hone : ∀ c ∈ s.toList, c.utf8Size = 1 := by
    intro c hc
    rw [Char.utf8Size_eq_one_iff, UInt32.le_iff_toNat_le]
    exact Nat.le_of_lt_succ (h c hc)
  rw [← length_bytes, bytes_eq_flatMap]
  generalize s.toList = cs at hone ⊢
  induction cs with
  | nil => rfl
  | cons c cs ih =>
    obtain ⟨hc, hcs⟩ := List.forall_mem_cons.1 hone
    rw [List.flatMap_cons, List.length_append, String.length_utf8EncodeChar, hc, ih hcs, List.length_cons, Nat.add_comm]

/-- Reading the bytes of a text gives the text, and only the bytes of a text can be read. -/
theorem ofBytes?_eq_some {bs : List UInt8} {s : String} : ofBytes? bs = some s ↔ bs = bytes s := by
  simp only [ofBytes?, String.fromUTF8?]
  constructor
  · intro h
    split at h
    · cases h
      rw [bytes, String.toUTF8_eq_toByteArray, String.fromUTF8, toList_toByteArray]
    · cases h
  · rintro rfl
    have hbytes : (bytes s).toByteArray = s.toByteArray := toByteArray_toList _
    rw [dif_pos (hbytes ▸ s.isValidUTF8), Option.some.injEq, ← String.toByteArray_inj]
    exact hbytes

theorem ofBytes?_bytes (s : String) : ofBytes? (bytes s) = some s := ofBytes?_eq_some.2 rfl

theorem bytes_inj {s t : String} : bytes s = bytes t ↔ s = t := by
  rw [← ofBytes?_eq_some, ofBytes?_bytes, Option.some.injEq]

/-- A byte below 128 is what the character of its number is written as. -/
theorem utf8EncodeChar_ofNat {b : UInt8} (hb : b < 0x80) : String.utf8EncodeChar (.ofNat b.toNat) = [b] := by
  have hlt : b.toNat < 128 := UInt8.lt_iff_toNat_lt.1 hb
  have hval : (Char.ofNat b.toNat).val.toNat = b.toNat := by
    have hvalid : b.toNat.isValidChar := .inl (by omega)
    rw [Char.ofNat, dif_pos hvalid]
    rfl
  have hsize : (Char.ofNat b.toNat).utf8Size = 1 := by
    rw [Char.utf8Size_eq_one_iff, UInt32.le_iff_toNat_le, hval]
    exact Nat.lt_succ_iff.1 hlt
  rw [String.utf8EncodeChar_eq_singleton hsize, List.singleton_inj, ← UInt8.toNat_inj,
    UInt32.toNat_toUInt8, hval]
  omega

/-- Bytes below 128 are the bytes of a text. -/
theorem exists_bytes_eq {bs : List UInt8} (h : ∀ b ∈ bs, b < 0x80) : ∃ s, bs = bytes s := by
  refine ⟨.ofList (bs.map fun b => .ofNat b.toNat), ?_⟩
  rw [bytes_eq_flatMap, String.toList_ofList, List.flatMap_map]
  calc bs = bs.flatMap fun b => [b] := by simp
    _ = bs.flatMap fun b => String.utf8EncodeChar (.ofNat b.toNat) :=
      List.flatMap_congr fun b hb => (utf8EncodeChar_ofNat (h b hb)).symm

end ForgeBridge.Text
