import ForgeBridge.Json.Reader
import ForgeBridge.Proofs.JsonSkipping
import ForgeBridge.Proofs.TextBytes
import Mathlib.Data.List.Forall2

/-!
# Reading JSON

What the readers make of JSON texts (`Reads`): of strings in any spelling, of whole numbers, of lists, and of
objects, whose members are taken in one after the other (`Takes`).
-/

namespace ForgeBridge.Json

open Ascii

/-! ## Strings -/

theorem readChars_escape {bs x rest : List UInt8} (h : readEscape bs = .ok (x, rest)) (read : List UInt8) :
    readChars read (backslash :: bs) = readChars (x.reverse ++ read) rest := by
  rw [readChars, if_neg (by decide), if_pos rfl]
  split
  · rename_i f hf
    cases h.symm.trans hf
  · rename_i hx
    cases h.symm.trans hx
    rfl

theorem escaped?_letterU : escaped? letterU = none := by decide

/-- The bytes that are spelled are read, up to the closing quote. -/
theorem readChars_append {s t : List UInt8} (h : Spells s t) (read rest : List UInt8) :
    readChars read (t ++ quote :: rest) = .ok (read.reverse ++ s, rest) := by
  induction h generalizing read with
  | nil => rw [List.nil_append, readChars, if_pos rfl, List.append_nil]
  | plain hlow hquote hback _ ih =>
    rw [List.cons_append, readChars, if_neg hquote, if_neg hback, if_neg (UInt8.not_lt.2 hlow), ih]
    simp
  | short he _ ih =>
    rw [List.cons_append, List.cons_append, readChars_escape (by rw [readEscape, he]), ih]
    simp
  | @unicode ds s t n hds hlead htrail _ ih =>
    have hread : readEscape (letterU :: (ds ++ (t ++ quote :: rest))) = .ok (utf8 n, t ++ quote :: rest) := by
      simp [readEscape, escaped?_letterU, hex4_append hds, hlead, htrail]
    rw [List.cons_append, List.cons_append, List.append_assoc, readChars_escape hread, ih]
    simp
  | @pair ds ds' s t high low hds hds' hlead htrail _ ih =>
    have hnot : isTrailingSurrogate high = false := by
      simp only [isLeadingSurrogate, Bool.and_eq_true, decide_eq_true_eq] at hlead
      simp only [isTrailingSurrogate, Bool.and_eq_false_iff, decide_eq_false_iff_not]
      omega
    have hread : readEscape (letterU :: (ds ++ backslash :: letterU :: (ds' ++ (t ++ quote :: rest)))) =
        .ok (utf8 (0x10000 + (high - 0xD800) * 0x400 + (low - 0xDC00)), t ++ quote :: rest) := by
      simp [readEscape, escaped?_letterU, hex4_append hds, hlead, hnot, readTrailing, hex4_append hds', htrail]
    have happend : backslash :: letterU :: (ds ++ backslash :: letterU :: (ds' ++ t)) ++ quote :: rest =
        backslash :: letterU :: (ds ++ backslash :: letterU :: (ds' ++ (t ++ quote :: rest))) := by simp
    rw [happend, readChars_escape hread, ih]
    simp

theorem readStringTail_append {s : String} {body : List UInt8} (h : Spells (Text.bytes s) body)
    (rest : List UInt8) : readStringTail (body ++ quote :: rest) = .ok (s, rest) := by
  simp only [readStringTail, readChars_append h, List.reverse_nil, List.nil_append, Text.ofBytes?_bytes]

theorem IsText.starts {s : String} {t : List UInt8} (h : IsText s t) : Starts t := by
  obtain ⟨body, -, rfl⟩ := h
  exact starts_cons (by decide) _

/-! ## Whole numbers -/

theorem le_number (n : Nat) (ds : List UInt8) : n ≤ ds.foldl (fun n d => n * 10 + digit d) n := by
  induction ds generalizing n with
  | nil => exact Nat.le_refl n
  | cons d ds ih => exact Nat.le_trans (by omega) (ih (n * 10 + digit d))

/-- All digits are taken in if the number stays within 64 bits. -/
theorem absorb_of_lt {n : Nat} {ds : List UInt8}
    (h : ds.foldl (fun n d => n * 10 + digit d) n < UInt64.size) :
    absorb n ds = (ds.foldl (fun n d => n * 10 + digit d) n, ds.length) := by
  induction ds generalizing n with
  | nil => rfl
  | cons d ds ih =>
    rw [List.foldl_cons] at h
    have hlt := Nat.lt_of_le_of_lt (le_number (n * 10 + digit d) ds) h
    simp only [absorb, if_pos hlt, ih h, List.foldl_cons, List.length_cons]

theorem readNumber_append {n : Nat} {t rest : List UInt8} (h : IsNatural n t) (hn : n < UInt64.size)
    (hrest : Stops rest) : readNumber false (t ++ rest) = .ok (.natural n, rest) := by
  obtain ⟨⟨hdigits, hzero⟩, rfl⟩ := h
  obtain ⟨d, ds, rfl, hd, hds⟩ := hdigits.exists_cons
  rw [List.cons_append, readNumber]
  by_cases hd0 : d = zero
  · obtain ⟨-, rfl⟩ := List.cons.inj (hzero (by rw [hd0]; rfl))
    have hhead : rest.head?.any isDigit = false := by
      cases hfirst : rest.head? with
      | none => rfl
      | some b => exact (hrest b hfirst).1
    rw [if_pos hd0, List.nil_append, hhead, if_neg Bool.false_ne_true, numberTail_of_stops hrest, hd0]
    rfl
  · have hall : absorb 0 (d :: ds) = (Ascii.number (d :: ds), (d :: ds).length) := absorb_of_lt hn
    simp only [hd0, if_false, hd, if_true, takeWhile_run hds fun b hb => (hrest b hb).1,
      dropWhile_run hds fun b hb => (hrest b hb).1, hall, Nat.sub_self, numberTail_of_stops hrest, wholeNumber,
      Bool.false_eq_true, not_false_eq_true]

theorem IsNatural.starts {n : Nat} {t : List UInt8} (h : IsNatural n t) : Starts t := by
  have hstarts := h.1.starts []
  rwa [List.append_nil] at hstarts

/-! ## What a reader reads -/

/-- A reader reads a text as a value, behind blanks and up to what stands behind the text. -/
def Reads (r : Reader α) (t : List UInt8) (a : α) : Prop :=
  ∀ w rest, Blank w → Stops rest → r.read (w ++ (t ++ rest)) = .ok (a, rest)

theorem Reads.map {r : Reader α} {t : List UInt8} {a : α} (h : Reads r t a) (f : α → β) :
    Reads (r.map f) t (f a) := by
  intro w rest hw hrest
  simp only [Reader.map, h w rest hw hrest]

theorem reads_skip {t : List UInt8} (h : IsJson t) : Reads skip t () := fun _ _ hw hrest => skip_read h hw hrest

theorem reads_text {s : String} {t : List UInt8} (h : IsText s t) : Reads Reader.text t s := by
  intro w rest hw hrest
  have hstart := skipBlank_starts hw h.starts rest
  obtain ⟨body, hbody, rfl⟩ := h
  have happend : quote :: (body ++ [quote]) ++ rest = quote :: (body ++ quote :: rest) := by simp
  rw [happend] at hstart ⊢
  simp only [Reader.text, hstart]
  exact readStringTail_append hbody rest

theorem reads_natural {n : UInt64} {t : List UInt8} (h : IsNatural n.toNat t) : Reads Reader.natural t n := by
  intro w rest hw hrest
  have hread := readNumber_append h n.toNat_lt hrest
  have hstart := skipBlank_starts hw h.starts rest
  obtain ⟨d, ds, rfl, hd, -⟩ := h.1.1.exists_cons
  have hnumber : Reader.number? (d :: ds ++ rest) = some (.ok (.natural n.toNat, rest)) := by
    rw [List.cons_append, Reader.number?, if_neg (ne_of_isDigit hd (by decide)), if_pos hd, ← List.cons_append, hread]
  simp only [Reader.natural, hstart, hnumber, Reader.naturalOf, UInt64.ofNat_toNat]

/-- Null is read as no value. -/
theorem reads_null (r : Reader α) : Reads r.nullable nullText none := by
  intro w rest hw hrest
  have hstart : skipBlank (w ++ (nullText ++ rest)) = letterN :: ([letterU, letterL, letterL] ++ rest) :=
    skipBlank_starts hw (starts_cons (by decide) _) rest
  simp only [Reader.nullable, hstart]
  rfl

theorem reads_nullable {r : Reader α} {t : List UInt8} {a : α} (ht : Starts t) (hn : t.head? ≠ some letterN)
    (h : Reads r t a) : Reads r.nullable t (some a) := by
  intro w rest hw hrest
  have hstart := skipBlank_starts hw ht rest
  obtain ⟨b, bs, rfl, -⟩ := ht
  have hb : b ≠ letterN := fun heq => hn (congrArg some heq)
  have hread := h.map some w rest hw hrest
  simp only [Reader.nullable, hstart]
  split
  · rename_i more heq
    exact absurd (List.cons.inj heq).1 hb
  · exact hread

/-! ## Lists -/

section
variable {w w' t bs more rest : List UInt8}

theorem nextItem_closed (first : Bool) (hw : Blank w) (rest : List UInt8) :
    Reader.nextItem first (w ++ closeBracket :: rest) = .ok (.close rest) := by
  simp only [Reader.nextItem, skipBlank_append hw, skipBlank_cons (show isBlank closeBracket = false by decide), if_true]

theorem nextItem_first (hw : Blank w) (ht : Starts t) (rest : List UInt8) :
    Reader.nextItem true (w ++ (t ++ rest)) = .ok (.item (t ++ rest)) := by
  have hstart := skipBlank_starts hw ht rest
  obtain ⟨b, bs, rfl, -, hclose, -⟩ := ht
  rw [List.cons_append] at hstart ⊢
  simp only [Reader.nextItem, hstart, if_neg hclose, if_true]

theorem nextItem_comma (hw : Blank w) (hw' : Blank w') (ht : Starts t) (rest : List UInt8) :
    Reader.nextItem false (w ++ comma :: (w' ++ (t ++ rest))) = .ok (.item (t ++ rest)) := by
  have hstart := skipBlank_starts hw' ht rest
  obtain ⟨b, bs, rfl, -, hclose, -⟩ := ht
  have hcomma : skipBlank (w ++ comma :: (w' ++ (b :: bs ++ rest))) = comma :: (w' ++ (b :: bs ++ rest)) := by
    rw [skipBlank_append hw, skipBlank_cons (by decide)]
  rw [List.cons_append] at hstart hcomma ⊢
  simp only [Reader.nextItem, hcomma, hstart, if_neg hclose, Bool.false_eq_true, if_false,
    if_neg (show comma ≠ closeBracket by decide), if_true]

variable {item : Reader α} {step : β → α → β} {acc : β} {a : α} {index : Nat}

theorem items_closed (h : Reader.nextItem (index == 0) bs = .ok (.close rest)) :
    Reader.items item step index acc bs = .ok (acc, rest) := by
  rw [Reader.items]
  split <;> simp_all

theorem items_item (h : Reader.nextItem (index == 0) bs = .ok (.item more)) (hi : item.read more = .ok (a, rest)) :
    Reader.items item step index acc bs = Reader.items item step (index + 1) (step acc a) rest := by
  rw [Reader.items]
  split <;> simp_all
  split <;> simp_all

end

/-- The values of items are taken in one after the other. -/
theorem items_append {item : Reader α} {step : β → α → β} {as : List α} {ts : List (List UInt8)}
    (h : List.Forall₂ (fun a t => Starts t ∧ Reads item t a) as ts) {t : List UInt8} (ht : Follows .list ts t)
    (index : Nat) (acc : β) (rest : List UInt8) :
    Reader.items item step (index + 1) acc (t ++ rest) = .ok (as.foldl step acc, rest) := by
  induction h generalizing t index acc with
  | nil =>
    cases ht with
    | close hw =>
      rw [List.append_assoc]
      exact items_closed (nextItem_closed _ hw rest)
  | @cons a i as ts hi hitems ih =>
    cases ht with
    | @item w w' _ t' _ hw hw' ht =>
      have happend : w ++ comma :: (w' ++ (i ++ t')) ++ rest = w ++ comma :: (w' ++ (i ++ (t' ++ rest))) := by simp
      have hnext : Reader.nextItem (index + 1 == 0) (w ++ comma :: (w' ++ (i ++ (t' ++ rest)))) =
          .ok (.item (i ++ (t' ++ rest))) := nextItem_comma hw hw' hi.1 _
      rw [happend, items_item hnext (hi.2 [] _ blank_nil (ht.stops rest))]
      exact ih ht (index + 1) _

theorem reads_fold {item : Reader α} {as : List α} {ts : List (List UInt8)}
    (h : List.Forall₂ (fun a t => Starts t ∧ Reads item t a) as ts) {t : List UInt8} (ht : Enclosed .list ts t)
    (step : β → α → β) (acc : β) : Reads (item.fold step acc) t (as.foldl step acc) := by
  intro w rest hw hrest
  have hstart := skipBlank_starts hw ht.starts rest
  have hitems : ∃ more, t ++ rest = openBracket :: more ∧
      Reader.items item step 0 acc more = .ok (as.foldl step acc, rest) := by
    cases h with
    | nil =>
      cases ht with
      | @empty w' hw' =>
        refine ⟨w' ++ closeBracket :: rest, by simp [Frame.opening, Frame.close], ?_⟩
        exact items_closed (nextItem_closed _ hw' rest)
    | @cons a i as ts hi hitems =>
      cases ht with
      | @items w' _ t' _ hw' ht =>
        refine ⟨w' ++ (i ++ (t' ++ rest)), by simp [Frame.opening], ?_⟩
        have hfirst : Reader.nextItem (0 == 0) (w' ++ (i ++ (t' ++ rest))) = .ok (.item (i ++ (t' ++ rest))) :=
          nextItem_first hw' hi.1 _
        rw [items_item hfirst (hi.2 [] _ blank_nil (ht.stops rest))]
        exact items_append hitems ht 0 _ rest
  obtain ⟨more, hmore, hitems⟩ := hitems
  rw [hmore] at hstart ⊢
  simp only [Reader.fold, hstart]
  exact hitems

theorem reads_list {item : Reader α} {as : List α} {ts : List (List UInt8)}
    (h : List.Forall₂ (fun a t => Starts t ∧ Reads item t a) as ts) {t : List UInt8} (ht : Enclosed .list ts t) :
    Reads item.list t as := by
  have hread := (reads_fold h ht (fun acc a => a :: acc) []).map List.reverse
  rwa [← List.foldr_reverse, List.foldr_cons_nil, List.reverse_reverse] at hread

/-- A list of any values. -/
def IsTally (n : Nat) (t : List UInt8) : Prop :=
  ∃ items, Enclosed .list items t ∧ (∀ i ∈ items, IsJson i) ∧ items.length = n

theorem reads_tally {n : Nat} {t : List UInt8} (h : IsTally n t) : Reads Reader.tally t n := by
  obtain ⟨items, ht, hitems, rfl⟩ := h
  have hall : List.Forall₂ (fun (_ : Unit) t => Starts t ∧ Reads skip t ()) (items.map fun _ => ()) items := by
    rw [List.forall₂_map_left_iff, List.forall₂_same]
    exact fun i hi => ⟨(hitems i hi).starts, reads_skip (hitems i hi)⟩
  have hread := reads_fold hall ht (fun n _ => n + 1) 0
  have hcount : (items.map fun _ => ()).foldl (fun n _ => n + 1) 0 = items.length := by
    simp
  rwa [hcount] at hread

/-! ## Objects -/

/-- A member of an object: a key, a colon and a value. -/
def IsEntry (e : String × List UInt8) (t : List UInt8) : Prop :=
  ∃ key w w', IsText e.1 key ∧ Blank w ∧ Blank w' ∧ t = key ++ (w ++ colon :: (w' ++ e.2))

/-- The text of an object, given its names with the texts of their values. -/
def IsObject (es : List (String × List UInt8)) (t : List UInt8) : Prop :=
  ∃ items, List.Forall₂ IsEntry es items ∧ Enclosed .object items t

/-- A reader reads what stands behind a key, a colon and a text, as a value. -/
def ReadsMember (r : Reader α) (t : List UInt8) (a : α) : Prop :=
  ∀ w w' rest, Blank w → Blank w' → Stops rest → r.read (w ++ colon :: (w' ++ (t ++ rest))) = .ok (a, rest)

theorem ReadsMember.map {r : Reader α} {t : List UInt8} {a : α} (h : ReadsMember r t a) (f : α → β) :
    ReadsMember (r.map f) t (f a) := by
  intro w w' rest hw hw' hrest
  simp only [Reader.map, h w w' rest hw hw' hrest]

theorem Reads.member {r : Reader α} {t : List UInt8} {a : α} (h : Reads r t a) (key : String) :
    ReadsMember (r.member key) t a := by
  intro w w' rest hw hw' hrest
  have hcolon : skipColon (w ++ colon :: (w' ++ (t ++ rest))) = .ok (w' ++ (t ++ rest)) := by
    simp only [skipColon, skipBlank_append hw, skipBlank_cons (show isBlank colon = false by decide), if_true]
  simp only [Reader.member, hcolon, h w' rest hw' hrest]

/-- What is known of an object after some members, given what was known before. -/
inductive Takes (slot : String → β → Reader β) : β → List (String × List UInt8) → β → Prop
  | nil {acc : β} : Takes slot acc [] acc
  | cons {acc acc' acc'' : β} {e : String × List UInt8} {es : List (String × List UInt8)}
      (h : ReadsMember (slot e.1 acc) e.2 acc') (hes : Takes slot acc' es acc'') : Takes slot acc (e :: es) acc''

section
variable {w w' t key bs more rest : List UInt8} {s : String}

theorem nextKey_key (h : IsText s key) (more : List UInt8) :
    ∃ body, key ++ more = quote :: body ∧ Reader.nextKey.key body = .ok (some s, more) := by
  obtain ⟨body, hbody, rfl⟩ := h
  refine ⟨body ++ quote :: more, by simp, ?_⟩
  simp only [Reader.nextKey.key, readStringTail_append hbody]

theorem nextKey_closed (first : Bool) (hw : Blank w) (rest : List UInt8) :
    Reader.nextKey first (w ++ closeBrace :: rest) = .ok (none, rest) := by
  simp only [Reader.nextKey, skipBlank_append hw, skipBlank_cons (show isBlank closeBrace = false by decide), if_true]

theorem nextKey_first (hw : Blank w) (hkey : IsText s key) (more : List UInt8) :
    Reader.nextKey true (w ++ (key ++ more)) = .ok (some s, more) := by
  have hstart := skipBlank_starts hw hkey.starts more
  obtain ⟨body, hbody, hread⟩ := nextKey_key hkey more
  rw [hbody] at hstart ⊢
  simp only [Reader.nextKey, hstart, if_neg (show quote ≠ closeBrace by decide), if_true, hread]

theorem nextKey_comma (hw : Blank w) (hw' : Blank w') (hkey : IsText s key) (more : List UInt8) :
    Reader.nextKey false (w ++ comma :: (w' ++ (key ++ more))) = .ok (some s, more) := by
  have hstart := skipBlank_starts hw' hkey.starts more
  obtain ⟨body, hbody, hread⟩ := nextKey_key hkey more
  have hcomma : skipBlank (w ++ comma :: (w' ++ (key ++ more))) = comma :: (w' ++ (key ++ more)) := by
    rw [skipBlank_append hw, skipBlank_cons (by decide)]
  rw [hbody] at hstart hcomma ⊢
  simp only [Reader.nextKey, hcomma, hstart, if_neg (show comma ≠ closeBrace by decide), Bool.false_eq_true,
    if_false, if_true, hread]

variable {slot : String → β → Reader β} {acc acc' : β} {first : Bool}

theorem members_closed (h : Reader.nextKey first bs = .ok (none, rest)) :
    Reader.members slot first acc bs = .ok (acc, rest) := by
  rw [Reader.members]
  split <;> simp_all

theorem members_key (h : Reader.nextKey first bs = .ok (some s, more))
    (hm : (slot s acc).read more = .ok (acc', rest)) :
    Reader.members slot first acc bs = Reader.members slot false acc' rest := by
  rw [Reader.members]
  split <;> simp_all
  split <;> simp_all

end

/-- The members of an object are taken in one after the other. -/
theorem members_append {slot : String → β → Reader β} {acc acc' : β} {es : List (String × List UInt8)}
    (h : Takes slot acc es acc') {items : List (List UInt8)} (hes : List.Forall₂ IsEntry es items) {t : List UInt8}
    (ht : Follows .object items t) (rest : List UInt8) :
    Reader.members slot false acc (t ++ rest) = .ok (acc', rest) := by
  induction h generalizing items t with
  | nil =>
    cases hes
    cases ht with
    | close hw =>
      rw [List.append_assoc]
      exact members_closed (nextKey_closed _ hw rest)
  | @cons acc acc' acc'' e es hmember _ ih =>
    cases hes with
    | @cons _ i _ items hi hes =>
      cases ht with
      | @item w w' _ t' _ hw hw' ht =>
        obtain ⟨key, w₁, w₂, hkey, hw₁, hw₂, rfl⟩ := hi
        have happend : w ++ comma :: (w' ++ (key ++ (w₁ ++ colon :: (w₂ ++ e.2)) ++ t')) ++ rest =
            w ++ comma :: (w' ++ (key ++ (w₁ ++ colon :: (w₂ ++ (e.2 ++ (t' ++ rest)))))) := by simp
        rw [happend, members_key (nextKey_comma hw hw' hkey _) (hmember w₁ w₂ _ hw₁ hw₂ (ht.stops rest))]
        exact ih hes ht

/-- The members of a whole object are taken in behind its opening bracket. -/
theorem members_object {slot : String → β → Reader β} {acc acc' : β} {es : List (String × List UInt8)}
    (h : Takes slot acc es acc') {t : List UInt8} (ht : IsObject es t) (rest : List UInt8) :
    ∃ more, t ++ rest = openBrace :: more ∧ Reader.members slot true acc more = .ok (acc', rest) := by
  obtain ⟨items, hes, ht⟩ := ht
  cases h with
  | nil =>
    cases hes
    cases ht with
    | @empty w hw =>
      refine ⟨w ++ closeBrace :: rest, by simp [Frame.opening, Frame.close], ?_⟩
      exact members_closed (nextKey_closed _ hw rest)
  | @cons _ acc' _ e es hmember h =>
    cases hes with
    | @cons _ i _ items hi hes =>
      cases ht with
      | @items w _ t' _ hw ht =>
        obtain ⟨key, w₁, w₂, hkey, hw₁, hw₂, rfl⟩ := hi
        refine ⟨w ++ (key ++ (w₁ ++ colon :: (w₂ ++ (e.2 ++ (t' ++ rest))))), by simp [Frame.opening], ?_⟩
        rw [members_key (nextKey_first hw hkey _) (hmember w₁ w₂ _ hw₁ hw₂ (ht.stops rest))]
        exact members_append h hes ht rest

theorem IsObject.starts {es : List (String × List UInt8)} {t : List UInt8} (h : IsObject es t) : Starts t := by
  obtain ⟨items, -, ht⟩ := h
  exact ht.starts

theorem reads_table {value : Reader α} {xs : List (String × α)} {es : List (String × List UInt8)}
    (h : List.Forall₂ (fun x e => x.1 = e.1 ∧ Reads value e.2 x.2) xs es) {t : List UInt8} (ht : IsObject es t) :
    Reads value.table t xs := by
  intro w rest hw hrest
  have hstart := skipBlank_starts hw ht.starts rest
  have htakes : ∀ acc, Takes (fun key acc => (value.member key).map fun a => (key, a) :: acc) acc es
      (xs.reverse ++ acc) := by
    clear ht hstart
    induction h with
    | nil => exact fun acc => .nil
    | @cons x e xs es hx _ ih =>
      intro acc
      obtain ⟨hkey, hread⟩ := hx
      have hall := ih ((e.1, x.2) :: acc)
      rw [← hkey] at hall
      rw [List.reverse_cons, List.append_assoc]
      exact .cons ((hread.member e.1).map _) (hkey ▸ hall)
  have hall := htakes []
  rw [List.append_nil] at hall
  obtain ⟨more, hmore, hread⟩ := members_object hall ht rest
  rw [hmore] at hstart ⊢
  simp only [Reader.table, hstart]
  split
  · next heq =>
    cases heq
    simp only [hread, List.reverse_reverse]
  · next hne => exact absurd rfl (hne more)

end ForgeBridge.Json
