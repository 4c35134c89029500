import ForgeBridge.Proofs.FrontRuns
import ForgeBridge.Proofs.JsonTexts

/-!
# Passing over JSON

The program passes over every JSON text, however deep it is nested, up to what stands behind it
(`skip_read`).
-/

namespace ForgeBridge.Json

open Ascii

/-! ## Blanks -/

theorem skipBlank_append {w : List UInt8} (hw : Blank w) (bs : List UInt8) :
    skipBlank (w ++ bs) = skipBlank bs :=
  List.dropWhile_append_of_pos hw

theorem skipBlank_cons {b : UInt8} (hb : isBlank b = false) (bs : List UInt8) :
    skipBlank (b :: bs) = b :: bs := by
  rw [skipBlank, List.dropWhile_cons, hb]
  rfl

theorem skipBlank_starts {w t : List UInt8} (hw : Blank w) (ht : Starts t) (rest : List UInt8) :
    skipBlank (w ++ (t ++ rest)) = t ++ rest := by
  obtain ⟨b, bs, rfl, hb, -⟩ := ht
  rw [skipBlank_append hw, List.cons_append, skipBlank_cons hb]

/-! ## Strings -/

theorem hex4_append {ds : List UInt8} {n : Nat} (h : IsHex4 ds n) (rest : List UInt8) :
    hex4 (ds ++ rest) = .ok (n, rest) := by
  obtain ⟨a, b, c, d, a', b', c', d', rfl, ha, hb, hc, hd, rfl⟩ := h
  simp only [List.cons_append, List.nil_append, hex4, ha, hb, hc, hd]

theorem skipString_escape {bs rest : List UInt8} (h : skipEscape bs = .ok rest) :
    skipString (backslash :: bs) = skipString rest := by
  rw [skipString, if_neg (by decide), if_pos rfl]
  split
  · rename_i f hf
    cases h.symm.trans hf
  · rename_i rest' hrest
    cases h.symm.trans hrest
    rfl

/-- A string is passed over up to its closing quote. -/
theorem skipString_append {t : List UInt8} (h : IsChars t) (rest : List UInt8) :
    skipString (t ++ quote :: rest) = .ok rest := by
  induction h with
  | nil => rw [List.nil_append, skipString, if_pos rfl]
  | plain hlow hquote hback _ ih =>
    rw [List.cons_append, skipString, if_neg hquote, if_neg hback, if_neg (UInt8.not_lt.2 hlow), ih]
  | short he _ ih =>
    rw [List.cons_append, List.cons_append, skipString_escape (by rw [skipEscape, if_pos he]), ih]
  | unicode hds _ ih =>
    have hu : escaped? letterU = none := by decide
    rw [List.cons_append, List.cons_append, List.append_assoc, skipString_escape, ih]
    rw [skipEscape, hu, if_neg (by decide), if_pos rfl, hex4_append hds]

/-! ## Numbers -/

theorem numberTail_of_stops {rest : List UInt8} (h : Stops rest) : numberTail rest = .none rest := by
  cases rest with
  | nil => rfl
  | cons b bs =>
    obtain ⟨-, hdot, hsmall, hcapital⟩ := h b rfl
    rw [numberTail, if_neg hdot, if_neg (by simp [hsmall, hcapital])]

theorem numberTail_exponent_cons {e : UInt8} (he : e = letterE ∨ e = capitalE) (bs : List UInt8) :
    numberTail (e :: bs) = .exponent bs := by
  rcases he with rfl | rfl <;> rfl

theorem skipExponent_append {sign ds rest : List UInt8} (hsign : sign = [] ∨ sign = [plus] ∨ sign = [minus])
    (hds : IsDigits ds) (hrest : Stops rest) : skipExponent (sign ++ (ds ++ rest)) = .ok rest := by
  obtain ⟨d, ds', rfl, hd, hds'⟩ := hds.exists_cons
  have hread : (readSign (sign ++ (d :: ds' ++ rest))).2 = d :: (ds' ++ rest) := by
    rcases hsign with rfl | rfl | rfl
    · rw [List.nil_append, List.cons_append, readSign]
      · rintro bs ⟨⟩
        exact absurd hd (by decide)
      · rintro bs ⟨⟩
        exact absurd hd (by decide)
    · rfl
    · rfl
  simp only [skipExponent, hread, hd, if_true]
  rw [dropWhile_run hds' fun b hb => (hrest b hb).1]

/-- What may follow the digits of a number is passed over. -/
theorem skipNumberTail_append {fraction exponent rest : List UInt8} (hf : IsFraction fraction)
    (he : IsExponent exponent) (hrest : Stops rest) :
    skipNumberTail (fraction ++ (exponent ++ rest)) = .ok rest := by
  have hexponent : ∀ b ∈ (exponent ++ rest).head?, isDigit b = false := by
    cases he with
    | absent => exact fun b hb => (hrest b hb).1
    | digits he =>
      rintro b ⟨⟩
      rcases he with rfl | rfl <;> rfl
  cases hf with
  | absent =>
    rw [List.nil_append, skipNumberTail]
    cases he with
    | absent => rw [List.nil_append, numberTail_of_stops hrest]
    | digits he hsign hds =>
      rw [List.cons_append, numberTail_exponent_cons he, List.append_assoc]
      exact skipExponent_append hsign hds hrest
  | digits hds =>
    obtain ⟨d, ds', rfl, hd, hds'⟩ := hds.exists_cons
    have hdrop : (d :: ds' ++ (exponent ++ rest)).dropWhile isDigit = exponent ++ rest :=
      dropWhile_run (List.forall_mem_cons.2 ⟨hd, hds'⟩) hexponent
    have hhead : ((d :: ds' ++ (exponent ++ rest)).head?.any isDigit) = true := hd
    have htail : numberTail (dot :: (d :: ds' ++ (exponent ++ rest))) =
      .fraction (d :: ds' ++ (exponent ++ rest)) := rfl
    rw [skipNumberTail, List.cons_append, htail]
    simp only [hhead, if_true, hdrop]
    cases he with
    | absent => rw [List.nil_append, numberTail_of_stops hrest]
    | digits he hsign hds =>
      rw [List.cons_append, numberTail_exponent_cons he, List.append_assoc]
      exact skipExponent_append hsign hds hrest

/-- A number is passed over behind its sign. -/
theorem skipNumber_append {ds fraction exponent rest : List UInt8} (hds : IsWhole ds) (hf : IsFraction fraction)
    (he : IsExponent exponent) (hrest : Stops rest) :
    skipNumber (ds ++ (fraction ++ (exponent ++ rest))) = .ok rest := by
  have hbehind : ∀ b ∈ (fraction ++ (exponent ++ rest)).head?, isDigit b = false := by
    cases hf with
    | digits => rintro b ⟨⟩; rfl
    | absent =>
      cases he with
      | absent => exact fun b hb => (hrest b hb).1
      | digits he =>
        rintro b ⟨⟩
        rcases he with rfl | rfl <;> rfl
  obtain ⟨hdigits, hzero⟩ := hds
  obtain ⟨d, ds', rfl, hd, hds'⟩ := hdigits.exists_cons
  rw [List.cons_append, skipNumber]
  by_cases hd0 : d = zero
  · obtain ⟨-, rfl⟩ := List.cons.inj (hzero (by rw [hd0]; rfl))
    have hhead : ((fraction ++ (exponent ++ rest)).head?.any isDigit) = false := by
      cases hfirst : (fraction ++ (exponent ++ rest)).head? with
      | none => rfl
      | some b => exact hbehind b hfirst
    rw [if_pos hd0, List.nil_append, hhead, if_neg Bool.false_ne_true]
    exact skipNumberTail_append hf he hrest
  · rw [if_neg hd0, if_pos hd, dropWhile_run hds' hbehind]
    exact skipNumberTail_append hf he hrest

/-! ## Values -/

theorem skipScalar_digit {b : UInt8} (hb : isDigit b = true) (bs : List UInt8) :
    skipScalar (b :: bs) = skipNumber (b :: bs) := by
  rw [skipScalar, if_neg (ne_of_isDigit hb (by decide)), if_neg (ne_of_isDigit hb (by decide)), if_pos hb]

theorem skipScalar_append {t : List UInt8} (h : IsScalar t) {rest : List UInt8} (hrest : Stops rest) :
    skipScalar (t ++ rest) = .ok rest := by
  cases h with
  | null | true | false => rfl
  | chars h =>
    rw [List.cons_append, List.append_assoc, skipScalar, if_pos rfl]
    exact skipString_append h rest
  | number h =>
    cases h with
    | positive hds hf he =>
      obtain ⟨d, ds', rfl, hd, -⟩ := hds.1.exists_cons
      rw [List.append_assoc, List.append_assoc, List.cons_append, skipScalar_digit hd, ← List.cons_append]
      exact skipNumber_append hds hf he hrest
    | negative hds hf he =>
      rw [List.cons_append, List.append_assoc, List.append_assoc, skipScalar, if_neg (by decide), if_pos rfl]
      exact skipNumber_append hds hf he hrest

/-- What stands in front of a value is passed over up to blanks. -/
theorem lead_append {f : Frame} {lead w : List UInt8} (h : IsLead f lead) (hw : Blank w) :
    ∃ w', Blank w' ∧ ∀ more, f.lead (w ++ (lead ++ more)) = .ok (w' ++ more) := by
  cases h with
  | list => exact ⟨w, hw, fun more => rfl⟩
  | @object key w₁ w₂ hkey hw₁ hw₂ =>
    refine ⟨w₂, hw₂, fun more => ?_⟩
    have hkeys : skipBlank (w ++ (quote :: (key ++ quote :: (w₁ ++ colon :: w₂)) ++ more)) =
        quote :: (key ++ quote :: (w₁ ++ colon :: (w₂ ++ more))) := by
      rw [skipBlank_append hw, List.cons_append, skipBlank_cons (by decide)]
      simp
    have hcolon : skipBlank (w₁ ++ colon :: (w₂ ++ more)) = colon :: (w₂ ++ more) := by
      rw [skipBlank_append hw₁, skipBlank_cons (by decide)]
    simp only [Frame.lead, skipKey, hkeys, if_true, skipString_append hkey, skipColon, hcolon]

section
variable {frames : List Frame} {f : Frame} {b : UInt8} {bs more after rest : List UInt8}

theorem skipValue_scalar (hb : skipBlank bs = b :: more) (ho : Frame.opened? b = none)
    (hs : skipScalar (b :: more) = .ok rest) : skipValue frames bs = skipRest frames rest := by
  rw [skipValue]
  split <;> simp_all
  split <;> simp_all

theorem skipValue_empty (hb : skipBlank bs = b :: more) (ho : Frame.opened? b = some f)
    (hm : skipBlank more = f.close :: after) : skipValue frames bs = skipRest frames after := by
  rw [skipValue]
  split <;> simp_all
  split <;> simp_all

theorem skipValue_lead (hb : skipBlank bs = b :: more) (ho : Frame.opened? b = some f) {c : UInt8}
    (hm : skipBlank more = c :: after) (hc : c ≠ f.close) (hl : f.lead (c :: after) = .ok rest) :
    skipValue frames bs = skipValue (f :: frames) rest := by
  rw [skipValue]
  split <;> simp_all
  split <;> simp_all
  split <;> simp_all

theorem skipRest_close (hb : skipBlank bs = f.close :: more) :
    skipRest (f :: frames) bs = skipRest frames more := by
  have hcomma : f.close ≠ comma := by cases f <;> decide
  rw [skipRest]
  split <;> simp_all

theorem skipRest_comma (hb : skipBlank bs = comma :: more) (hl : f.lead more = .ok rest) :
    skipRest (f :: frames) bs = skipValue (f :: frames) rest := by
  rw [skipRest]
  split <;> simp_all
  split <;> simp_all

end

/-- A text that is passed over as a value, whatever brackets are open. -/
def Skips (t : List UInt8) : Prop :=
  ∀ frames w rest, Blank w → Stops rest → skipValue frames (w ++ (t ++ rest)) = skipRest frames rest

theorem skipRest_follows {f : Frame} {items : List (List UInt8 × List UInt8)} (hlead : ∀ i ∈ items, IsLead f i.1)
    (hskip : ∀ i ∈ items, Skips i.2) {t : List UInt8} (h : Follows f (items.map fun i => i.1 ++ i.2) t)
    (frames : List Frame) (rest : List UInt8) : skipRest (f :: frames) (t ++ rest) = skipRest frames rest := by
  induction items generalizing t with
  | nil =>
    cases h with
    | close hw =>
      refine skipRest_close ?_
      have hclose : isBlank f.close = false := by cases f <;> decide
      rw [List.append_assoc, skipBlank_append hw]
      exact skipBlank_cons hclose rest
  | cons i items ih =>
    obtain ⟨hi, hitems⟩ := List.forall_mem_cons.1 hlead
    obtain ⟨hv, hvs⟩ := List.forall_mem_cons.1 hskip
    rw [List.map_cons] at h
    cases h with
    | @item w w' _ t' _ hw hw' h =>
      obtain ⟨w'', hw'', hl⟩ := lead_append hi hw'
      have hcomma : skipBlank (w ++ comma :: (w' ++ (i.1 ++ i.2 ++ t')) ++ rest) =
          comma :: (w' ++ (i.1 ++ (i.2 ++ (t' ++ rest)))) := by
        rw [List.append_assoc, skipBlank_append hw, List.cons_append, skipBlank_cons (by decide)]
        simp only [List.append_assoc]
      rw [skipRest_comma hcomma (hl _), hv _ _ _ hw'' (h.stops rest)]
      exact ih hitems hvs h

theorem opened?_opening (f : Frame) : Frame.opened? f.opening = some f := by cases f <;> decide

/-- Every value is passed over, whatever brackets are open. -/
theorem IsJson.skips {t : List UInt8} (h : IsJson t) : Skips t := by
  induction h with
  | @scalar t h =>
    intro frames w rest hw hrest
    have hskip := skipScalar_append h hrest
    obtain ⟨b, bs, rfl, -⟩ := h.starts
    refine skipValue_scalar (skipBlank_starts hw h.starts rest) ?_ hskip
    -- behind an open bracket nothing would be passed over as a word
    have hlist : b ≠ openBracket := by rintro rfl; cases hskip
    have hobject : b ≠ openBrace := by rintro rfl; cases hskip
    rw [Frame.opened?, if_neg hlist, if_neg hobject]
  | bracket f items hlead hvalue h ih =>
    intro frames w rest hw hrest
    have hopening : ∀ more, skipBlank (w ++ f.opening :: more) = f.opening :: more := by
      intro more
      rw [skipBlank_append hw]
      cases f <;> exact skipBlank_cons (by decide) more
    have hclose : isBlank f.close = false := by cases f <;> decide
    cases items with
    | nil =>
      cases h with
      | @empty w' hw' =>
        have hend : skipBlank (w' ++ [f.close] ++ rest) = f.close :: rest := by
          rw [List.append_assoc, skipBlank_append hw']
          exact skipBlank_cons hclose rest
        rw [List.cons_append, skipValue_empty (hopening _) (opened?_opening f) hend]
    | cons i items =>
      obtain ⟨hi, hitems⟩ := List.forall_mem_cons.1 hlead
      obtain ⟨hv, hvs⟩ := List.forall_mem_cons.1 ih
      rw [List.map_cons] at h
      cases h with
      | @items w' _ t' _ hw' h =>
        have hstarts : Starts (i.1 ++ i.2) := hi.starts (hvalue i (.head _)).starts
        obtain ⟨w'', hw'', hl⟩ := lead_append hi blank_nil
        obtain ⟨c, cs, hcs, -⟩ := id hstarts
        have hafter : skipBlank (w' ++ (i.1 ++ i.2 ++ t') ++ rest) = c :: (cs ++ (t' ++ rest)) := by
          rw [List.append_assoc, List.append_assoc, skipBlank_starts hw' hstarts, hcs]
          rfl
        have hl' : f.lead (c :: (cs ++ (t' ++ rest))) = .ok (w'' ++ (i.2 ++ (t' ++ rest))) := by
          rw [← hl, List.nil_append, ← List.cons_append, ← hcs, List.append_assoc]
        rw [List.cons_append, skipValue_lead (hopening _) (opened?_opening f) hafter
          ((hcs ▸ hstarts).ne_close f) hl', hv _ _ _ hw'' (h.stops rest)]
        exact skipRest_follows hitems hvs h frames rest

/-- One value is passed over up to what stands behind it. -/
theorem skip_read {t w rest : List UInt8} (h : IsJson t) (hw : Blank w) (hrest : Stops rest) :
    skip.read (w ++ (t ++ rest)) = .ok ((), rest) := by
  simp only [skip, h.skips [] w rest hw hrest, skipRest]

end ForgeBridge.Json
