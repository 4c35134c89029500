import ForgeBridge.Proofs.FrontRuns
import ForgeBridge.Reference
import Mathlib.Order.Bounds.Basic

/-!
# Words in a text

What the words of a text are is said without the search for them: a word is a name, a slash, a name, a number
sign and digits, and it starts wherever the text goes on with one. The search is a scan (`Scan`): the next word
is the one that starts first behind the last one, with all the digits that follow its mark. There is one scan of
a text, and it is what is found in it (`scan_iff`); so every word that starts in the text starts in one that is
found (`Scan.covers`). The references of a text are its words whose number has no more than 64 bits
(`findAll_of_scan`).
-/

namespace ForgeBridge.Reference

/-! ## Words -/

/-- A name has at least one character. -/
def IsName (cs : List Char) : Prop := cs ≠ [] ∧ ∀ c ∈ cs, isNameChar c = true

/-- A number in digits. -/
def IsNumeral (cs : List Char) : Prop := cs ≠ [] ∧ ∀ c ∈ cs, c.isDigit = true

instance (cs : List Char) : Decidable (IsName cs) :=
  decidable_of_iff (cs ≠ [] ∧ cs.all isNameChar = true) (by rw [IsName, List.all_eq_true])

structure Word.IsProper (w : Word) : Prop where
  owner : IsName w.owner
  repo : IsName w.repo
  digits : IsNumeral w.digits

/-- At this place the text goes on with a word. -/
def StartsAt (cs : List Char) (q : Nat) : Prop := ∃ w : Word, w.IsProper ∧ w.text <+: cs.drop q

/-- The place behind a word. -/
def Occurrence.stop (o : Occurrence) : Nat := o.start + o.word.text.length

/-- A word stands in a text, with all the digits that follow its mark. -/
structure Occurrence.IsIn (o : Occurrence) (cs : List Char) : Prop where
  proper : o.word.IsProper
  here : o.word.text <+: cs.drop o.start
  complete : ∀ c ∈ (cs.drop o.stop).head?, c.isDigit = false

/-- Words of a text from a place on: each is the first that starts behind the one before it, and behind the last
one none starts. -/
inductive Scan (cs : List Char) : Nat → List Occurrence → Prop
  | done {p} : (∀ q, p ≤ q → ¬StartsAt cs q) → Scan cs p []
  | next {p o os} : IsLeast {q | p ≤ q ∧ StartsAt cs q} o.start → o.IsIn cs → Scan cs o.stop os →
      Scan cs p (o :: os)

/-! ## The word at the front of a text -/

/-- A run of characters of one kind, up to one of another kind. -/
theorem span_run {p : Char → Bool} {xs : List Char} {c : Char} (hxs : ∀ x ∈ xs, p x = true) (hc : p c = false)
    (ys : List Char) :
    (xs ++ c :: ys).takeWhile p = xs ∧ (xs ++ c :: ys).dropWhile p = c :: ys := by
  exact ⟨takeWhile_run hxs (stop_cons hc ys), dropWhile_run hxs (stop_cons hc ys)⟩

theorem head?_dropWhile (p : Char → Bool) (cs : List Char) : ∀ c ∈ (cs.dropWhile p).head?, p c = false := by
  intro c hc
  have hnot := List.head?_dropWhile_not p cs
  simpa [Option.mem_def.1 hc] using hnot

/-- A name in front of a mark is all of the text in front of it. -/
theorem nameBefore_eq_some {mark : Char} (hm : isNameChar mark = false) {cs name rest : List Char} :
    nameBefore mark cs = some (name, rest) ↔ IsName name ∧ cs = name ++ mark :: rest := by
  constructor
  · intro h
    have hall : ∀ x ∈ cs.takeWhile isNameChar, isNameChar x = true := List.all_eq_true.1 List.all_takeWhile
    have hcs := cs.takeWhile_append_dropWhile (p := isNameChar)
    rcases htake : cs.takeWhile isNameChar with _ | ⟨x, xs⟩
    · simp [nameBefore, htake] at h
    rcases hdrop : cs.dropWhile isNameChar with _ | ⟨c, ys⟩
    · simp [nameBefore, htake, hdrop] at h
    rw [htake] at hall
    rw [htake, hdrop] at hcs
    simp only [nameBefore, htake, hdrop] at h
    split at h
    · rename_i hc
      cases h
      exact ⟨⟨List.cons_ne_nil x xs, hall⟩, by rw [← hcs, hc]⟩
    · cases h
  · rintro ⟨⟨hne, hname⟩, rfl⟩
    obtain ⟨htake, hdrop⟩ := span_run hname hm rest
    obtain ⟨x, xs, rfl⟩ := List.exists_cons_of_ne_nil hne
    simp only [nameBefore, htake, hdrop, if_true]

/-- What is found at the front of a text is a word, with all the digits that follow its mark. -/
theorem Word.atFront?_eq_some {cs : List Char} {w : Word} :
    Word.atFront? cs = some w ↔
      w.IsProper ∧ ∃ rest, cs = w.text ++ rest ∧ ∀ c ∈ rest.head?, c.isDigit = false := by
  have hslash : isNameChar '/' = false := by decide
  have hmark : isNameChar '#' = false := by decide
  simp only [Word.atFront?, Option.bind_eq_bind, Option.bind_eq_some_iff, Prod.exists, nameBefore_eq_some hslash,
    nameBefore_eq_some hmark]
  constructor
  · rintro ⟨owner, behind, ⟨howner, rfl⟩, repo, cs, ⟨hrepo, rfl⟩, h⟩
    have hall : ∀ x ∈ cs.takeWhile Char.isDigit, x.isDigit = true := List.all_eq_true.1 List.all_takeWhile
    have hcs := cs.takeWhile_append_dropWhile (p := Char.isDigit)
    split at h
    · cases h
    · rename_i hne
      cases h
      refine ⟨⟨howner, hrepo, hne, hall⟩, _, ?_, head?_dropWhile Char.isDigit cs⟩
      simp only [Word.text, List.append_assoc, List.cons_append, hcs]
  · rintro ⟨⟨howner, hrepo, hne, hdigits⟩, rest, rfl, hstop⟩
    refine ⟨w.owner, _, ⟨howner, ?_⟩, w.repo, w.digits ++ rest, ⟨hrepo, rfl⟩, ?_⟩
    · simp only [Word.text, List.append_assoc, List.cons_append]
    · have htake : (w.digits ++ rest).takeWhile Char.isDigit = w.digits := by
        rw [List.takeWhile_append_of_pos hdigits]
        cases rest with
        | nil => rw [List.takeWhile_nil, List.append_nil]
        | cons c rest =>
          rw [List.takeWhile_cons_of_neg (by rw [hstop c rfl]; exact Bool.false_ne_true), List.append_nil]
      rw [htake]
      split
      · contradiction
      · rfl

theorem Occurrence.isIn_iff {o : Occurrence} {cs : List Char} :
    o.IsIn cs ↔ Word.atFront? (cs.drop o.start) = some o.word := by
  rw [Word.atFront?_eq_some]
  constructor
  · rintro ⟨hproper, ⟨rest, hrest⟩, hstop⟩
    refine ⟨hproper, rest, hrest.symm, ?_⟩
    rwa [stop, ← List.drop_drop, ← hrest, List.drop_left] at hstop
  · rintro ⟨hproper, rest, hrest, hstop⟩
    refine ⟨hproper, ⟨rest, hrest.symm⟩, ?_⟩
    rwa [stop, ← List.drop_drop, hrest, List.drop_left]

/-- Where a word starts, one is found. -/
theorem startsAt_iff {cs : List Char} {q : Nat} :
    StartsAt cs q ↔ ∃ w, Word.atFront? (cs.drop q) = some w := by
  constructor
  · rintro ⟨w, ⟨howner, hrepo, hne, hdigits⟩, rest, hrest⟩
    -- the word that is found has more digits, if more follow
    refine ⟨⟨w.owner, w.repo, w.digits ++ rest.takeWhile Char.isDigit⟩, Word.atFront?_eq_some.2
      ⟨⟨howner, hrepo, List.append_ne_nil_of_left_ne_nil hne _, ?_⟩, _, ?_, head?_dropWhile Char.isDigit rest⟩⟩
    · exact List.forall_mem_append.2 ⟨hdigits, List.all_eq_true.1 List.all_takeWhile⟩
    · rw [← hrest]
      simp only [Word.text, List.append_assoc, List.cons_append, List.takeWhile_append_dropWhile]
  · rintro ⟨w, hw⟩
    obtain ⟨hproper, rest, hrest, -⟩ := Word.atFront?_eq_some.1 hw
    exact ⟨w, hproper, rest, hrest.symm⟩

/-! ## Where no word starts -/

theorem not_startsAt_of_length_le {cs : List Char} {q : Nat} (h : cs.length ≤ q) : ¬StartsAt cs q := by
  rintro ⟨w, -, hfront⟩
  rw [List.drop_eq_nil_of_le h, List.prefix_nil] at hfront
  exact w.text_ne_nil hfront

/-- A word that starts inside of a name would start with the name too. -/
theorem startsAt_of_name {cs : List Char} {p q : Nat} (hpq : p ≤ q)
    (hq : q < p + ((cs.drop p).takeWhile isNameChar).length) (h : StartsAt cs q) : StartsAt cs p := by
  obtain ⟨w, ⟨⟨hne, howner⟩, hrepo, hdigits⟩, rest, hrest⟩ := h
  have hname : ∀ c ∈ (cs.drop p).take (q - p), isNameChar c = true := by
    intro c hc
    have hfront : (cs.drop p).take (q - p) <+: (cs.drop p).takeWhile isNameChar :=
      List.prefix_of_prefix_length_le (List.take_prefix _ _) (List.takeWhile_prefix _)
        (by rw [List.length_take]; omega)
    exact List.all_eq_true.1 List.all_takeWhile c (hfront.subset hc)
  have hdrop : cs.drop p = (cs.drop p).take (q - p) ++ cs.drop q := by
    conv_lhs => rw [← List.take_append_drop (q - p) (cs.drop p), List.drop_drop]
    rw [Nat.add_sub_cancel' hpq]
  refine ⟨⟨(cs.drop p).take (q - p) ++ w.owner, w.repo, w.digits⟩,
    ⟨⟨List.append_ne_nil_of_right_ne_nil _ hne, List.forall_mem_append.2 ⟨hname, howner⟩⟩, hrepo, hdigits⟩,
    rest, ?_⟩
  conv_rhs => rw [hdrop, ← hrest]
  simp only [Word.text, List.append_assoc, List.cons_append]

/-- Where no word starts, none does up to the end of the name. -/
theorem not_startsAt_of_lt_stride {cs : List Char} {p q : Nat} (hp : ¬StartsAt cs p) (hpq : p ≤ q)
    (hq : q < p + stride (cs.drop p)) : ¬StartsAt cs q := by
  intro h
  by_cases hname : q < p + ((cs.drop p).takeWhile isNameChar).length
  · exact hp (startsAt_of_name hpq hname h)
  · have heq : q = p := by
      rw [stride] at hq
      omega
    exact hp (heq ▸ h)

/-! ## Scans -/

namespace Scan

variable {cs : List Char} {p : Nat} {os os' : List Occurrence}

/-- A scan may start earlier, if no word starts in between. -/
theorem skip {p' : Nat} (hp : p ≤ p') (hnone : ∀ q, p ≤ q → q < p' → ¬StartsAt cs q) (h : Scan cs p' os) :
    Scan cs p os := by
  cases h with
  | done hdone =>
    refine .done fun q hq => ?_
    rcases Nat.lt_or_ge q p' with hlt | hge
    · exact hnone q hq hlt
    · exact hdone q hge
  | next hleast hin hrest =>
    refine .next ⟨⟨hp.trans hleast.1.1, hleast.1.2⟩, fun q hq => ?_⟩ hin hrest
    rcases Nat.lt_or_ge q p' with hlt | hge
    · exact absurd hq.2 (hnone q hq.1 hlt)
    · exact hleast.2 ⟨hge, hq.2⟩

/-- The words of a scan stand in the text. -/
theorem isIn (h : Scan cs p os) : ∀ o ∈ os, o.IsIn cs := by
  induction h with
  | done => exact List.forall_mem_nil _
  | next _ hin _ ih => exact List.forall_mem_cons.2 ⟨hin, ih⟩

theorem unique (h : Scan cs p os) (h' : Scan cs p os') : os = os' := by
  induction h generalizing os' with
  | done hdone =>
    cases h' with
    | done => rfl
    | next hleast => exact absurd hleast.1.2 (hdone _ hleast.1.1)
  | @next p o os hleast hin _ ih =>
    cases h' with
    | done hdone => exact absurd hleast.1.2 (hdone _ hleast.1.1)
    | @next _ o' os' hleast' hin' hrest' =>
      have hstart : o.start = o'.start := hleast.unique hleast'
      have hword : o.word = o'.word := by
        rw [Occurrence.isIn_iff] at hin hin'
        rw [hstart, hin'] at hin
        exact (Option.some.inj hin).symm
      obtain rfl : o = o' := by
        cases o
        cases o'
        cases hstart
        cases hword
        rfl
      rw [ih hrest']

end Scan

/-- What is found in a text is a scan of it. -/
theorem scan_occurrencesFrom (cs : List Char) (p : Nat) : Scan cs p (occurrencesFrom p (cs.drop p)) := by
  generalize hrest : cs.drop p = rest
  fun_induction occurrencesFrom p rest with
  | case1 p =>
    exact .done fun q hq => not_startsAt_of_length_le (Nat.le_trans (List.drop_eq_nil_iff.1 hrest) hq)
  | case2 p c rest w hw hpos ih =>
    have hin : Word.atFront? (cs.drop p) = some w := hrest ▸ hw
    refine .next ⟨⟨Nat.le_refl p, startsAt_iff.2 ⟨w, hin⟩⟩, fun q hq => hq.1⟩ (Occurrence.isIn_iff.2 hin) ?_
    exact ih (by rw [← hrest, List.drop_drop])
  | case3 p c rest hnone hpos ih =>
    have hnot : ¬StartsAt cs p := by
      rw [startsAt_iff, hrest, hnone]
      nofun
    rw [← hrest] at ih ⊢
    exact (ih List.drop_drop.symm).skip (Nat.le_add_right p _) fun q hpq hq =>
      not_startsAt_of_lt_stride hnot hpq hq

/-- There is one scan of a text. -/
theorem scan_iff {cs : List Char} {p : Nat} {os : List Occurrence} :
    Scan cs p os ↔ os = occurrencesFrom p (cs.drop p) :=
  ⟨fun h => h.unique (scan_occurrencesFrom cs p), fun h => h ▸ scan_occurrencesFrom cs p⟩

namespace Scan

variable {cs : List Char} {p : Nat} {os : List Occurrence}

theorem le_start (h : Scan cs p os) : ∀ o ∈ os, p ≤ o.start := by
  induction h with
  | done => exact List.forall_mem_nil _
  | @next p o os hleast _ _ ih =>
    refine List.forall_mem_cons.2 ⟨hleast.1.1, fun o' ho' => ?_⟩
    calc p ≤ o.start := hleast.1.1
      _ ≤ o.stop := Nat.le_add_right ..
      _ ≤ o'.start := ih o' ho'

/-- The words of a scan are apart. -/
theorem pairwise (h : Scan cs p os) : os.Pairwise fun o o' => o.stop ≤ o'.start := by
  induction h with
  | done => exact .nil
  | next _ _ hrest ih => exact .cons hrest.le_start ih

/-- Each word that starts in a text starts in a word of the scan. -/
theorem covers (h : Scan cs p os) {q : Nat} (hpq : p ≤ q) (hq : StartsAt cs q) :
    ∃ o ∈ os, o.start ≤ q ∧ q < o.stop := by
  induction h with
  | done hdone => exact absurd hq (hdone q hpq)
  | @next p o os hleast _ _ ih =>
    rcases Nat.lt_or_ge q o.stop with hlt | hge
    · exact ⟨o, .head _, hleast.2 ⟨hpq, hq⟩, hlt⟩
    · obtain ⟨o', ho', hin⟩ := ih hge
      exact ⟨o', .tail _ ho', hin⟩

end Scan

/-! ## References -/

theorem numberOf_eq (digits : List Char) : numberOf digits = Nat.ofDigitChars 10 digits 0 := by
  simp only [numberOf, Nat.ofDigitChars_eq_foldl, Nat.mul_comm 10]

/-- What is read from a word. -/
theorem ofWord?_eq_some {w : Word} {r : Reference} :
    ofWord? w = some r ↔ Nat.ofDigitChars 10 w.digits 0 < UInt64.size ∧
      r = ⟨.ofList w.owner, .ofList w.repo, .ofNat (Nat.ofDigitChars 10 w.digits 0)⟩ := by
  rw [ofWord?, numberOf_eq]
  split
  · rename_i hsmall
    rw [Option.some.injEq, eq_comm]
    exact (and_iff_right hsmall).symm
  · rename_i hbig
    exact iff_of_false nofun fun h => hbig h.1

/-- The references of a text are read from its words, in their order; those with a number of more than 64 bits are
left out. -/
theorem findAll_eq_filter (text : String) :
    (findAll text).map (fun r => (r.owner, r.repo, r.number.toNat)) =
      ((occurrences text).map fun o =>
        (String.ofList o.word.owner, String.ofList o.word.repo, Nat.ofDigitChars 10 o.word.digits 0)).filter
          (·.2.2 < UInt64.size) := by
  rw [findAll]
  induction occurrences text with
  | nil => rfl
  | cons o os ih =>
    rw [List.map_cons, List.filter_cons, List.filterMap_cons, ← ih]
    by_cases hsmall : Nat.ofDigitChars 10 o.word.digits 0 < UInt64.size
    · rw [ofWord?_eq_some.2 ⟨hsmall, rfl⟩, if_pos (decide_eq_true hsmall)]
      simp only [List.map_cons, UInt64.toNat_ofNat_of_lt' hsmall]
    · have hnone : ofWord? o.word = none :=
        Option.eq_none_iff_forall_ne_some.2 fun r hr => hsmall (ofWord?_eq_some.1 hr).1
      rw [hnone, if_neg (by simpa using hsmall)]

/-- The words that are found in a text are its one scan: each is the first that starts behind the one before it.
They are apart, and no word starts in front of, between or behind them. The references of the text are these words,
without those whose number has more than 64 bits, and the first reference is the first of them. -/
theorem findAll_of_scan (text : String) :
    (∀ os, Scan text.toList 0 os ↔ os = occurrences text) ∧
    (occurrences text).Pairwise (fun o o' => o.stop ≤ o'.start) ∧
    (∀ q, StartsAt text.toList q → ∃ o ∈ occurrences text, o.start ≤ q ∧ q < o.stop) ∧
    (findAll text).map (fun r => (r.owner, r.repo, r.number.toNat)) =
      ((occurrences text).map fun o =>
        (String.ofList o.word.owner, String.ofList o.word.repo, Nat.ofDigitChars 10 o.word.digits 0)).filter
          (·.2.2 < UInt64.size) ∧
    findFirst text = (findAll text).head? := by
  have hscan : Scan text.toList 0 (occurrences text) := scan_occurrencesFrom text.toList 0
  exact ⟨fun os => scan_iff, hscan.pairwise, fun q hq => hscan.covers (Nat.zero_le q) hq,
    findAll_eq_filter text, rfl⟩

/-- Three words, of which the first two touch and the second has too big a number. -/
def touchingText : String := "x/a/b#007c/d#99999999999999999999e/f#1"

/-- A word starts inside of the first one found, with its last digit. -/
theorem findAll_of_scan_touching :
    StartsAt touchingText.toList 8 ∧ (∃ o ∈ occurrences touchingText, o.start ≤ 8 ∧ 8 < o.stop) ∧
      findAll touchingText = [⟨"a", "b", 7⟩, ⟨"e", "f", 1⟩] := by
  have hstart : StartsAt touchingText.toList 8 :=
    startsAt_iff.2 ⟨⟨['7', 'c'], ['d'], "99999999999999999999".toList⟩, by decide +kernel⟩
  exact ⟨hstart, (findAll_of_scan touchingText).2.2.1 8 hstart, by decide +kernel⟩

end ForgeBridge.Reference
