import ForgeBridge.Proofs.ReferenceWords

/-!
# References inside of a text

A reference that is written into a text is found there (`findAll_append_display`): what stands in front of it and
behind it is scanned as if it stood alone, if the text in front does not end in a character of a name or in the
mark of a number, and the text behind it does not start with a digit. So whatever is found in a text is found
again when it is written down.
-/

namespace ForgeBridge.Reference

/-! ## Texts behind one another -/

/-- The words of a text, without their places. -/
def wordsOf (cs : List Char) : List Word := (occurrencesFrom 0 cs).map (·.word)

/-- What is in front of a text does not change its words. -/
theorem map_word_occurrencesFrom (start k : Nat) (cs : List Char) :
    (occurrencesFrom (k + start) cs).map (·.word) = (occurrencesFrom start cs).map (·.word) := by
  fun_induction occurrencesFrom start cs with
  | case1 => simp [occurrencesFrom]
  | case2 start c rest w hw hpos ih =>
    rw [occurrencesFrom, hw, List.map_cons, List.map_cons, ← ih, Nat.add_assoc]
  | case3 start c rest hnone hpos ih =>
    rw [occurrencesFrom, hnone, ← ih, Nat.add_assoc]

/-- No name of a word goes on behind this text, and no number starts there. -/
def IsApart (cs : List Char) : Prop := ∀ c ∈ cs.getLast?, isNameChar c = false ∧ c ≠ '#'

theorem isNameChar_of_isDigit {c : Char} (h : c.isDigit = true) : isNameChar c = true := by
  simp [isNameChar, Char.isAlphanum, h]

theorem Word.IsProper.isDigit_getLast {w : Word} (hw : w.IsProper) :
    ∀ c ∈ w.text.getLast?, c.isDigit = true := by
  intro c hc
  have hne := hw.digits.1
  have hlast : w.text.getLast? = some (w.digits.getLast hne) := by
    rw [Word.text, List.getLast?_append, List.getLast?_cons, List.getLast?_eq_some_getLast hne]
    rfl
  rw [hlast, Option.mem_some_iff] at hc
  exact hc ▸ hw.digits.2 _ (List.getLast_mem hne)

/-- A character of a text that is taken apart at a mark is that mark, or stands on one side of it. -/
theorem eq_or_behind {xs t ys zs : List Char} {c m : Char} (h : xs ++ c :: t = ys ++ m :: zs) (hys : c ∉ ys) :
    c = m ∧ t = zs ∨ ∃ xs', zs = xs' ++ c :: t := by
  rcases List.append_eq_append_iff.1 h with ⟨as, hys', hct⟩ | ⟨bs, -, hmzs⟩
  · cases as with
    | nil => exact .inl (List.cons.inj hct)
    | cons a as =>
      obtain rfl := (List.cons.inj hct).1
      exact absurd (hys' ▸ List.mem_append_right xs (.head _)) hys
  · cases bs with
    | nil => exact .inl ⟨(List.cons.inj hmzs).1.symm, (List.cons.inj hmzs).2.symm⟩
    | cons b bs => exact .inr ⟨bs, (List.cons.inj hmzs).2⟩

/-- What is in no name and is not the mark of the number is the slash. -/
theorem Word.IsProper.behind_slash {w : Word} (hw : w.IsProper) {xs t : List Char} {c : Char}
    (h : w.text = xs ++ c :: t) (hc : isNameChar c = false) (hmark : c ≠ '#') :
    t = w.repo ++ '#' :: w.digits := by
  have hnot {cs : List Char} (hcs : ∀ d ∈ cs, isNameChar d = true) : c ∉ cs := fun hmem =>
    Bool.false_ne_true (hc.symm.trans (hcs c hmem))
  have htext : xs ++ c :: t = w.owner ++ '/' :: (w.repo ++ '#' :: w.digits) := by
    rw [← h, Word.text, List.append_assoc, List.cons_append]
  rcases eq_or_behind htext (hnot hw.owner.2) with ⟨-, ht⟩ | ⟨xs', hxs'⟩
  · exact ht
  · rcases eq_or_behind hxs'.symm (hnot hw.repo.2) with ⟨hm, -⟩ | ⟨xs'', hxs''⟩
    · exact absurd hm hmark
    · have hmem : c ∈ w.digits := hxs'' ▸ List.mem_append_right xs'' (.head _)
      exact absurd hmem (hnot fun d hd => isNameChar_of_isDigit (hw.digits.2 d hd))

/-- What follows the slash of a word is not what follows the name of an owner. -/
theorem Word.IsProper.not_at_owner {w : Word} (hw : w.IsProper) {name : List Char} (hname : IsName name)
    (rest : List Char) : ¬w.repo ++ '#' :: w.digits <+: name ++ '/' :: rest := by
  rintro ⟨rest', h⟩
  rw [List.append_assoc, List.cons_append] at h
  have hmark := (span_run hw.repo.2 (show isNameChar '#' = false by decide) (w.digits ++ rest')).2
  have hslash := (span_run hname.2 (show isNameChar '/' = false by decide) rest).2
  rw [h, hslash] at hmark
  exact absurd (List.cons.inj hmark).1 (by decide)

section
variable {a name rest : List Char}

/-- A word that starts in a text that is apart is over before the next text, if this starts with the name of an
owner. -/
theorem startsAt_of_append (ha : IsApart a) (hname : IsName name) {q : Nat} (hq : q < a.length)
    (h : StartsAt (a ++ (name ++ '/' :: rest)) q) : StartsAt a q := by
  obtain ⟨w, hw, hfront⟩ := h
  rw [List.drop_append_of_le_length (Nat.le_of_lt hq)] at hfront
  rcases Nat.le_total w.text.length (a.drop q).length with hle | hge
  · exact ⟨w, hw, List.prefix_of_prefix_length_le hfront (List.prefix_append _ _) hle⟩
  · -- the last character in front would be the slash of the word
    obtain ⟨t, ht⟩ := List.prefix_of_prefix_length_le (List.prefix_append _ _) hfront hge
    rw [← ht, List.prefix_append_right_inj] at hfront
    rcases (a.drop q).eq_nil_or_concat with hnil | ⟨xs, c, hxs⟩
    · exact absurd (List.drop_eq_nil_iff.1 hnil) (Nat.not_le.2 hq)
    · rw [List.concat_eq_append] at hxs
      have hlast : c ∈ a.getLast? := by
        rw [← List.take_append_drop q a, hxs, List.getLast?_append, List.getLast?_concat]
        rfl
      rw [hxs, List.append_assoc, List.singleton_append] at ht
      rw [hw.behind_slash ht.symm (ha c hlast).1 (ha c hlast).2] at hfront
      exact absurd hfront (hw.not_at_owner hname rest)

/-- A word of a text that is apart is over before the end of it. -/
theorem Occurrence.IsIn.stop_lt {o : Occurrence} (h : o.IsIn a) (ha : IsApart a) : o.stop < a.length := by
  obtain ⟨rest, hrest⟩ := h.here
  have hne : rest ≠ [] := by
    rintro rfl
    obtain ⟨c, hc⟩ := Option.isSome_iff_exists.1 (List.getLast?_isSome.2 o.word.text_ne_nil)
    have hlast : c ∈ a.getLast? := by
      rw [← List.take_append_drop o.start a, ← hrest, List.append_nil, List.getLast?_append, hc]
      rfl
    exact Bool.false_ne_true
      ((ha c hlast).1.symm.trans (isNameChar_of_isDigit (h.proper.isDigit_getLast c hc)))
  have hdrop : a.drop o.stop = rest := by
    rw [Occurrence.stop, ← List.drop_drop, ← hrest, List.drop_left]
  rw [← hdrop, Ne, List.drop_eq_nil_iff] at hne
  exact Nat.not_le.1 hne

/-- So it stands in the text whatever follows. -/
theorem Occurrence.IsIn.append {o : Occurrence} (h : o.IsIn a) (ha : IsApart a) (b : List Char) :
    o.IsIn (a ++ b) := by
  have hstop := h.stop_lt ha
  have hstart : o.start ≤ o.stop := Nat.le_add_right ..
  refine ⟨h.proper, ?_, fun c hc => h.complete c ?_⟩
  · rw [List.drop_append_of_le_length (by omega)]
    exact h.here.trans (List.prefix_append _ _)
  · obtain ⟨d, rest, hrest⟩ := List.exists_cons_of_ne_nil (mt List.drop_eq_nil_iff.1 (Nat.not_le.2 hstop))
    rw [List.drop_append_of_le_length (by omega), hrest] at hc
    rwa [hrest]

/-- What is scanned in front of the name of an owner is scanned as if it stood alone. -/
theorem Scan.append {p : Nat} {os : List Occurrence} (h : Scan a p os) (ha : IsApart a) (hname : IsName name)
    (hp : p ≤ a.length) :
    Scan (a ++ (name ++ '/' :: rest)) p (os ++ occurrencesFrom a.length (name ++ '/' :: rest)) := by
  induction h with
  | @done p hdone =>
    have hrest := scan_occurrencesFrom (a ++ (name ++ '/' :: rest)) a.length
    rw [List.drop_left] at hrest
    exact hrest.skip hp fun q hpq hq hstarts => hdone q hpq (startsAt_of_append ha hname hq hstarts)
  | @next p o os hleast hin _ ih =>
    have hstop := hin.stop_lt ha
    have hin' := hin.append ha (name ++ '/' :: rest)
    refine .next ⟨⟨hleast.1.1, o.word, hin'.proper, hin'.here⟩, fun q hq => ?_⟩ hin'
      (ih (Nat.le_of_lt hstop))
    rcases Nat.lt_or_ge q a.length with hlt | hge
    · exact hleast.2 ⟨hq.1, startsAt_of_append ha hname hlt hq.2⟩
    · have hstart : o.start ≤ o.stop := Nat.le_add_right ..
      omega

theorem wordsOf_append (ha : IsApart a) (hname : IsName name) :
    wordsOf (a ++ (name ++ '/' :: rest)) = wordsOf a ++ wordsOf (name ++ '/' :: rest) := by
  have hscan : Scan (a ++ (name ++ '/' :: rest)) 0 _ :=
    (scan_occurrencesFrom a 0).append ha hname (Nat.zero_le _)
  rw [scan_iff, List.drop_zero, List.drop_zero] at hscan
  rw [wordsOf, ← hscan, List.map_append]
  congr 1
  exact map_word_occurrencesFrom 0 a.length _

end

/-- A word at the front of a text is found, and what is behind it is scanned as if it stood alone. -/
theorem wordsOf_word {w : Word} (hw : w.IsProper) {rest : List Char}
    (hrest : ∀ c ∈ rest.head?, c.isDigit = false) : wordsOf (w.text ++ rest) = w :: wordsOf rest := by
  have hfound : Word.atFront? (w.text ++ rest) = some w := Word.atFront?_eq_some.2 ⟨hw, rest, rfl, hrest⟩
  obtain ⟨c, cs, hcs⟩ := List.exists_cons_of_ne_nil (List.append_ne_nil_of_left_ne_nil w.text_ne_nil rest)
  have hbehind : (c :: cs).drop w.text.length = rest := by rw [← hcs, List.drop_left]
  rw [hcs] at hfound
  rw [wordsOf, hcs, occurrencesFrom, hfound, List.map_cons, hbehind, Nat.zero_add]
  congr 1
  exact map_word_occurrencesFrom 0 w.text.length rest

/-! ## References that are written down -/

/-- A reference with proper names. -/
def IsProper (r : Reference) : Prop := IsName r.owner.toList ∧ IsName r.repo.toList

instance (r : Reference) : Decidable r.IsProper := inferInstanceAs (Decidable (_ ∧ _))

/-- The word for a reference. -/
def word (r : Reference) : Word := ⟨r.owner.toList, r.repo.toList, Nat.toDigits 10 r.number.toNat⟩

theorem toList_display (r : Reference) : r.display.toList = r.word.text := by
  simp [display, fullName, word, Word.text]

theorem isProper_word {r : Reference} (h : r.IsProper) : r.word.IsProper :=
  ⟨h.1, h.2, Nat.toDigits_ne_nil, fun _ hc => Nat.isDigit_of_mem_toDigits (by omega) (by omega) hc⟩

theorem ofWord?_word (r : Reference) : ofWord? r.word = some r := by
  have hvalue : Nat.ofDigitChars 10 r.word.digits 0 = r.number.toNat := Nat.ofDigitChars_ten_toDigits
  rw [ofWord?_eq_some, hvalue]
  refine ⟨r.number.toNat_lt, ?_⟩
  simp [word]

theorem findAll_eq_wordsOf (text : String) : findAll text = (wordsOf text.toList).filterMap ofWord? := by
  rw [findAll, occurrences, wordsOf, List.filterMap_map]
  rfl

/-- A reference in a text is found between the references of what is in front of it and behind it. -/
theorem findAll_append {r : Reference} (hr : r.IsProper) {pre post : String} (hpre : IsApart pre.toList)
    (hpost : ∀ c ∈ post.toList.head?, c.isDigit = false) :
    findAll (pre ++ r.display ++ post) = findAll pre ++ [r] ++ findAll post := by
  have hsplit : r.word.text ++ post.toList =
      r.owner.toList ++ '/' :: (r.word.repo ++ '#' :: r.word.digits ++ post.toList) := by
    simp only [Word.text, word, List.append_assoc, List.cons_append]
  have hwords : wordsOf (pre ++ r.display ++ post).toList =
      wordsOf pre.toList ++ r.word :: wordsOf post.toList := by
    rw [String.toList_append, String.toList_append, toList_display, List.append_assoc, hsplit,
      wordsOf_append hpre hr.1, ← hsplit, wordsOf_word (isProper_word hr) hpost]
  rw [findAll_eq_wordsOf, hwords, List.filterMap_append, List.filterMap_cons, ofWord?_word, findAll_eq_wordsOf,
    findAll_eq_wordsOf, List.append_assoc, List.singleton_append]

theorem findAll_display {r : Reference} (hr : r.IsProper) : findAll r.display = [r] := by
  have h : findAll ("" ++ r.display ++ "") = findAll "" ++ [r] ++ findAll "" := findAll_append hr nofun nofun
  have hnone : findAll "" = [] := by decide +kernel
  rwa [hnone, String.empty_append, String.append_empty] at h

/-- What is found in a text has proper names. -/
theorem isProper_of_mem_findAll {text : String} {r : Reference} (h : r ∈ findAll text) : r.IsProper := by
  obtain ⟨o, ho, hr⟩ := List.mem_filterMap.1 h
  have hproper := ((scan_occurrencesFrom text.toList 0).isIn o ho).proper
  obtain ⟨-, rfl⟩ := ofWord?_eq_some.1 hr
  exact ⟨by rw [String.toList_ofList]; exact hproper.owner, by rw [String.toList_ofList]; exact hproper.repo⟩

/-- A reference with proper names, written down between two texts, is found there, and the texts are scanned as if
they stood alone: if the one in front does not end in a character of a name or in a number sign, and the one behind
does not start with a digit. So it is found when it stands alone, and each reference of a text is found again when
it is written down. -/
theorem findAll_append_display :
    (∀ (r : Reference) (pre post : String), IsName r.owner.toList → IsName r.repo.toList →
      (∀ c ∈ pre.toList.getLast?, isNameChar c = false ∧ c ≠ '#') →
      (∀ c ∈ post.toList.head?, c.isDigit = false) →
      findAll (pre ++ r.display ++ post) = findAll pre ++ [r] ++ findAll post) ∧
    (∀ r : Reference, IsName r.owner.toList → IsName r.repo.toList → findAll r.display = [r]) ∧
    ∀ (text : String), ∀ r ∈ findAll text, findAll r.display = [r] :=
  ⟨fun _ _ _ howner hrepo hpre hpost => findAll_append ⟨howner, hrepo⟩ hpre hpost,
    fun _ howner hrepo => findAll_display ⟨howner, hrepo⟩,
    fun _ _ hr => findAll_display (isProper_of_mem_findAll hr)⟩

/-- Between a slash and a name, and with more words on both sides. -/
theorem findAll_append_display_between :
    findAll "a/b#1/12/c#18446744073709551615d/e#5" =
        [⟨"a", "b", 1⟩, ⟨"12", "c", 18446744073709551615⟩, ⟨"d", "e", 5⟩] ∧
      findAll "12/c#18446744073709551615" = [⟨"12", "c", 18446744073709551615⟩] := by
  have hfront : findAll "a/b#1/" = [⟨"a", "b", 1⟩] := by decide +kernel
  have hbehind : findAll "d/e#5" = [⟨"d", "e", 5⟩] := by decide +kernel
  have hlast : "a/b#1/".toList.getLast? = some '/' := by decide +kernel
  have hfirst : "d/e#5".toList.head? = some 'd' := by decide +kernel
  obtain ⟨hbetween, halone, -⟩ := findAll_append_display
  have h := hbetween ⟨"12", "c", 18446744073709551615⟩ "a/b#1/" "d/e#5" (by decide +kernel) (by decide +kernel)
    (by rw [hlast]; rintro c ⟨⟩; decide) (by rw [hfirst]; rintro c ⟨⟩; decide)
  rw [hfront, hbehind] at h
  exact ⟨h, halone ⟨"12", "c", 18446744073709551615⟩ (by decide +kernel) (by decide +kernel)⟩

end ForgeBridge.Reference
