import ForgeBridge.Proofs.TomlStrings
import ForgeBridge.Toml.Decode

/-!
# Reading TOML tables of texts

A document of keys with arrays of strings is read as these entries, in the order of its lines (`read_document`), with
blanks, comments and ends of lines wherever they may stand. A key may stand in it only once.
-/

namespace ForgeBridge.Toml

open Toml.Parser

variable {c : Char} {cs w n r t rest : List Char} {depth : Nat}

/-! ## Comments and fillers -/

theorem comment_append (ht : ∀ c ∈ t, isCommentChar c = true) (hrest : ∀ c ∈ rest.head?, isCommentChar c = false) :
    comment ('#' :: (t ++ rest)) = .ok ((), rest) :=
  (seqRight_ok (char_ok _ _) _).trans (discard_ok (takeWhile_ok ht hrest))

/-- A character that starts no filler. -/
def NoFiller (c : Char) : Prop := isBlank c = false ∧ c ≠ '\n' ∧ c ≠ '\r' ∧ c ≠ '#'

instance (c : Char) : Decidable (NoFiller c) :=
  inferInstanceAs (Decidable (isBlank c = false ∧ c ≠ '\n' ∧ c ≠ '\r' ∧ c ≠ '#'))

/-- A text in front of which a filler ends. -/
def Unfilled (t : List Char) : Prop := ∀ c ∈ t.head?, NoFiller c

theorem unfilled_cons (h : NoFiller c) (t : List Char) : Unfilled (c :: t) := by
  rintro d ⟨⟩
  exact h

theorem filler_blank (hw : Blank w) (hrest : Unfilled rest) : filler (w ++ rest) = .ok ((), rest) := by
  refine untilDone_done ?_
  refine (bind_ok (blanks_append hw fun c hc => (hrest c hc).1) _).trans ?_
  refine (bind_ok (show peek rest = .ok (rest.head?, rest) from rfl) _).trans ?_
  cases rest with
  | nil => rfl
  | cons c cs =>
    obtain ⟨-, hfeed, hreturn, hmark⟩ := hrest c rfl
    have hdone : ∀ p : Parser Bool, p = pure true → p (c :: cs) = .ok (true, c :: cs) := by
      rintro p rfl
      rfl
    refine hdone _ ?_
    split
    · next heq => exact absurd (Option.some.inj heq) hmark
    · next heq => exact absurd (Option.some.inj heq) hfeed
    · next heq => exact absurd (Option.some.inj heq) hreturn
    · rfl

theorem filler_line (hw : Blank w) (hr : IsRemark r) (hn : IsNewline n) (rest : List Char) :
    filler (w ++ (r ++ (n ++ rest))) = filler rest := by
  have hlt : rest.length < (w ++ (r ++ (n ++ rest))).length := by
    have hpos := hn.length_pos
    simp only [List.length_append]
    omega
  refine untilDone_step ?_ hlt
  cases hr with
  | absent =>
    refine (bind_ok (blanks_append hw (newline_not hn _ (by decide) (by decide))) _).trans ?_
    refine (bind_ok (show peek (n ++ rest) = .ok ((n ++ rest).head?, n ++ rest) from rfl) _).trans ?_
    rcases hn.head_eq rest with h | h <;> rw [h] <;> exact bind_ok (newline_append hn rest) _
  | @comment t ht =>
    refine (bind_ok (blanks_append hw (stop_cons (by decide) _)) _).trans ?_
    refine (bind_ok rfl _).trans ?_
    refine (bind_ok (comment_append ht (newline_not hn rest (by decide) (by decide))) _).trans ?_
    exact bind_ok (newline_append hn rest) _

theorem filler_append (h : IsFiller t) (hrest : Unfilled rest) : filler (t ++ rest) = .ok ((), rest) := by
  induction h with
  | blank hw => exact filler_blank hw hrest
  | line hw hr hn _ ih =>
    rw [List.append_assoc, List.append_assoc, List.append_assoc, filler_line hw hr hn]
    exact ih

/-- A filler starts with a blank, a comment or the end of a line. -/
theorem IsFiller.head (h : IsFiller t) : ∀ c ∈ t.head?, ¬NoFiller c := by
  have hblank {w : List Char} (hw : Blank w) : ∀ c ∈ w.head?, ¬NoFiller c := fun c hc hno => by
    cases hno.1.symm.trans (hw c (List.mem_of_head? hc))
  cases h with
  | blank hw => exact hblank hw
  | @line w r n t hw hr hn =>
    cases w with
    | cons b w => exact fun c hc => hblank hw c hc
    | nil =>
      cases hr with
      | comment => rintro c ⟨⟩; decide
      | absent => cases hn <;> (rintro c ⟨⟩; decide)

theorem IsFiller.append_head {d : Char} (h : IsFiller t) (rest : List Char) :
    ∀ c ∈ (t ++ d :: rest).head?, ¬NoFiller c ∨ c = d := by
  cases t with
  | nil => rintro c ⟨⟩; exact .inr rfl
  | cons c t => exact fun c hc => .inl (h.head c hc)

/-! ## Arrays of strings -/

theorem IsText.exists_quote {s : String} (h : IsText s t) : ∃ c cs, t = c :: cs ∧ (c = '"' ∨ c = '\'') := by
  cases h with
  | line h =>
    cases h with
    | basic => exact ⟨_, _, rfl, .inl rfl⟩
    | literal => exact ⟨_, _, rfl, .inr rfl⟩
  | basicLines h =>
    cases h
    exact ⟨_, _, rfl, .inl rfl⟩
  | literalLines h =>
    cases h
    exact ⟨_, _, rfl, .inr rfl⟩

theorem value_text {s : String} (h : IsText s t) (hrest : ∀ c ∈ rest.head?, c ≠ '"' ∧ c ≠ '\'') :
    value depth (t ++ rest) = .ok (.text (t ++ rest) s, rest) := by
  have hread := anyString_append h hrest
  obtain ⟨c, cs, rfl, hc⟩ := h.exists_quote
  rw [value]
  refine (bind_ok rfl _).trans ((bind_ok rfl _).trans ?_)
  simp only [List.cons_append, List.head?_cons, hc, if_true]
  exact map_ok _ hread

/-- No value starts with the end of an array. -/
theorem value_declines (cs : List Char) : Declines (value depth) (']' :: cs) := by
  have hfail : Declines (likeString fail : Parser Item) (']' :: cs) :=
    wanting_declines _ (labelled_declines _ (declines_of_error (f := .before (']' :: cs)) rfl rfl))
  rw [value]
  refine bind_declines_of_ok rfl (bind_declines_of_ok rfl ?_)
  simpa using hfail

/-- An element of an array, with what stands around it. -/
def element (depth : Nat) : Parser Item := filler *> value depth <* filler

/-- The item is a text. -/
def HoldsText (s : String) (x : Item) : Prop := ∃ place, x = .text place s

theorem element_append (depth : Nat) {core : List Char} {s : String} (ht : IsFiller w) (h : IsText s t)
    (hrest : ∀ c ∈ rest.head?, c ≠ '"' ∧ c ≠ '\'') (hfiller : filler rest = .ok ((), core)) :
    element depth (w ++ (t ++ rest)) = .ok (.text (t ++ rest) s, core) := by
  have hunfilled : Unfilled (t ++ rest) := by
    obtain ⟨c, cs, rfl, hc⟩ := h.exists_quote
    refine unfilled_cons ?_ _
    rcases hc with rfl | rfl <;> decide
  exact seqLeft_ok ((seqRight_ok (filler_append ht hunfilled) _).trans (value_text h hrest)) hfiller

theorem element_declines (ht : IsFiller t) (rest : List Char) : Declines (element depth) (t ++ ']' :: rest) :=
  seqLeft_declines
    (seqRight_declines_of_ok (filler_append ht (unfilled_cons (by decide) _)) (value_declines rest)) _

section
variable {ss : List String} {items : List (List Char)} {u : List Char}

/-- No quote stands behind an element. -/
theorem Follows.head_ne (h : Follows items u) (rest : List Char) :
    ∀ c ∈ (u ++ ']' :: rest).head?, c ≠ '"' ∧ c ≠ '\'' := by
  intro c hc
  have hhead : ¬NoFiller c ∨ c = ',' ∨ c = ']' := by
    cases h with
    | done h => exact (h.append_head rest c hc).imp_right .inr
    | comma h | item h =>
      rw [List.append_assoc] at hc
      exact (h.append_head _ c hc).imp_right .inl
  constructor <;>
  · rintro rfl
    revert hhead
    decide

/-- Behind an element the others are read, up to the end of the array. -/
theorem Follows.read (depth : Nat) (h : Follows items u) (hitems : List.Forall₂ IsText ss items) (rest : List Char) :
    ∃ core core' core'' xs, filler (u ++ ']' :: rest) = .ok ((), core) ∧ core.length ≤ (u ++ ']' :: rest).length ∧
      Runs (char ',' *> element depth) core xs core' ∧ discard (optional (char ',')) core' = .ok ((), core'') ∧
      filler core'' = .ok ((), ']' :: rest) ∧ List.Forall₂ HoldsText ss xs := by
  have hend : Unfilled (']' :: rest) := unfilled_cons (by decide) rest
  have hcomma (cs : List Char) : Unfilled (',' :: cs) := unfilled_cons (by decide) cs
  -- the filler behind an element is read with it, so what goes on starts with a comma or a bracket
  induction h generalizing ss with
  | done h =>
    cases hitems
    have hstop : Declines (char ',') (']' :: rest) := char_declines (by simp)
    exact ⟨_, _, _, [], filler_append h hend, by simp, .done (seqRight_declines hstop _),
      discard_ok (optional_none hstop), filler_blank blank_nil hend, .nil⟩
  | @comma t t' h h' =>
    cases hitems
    refine ⟨',' :: (t' ++ ']' :: rest), _, _, [], ?_, by simp, .done ?_, ?_, filler_append h' hend, .nil⟩
    · rw [List.append_assoc]
      exact filler_append h (hcomma _)
    · exact seqRight_declines_of_ok (char_ok _ _) (element_declines h' rest)
    · exact discard_ok (optional_some (char_ok _ _))
  | @item t t' i u items h h' hfollows ih =>
    obtain _ | ⟨hi, hitems⟩ := hitems
    obtain ⟨core, core', core'', xs, hfiller, hlength, hruns, hmark, hclose, hxs⟩ := ih hitems
    have hread := element_append depth h' hi (hfollows.head_ne rest) hfiller
    refine ⟨',' :: (t' ++ (i ++ (u ++ ']' :: rest))), core', core'', _, ?_, by simp, .step
      ((seqRight_ok (char_ok _ _) _).trans hread) ?_ hruns, hmark, hclose, .cons ⟨_, rfl⟩ hxs⟩
    · simp only [List.append_assoc, List.cons_append]
      exact filler_append h (hcomma _)
    · simp only [List.length_cons, List.length_append] at hlength ⊢
      omega

/-- The elements of an array with commas between them, and maybe one comma more. -/
def elementList (depth : Nat) : Parser (List Item) := do
  let items ← separated (element depth) (char ',')
  discard (optional (char ','))
  return items

theorem elements_of {items? : Option (List Item)} {core : List Char} (hhead : cs.head? ≠ some ']')
    (h : optional (elementList depth) cs = .ok (items?, core)) (hfiller : filler core = .ok ((), rest)) :
    elements (value depth) cs = .ok (items?.getD [], rest) := by
  rw [elements]
  refine (bind_ok rfl _).trans ?_
  rw [if_neg hhead]
  exact (bind_ok h _).trans (bind_ok hfiller _)

theorem elements_empty (h : IsFiller t) (rest : List Char) :
    elements (value depth) (t ++ ']' :: rest) = .ok ([], ']' :: rest) := by
  cases t with
  | nil => rfl
  | cons c t =>
    have hlist : Declines (elementList depth) (c :: t ++ ']' :: rest) :=
      bind_declines (bind_declines (element_declines h rest) _) _
    have hhead : (c :: t ++ ']' :: rest).head? ≠ some ']' := fun heq => h.head ']' heq (by decide)
    exact elements_of hhead (optional_none hlist) (filler_append h (unfilled_cons (by decide) rest))

/-- An array of strings is read as texts. -/
theorem array_append (depth : Nat) (h : IsTexts ss t) (rest : List Char) :
    ∃ xs, array (value depth) (t ++ rest) = .ok (xs, rest) ∧ List.Forall₂ HoldsText ss xs := by
  obtain ⟨items, h, hitems⟩ := h
  have hclose : ∀ body xs, elements (value depth) (body ++ ']' :: rest) = .ok (xs, ']' :: rest) →
      array (value depth) ('[' :: (body ++ ']' :: rest)) = .ok (xs, rest) := by
    intro body xs hbody
    rw [array, bind_ok (char_ok _ _), bind_ok (committed_ok hbody),
      bind_ok (wanting_ok _ (labelled_ok _ (committed_ok (char_ok _ _))))]
    rfl
  cases h with
  | @empty t h =>
    cases hitems
    have happend : '[' :: (t ++ [']']) ++ rest = '[' :: (t ++ ']' :: rest) := by simp
    rw [happend]
    exact ⟨[], hclose t [] (elements_empty h rest), .nil⟩
  | @items t i u items h hfollows =>
    obtain _ | ⟨hi, hitems⟩ := hitems
    obtain ⟨core, core', core'', xs, hfiller, -, hruns, hmark, hend, hxs⟩ := hfollows.read depth hitems rest
    have hread := element_append depth h hi (hfollows.head_ne rest) hfiller
    have hlist : elementList depth (t ++ (i ++ (u ++ ']' :: rest))) = .ok (_ :: xs, core'') :=
      (bind_ok (separated_ok hread hruns) _).trans (bind_ok hmark _)
    have hhead : (t ++ (i ++ (u ++ ']' :: rest))).head? ≠ some ']' := by
      obtain ⟨c, cs, rfl, hc⟩ := hi.exists_quote
      intro heq
      rcases h.append_head _ _ heq with hno | rfl
      · exact hno (by decide)
      · revert hc
        decide
    have happend : '[' :: (t ++ (i ++ (u ++ [']']))) ++ rest = '[' :: (t ++ (i ++ u) ++ ']' :: rest) := by simp
    have helements := elements_of hhead (optional_some hlist) hend
    rw [← List.append_assoc i, ← List.append_assoc t] at helements
    rw [happend]
    exact ⟨_, hclose _ _ helements, .cons ⟨_, rfl⟩ hxs⟩

/-- The item is an array of these texts. -/
def HoldsTexts (ss : List String) (x : Item) : Prop := ∃ place xs, x = .array place xs ∧ List.Forall₂ HoldsText ss xs

theorem value_array (depth : Nat) (h : IsTexts ss t) (rest : List Char) :
    ∃ x, value (depth + 1) (t ++ rest) = .ok (x, rest) ∧ HoldsTexts ss x := by
  obtain ⟨xs, hread, hxs⟩ := array_append depth h rest
  obtain ⟨cs, rfl⟩ : ∃ cs, t = '[' :: cs := by
    obtain ⟨items, h, -⟩ := h
    cases h <;> exact ⟨_, rfl⟩
  refine ⟨_, ?_, '[' :: cs ++ rest, xs, rfl, hxs⟩
  rw [value]
  refine (bind_ok rfl _).trans ((bind_ok rfl _).trans ?_)
  simpa using map_ok (Item.array ('[' :: cs ++ rest)) hread

end

/-! ## Keys -/

section
variable {s : String} {k : List Char}

theorem simpleKey_append (h : IsKey s k) (hrest : ∀ c ∈ rest.head?, isBareChar c = false) :
    simpleKey (k ++ rest) = .ok (⟨s, k ++ rest⟩, rest) := by
  rw [simpleKey]
  refine (bind_ok rfl _).trans ((bind_ok rfl _).trans ?_)
  cases h with
  | quoted h =>
    cases h with
    | @basic t h =>
      have happend : '"' :: (t ++ ['"']) ++ rest = '"' :: (t ++ '"' :: rest) := by simp
      rw [happend]
      exact bind_ok (basicString_append h rest) _
    | literal h =>
      have happend : '\'' :: (s.toList ++ ['\'']) ++ rest = '\'' :: (s.toList ++ '\'' :: rest) := by simp
      rw [happend]
      exact bind_ok (literalString_append h rest) _
  | bare hne h =>
    have hname : (String.ofList <$> takeWhile1 isBareChar) (s.toList ++ rest) = .ok (s, rest) := by
      rw [map_ok String.ofList (takeWhile1_append hne h hrest), String.ofList_toList]
    have hread : ∀ p : Parser Key,
        p = ((String.ofList <$> takeWhile1 isBareChar) >>= fun name => pure ⟨name, s.toList ++ rest⟩) →
        p (s.toList ++ rest) = .ok (⟨s, s.toList ++ rest⟩, rest) := by
      rintro p rfl
      exact bind_ok hname _
    refine hread _ ?_
    rw [List.head?_append_of_ne_nil _ hne]
    split
    · next heq => cases h _ (List.mem_of_head? heq)
    · next heq => cases h _ (List.mem_of_head? heq)
    · rfl

theorem isBareChar_of_isBlank (h : isBlank c = true) : isBareChar c = false := by
  rw [isBlank, Bool.or_eq_true, decide_eq_true_eq, decide_eq_true_eq] at h
  rcases h with rfl | rfl <;> decide

theorem IsKey.exists_head (h : IsKey s k) : ∃ c cs, k = c :: cs ∧ (c = '"' ∨ c = '\'' ∨ isBareChar c = true) := by
  cases h with
  | bare hne h =>
    obtain ⟨c, cs, hs⟩ := List.exists_cons_of_ne_nil hne
    exact ⟨c, cs, hs, .inr (.inr (h c (by simp [hs])))⟩
  | quoted h =>
    cases h with
    | basic => exact ⟨_, _, rfl, .inl rfl⟩
    | literal => exact ⟨_, _, rfl, .inr (.inl rfl)⟩

/-- A key starts like no other line. -/
theorem IsKey.starts (h : IsKey s k) (cs : List Char) :
    ∃ c u, k ++ cs = c :: u ∧ c ≠ '#' ∧ c ≠ '[' ∧ c ≠ '\n' ∧ c ≠ '\r' ∧ isBlank c = false := by
  obtain ⟨c, u, rfl, hc⟩ := h.exists_head
  refine ⟨c, u ++ cs, rfl, ?_⟩
  rcases hc with rfl | rfl | hc
  · decide
  · decide
  · have hblank : isBlank c = false := Bool.eq_false_iff.2 fun h => by cases (isBareChar_of_isBlank h).symm.trans hc
    refine ⟨?_, ?_, ?_, ?_, hblank⟩ <;> (rintro rfl; cases hc)

theorem IsKey.not_blank (h : IsKey s k) (cs : List Char) : ∀ c ∈ (k ++ cs).head?, isBlank c = false := by
  obtain ⟨c, u, hu, -, -, -, -, hblank⟩ := h.starts cs
  rw [hu]
  exact stop_cons hblank u

/-- A key is read with the blanks behind it. -/
theorem key_append (h : IsKey s k) (hw : Blank w) (rest : List Char) :
    ∃ place, key (k ++ (w ++ '=' :: rest)) = .ok (([], ⟨s, place⟩), '=' :: rest) := by
  have hbare : ∀ c ∈ (w ++ '=' :: rest).head?, isBareChar c = false := by
    cases w with
    | nil => exact stop_cons (by decide) _
    | cons b w => exact stop_cons (isBareChar_of_isBlank (hw b (.head _))) _
  have hfront : blanks (k ++ (w ++ '=' :: rest)) = .ok ((), k ++ (w ++ '=' :: rest)) :=
    blanks_append blank_nil (h.not_blank _)
  have hback : blanks (w ++ '=' :: rest) = .ok ((), '=' :: rest) := blanks_append hw (stop_cons (by decide) _)
  have hpart := seqLeft_ok ((seqRight_ok hfront _).trans (simpleKey_append h hbare)) hback
  have hstop : Declines (char '.' *> (blanks *> simpleKey <* blanks)) ('=' :: rest) :=
    seqRight_declines (char_declines (by simp)) _
  exact ⟨_, checked_ok (labelled_ok _ (separated_ok hpart (.done hstop))) rfl⟩

end

/-! ## Lines -/

/-- The characters `cs` are the end of a line and `rest`, or the end of the text. -/
def EndsLine (cs rest : List Char) : Prop := (∃ n, IsNewline n ∧ cs = n ++ rest) ∨ cs = [] ∧ rest = []

theorem EndsLine.not {P : Char → Bool} (h : EndsLine cs rest) (hfeed : P '\n' = false) (hreturn : P '\r' = false) :
    ∀ c ∈ cs.head?, P c = false := by
  rcases h with ⟨n, hn, rfl⟩ | ⟨rfl, -⟩
  · exact newline_not hn rest hfeed hreturn
  · rintro c ⟨⟩

theorem lineEnd_append (h : EndsLine cs rest) : lineEnd cs = .ok ((), rest) := by
  rcases h with ⟨n, hn, rfl⟩ | ⟨rfl, rfl⟩
  · exact orElse_left (newline_append hn rest) _
  · rfl

theorem IsRemark.not_blank (hr : IsRemark r) (h : EndsLine cs rest) : ∀ c ∈ (r ++ cs).head?, isBlank c = false := by
  cases hr with
  | absent => exact h.not (by decide) (by decide)
  | comment => exact stop_cons (by decide) _

theorem lineRest_append (hw : Blank w) (hr : IsRemark r) (h : EndsLine cs rest) :
    lineRest (w ++ (r ++ cs)) = .ok ((), rest) := by
  have hcomment : discard (optional comment) (r ++ cs) = .ok ((), cs) := by
    cases hr with
    | absent =>
      have hmark : Declines (char '#') cs := char_declines fun heq => by
        cases h.not (P := (· = '#')) (by decide) (by decide) _ heq
      exact discard_ok (optional_none (seqRight_declines hmark _))
    | comment ht => exact discard_ok (optional_some (comment_append ht (h.not (by decide) (by decide))))
  rw [lineRest, bind_ok (blanks_append hw (hr.not_blank h)), bind_ok hcomment]
  exact lineEnd_append h

/-! ## Entries -/

/-- The item of a key is an array of these texts. -/
def HoldsEntry (e : String × List String) (x : Key × Item) : Prop := x.1.name = e.1 ∧ HoldsTexts e.2 x.2

/-- The names of entries. -/
def Entries.names (entries : Entries) : List String := entries.map (·.1.name)

theorem Entries.find?_eq_none {name : String} {entries : Entries} (h : name ∉ entries.names) :
    entries.find? name = none := by
  induction entries with
  | nil => rfl
  | cons x entries ih =>
    obtain ⟨hx, hentries⟩ := not_or.1 (mt List.mem_cons.2 h)
    rw [Entries.find?, if_neg (Ne.symm hx)]
    exact ih hentries

section
variable {b : Builder}

/-- A key that is new goes behind the entries of the open table. -/
theorem assign_new {key : Key} (h : key.name ∉ b.entries.names) (item : Item) :
    b.assign [] key item = .ok { b with entries := b.entries ++ [(key, item)] } := by
  simp [Builder.assign, Entries.assign, Entries.within, Entries.find?_eq_none h, TableKind.isDotted, bind,
    Except.bind, Functor.map, Except.map, pure, Except.pure]

variable {e : String × List String} {k w' v w'' : List Char}

theorem keyValue_append (hk : IsKey e.1 k) (hw : Blank w) (hw' : Blank w') (hv : IsTexts e.2 v) (hw'' : Blank w'')
    (hr : IsRemark r) (hend : EndsLine cs rest) (hnew : e.1 ∉ b.entries.names) :
    ∃ x, keyValue b (k ++ (w ++ '=' :: (w' ++ (v ++ (w'' ++ (r ++ cs)))))) =
      .ok ({ b with entries := b.entries ++ [x] }, rest) ∧ HoldsEntry e x := by
  obtain ⟨place, hkey⟩ := key_append hk hw (w' ++ (v ++ (w'' ++ (r ++ cs))))
  obtain ⟨item, hvalue, hitem⟩ := value_array 78 hv (w'' ++ (r ++ cs))
  have hblanks : blanks (w' ++ (v ++ (w'' ++ (r ++ cs)))) = .ok ((), v ++ (w'' ++ (r ++ cs))) := by
    refine blanks_append hw' ?_
    obtain ⟨items, h, -⟩ := hv
    cases h <;> exact stop_cons (by decide) _
  refine ⟨(⟨e.1, place⟩, item),
    checked_ok (a := ([], ⟨e.1, place⟩, item)) ((bind_ok hkey _).trans (committed_ok ?_)) ?_, rfl, hitem⟩
  · refine (bind_ok (wanting_ok _ (char_ok _ _)) _).trans ?_
    refine (bind_ok hblanks _).trans ((bind_ok hvalue _).trans ?_)
    exact bind_ok (wanting_ok _ (lineRest_append hw'' hr hend)) _
  · exact congrArg (Except.mapError some) (assign_new hnew item)

theorem expression_key (hk : IsKey e.1 k) {b' : Builder} (h : keyValue b (k ++ cs) = .ok (b', rest)) :
    expression b (k ++ cs) = .ok (b', rest.dropWhile isBlank) := by
  obtain ⟨c, u, hu, hmark, hbracket, hfeed, hreturn, -⟩ := hk.starts cs
  rw [expression]
  refine (bind_ok rfl _).trans ?_
  rw [hu] at h ⊢
  simp only [List.head?_cons, hmark, hbracket, hfeed, hreturn, or_self, if_false]
  exact bind_ok (committed_ok h) _

theorem expression_newline (hn : IsNewline n) (rest : List Char) :
    expression b (n ++ rest) = .ok (b, rest.dropWhile isBlank) := by
  have hline := newline_append hn rest
  rw [expression]
  refine (bind_ok rfl _).trans ?_
  cases hn <;> exact bind_ok (bind_ok hline _) _

theorem expression_comment (ht : ∀ c ∈ t, isCommentChar c = true) (hend : EndsLine cs rest) :
    expression b ('#' :: (t ++ cs)) = .ok (b, rest.dropWhile isBlank) := by
  have hcomment := comment_append ht (hend.not (by decide) (by decide))
  rw [expression]
  refine (bind_ok rfl _).trans ?_
  exact bind_ok (committed_ok ((bind_ok hcomment _).trans (bind_ok (lineEnd_append hend) _))) _

theorem expression_declines : Declines (expression b) [] :=
  bind_declines_of_ok rfl (bind_declines (declines_of_error (f := .before []) rfl rfl) _)

theorem EndsLine.length_dropWhile_le (h : EndsLine cs rest) : (rest.dropWhile isBlank).length ≤ cs.length := by
  refine Nat.le_trans (List.dropWhile_suffix isBlank).length_le ?_
  rcases h with ⟨n, -, rfl⟩ | ⟨rfl, rfl⟩ <;> simp

/-! ## Lines, one after the other -/

variable {es : List (String × List String)}

/-- A line adds its entry, if it has one, to the open table. -/
theorem read_line (h : IsLine es t) (hend : EndsLine cs rest) (hnew : ∀ e ∈ es, e.1 ∉ b.entries.names) :
    ∃ xs, List.Forall₂ HoldsEntry es xs ∧ repeated expression b ((t ++ cs).dropWhile isBlank) =
      repeated expression { b with entries := b.entries ++ xs } (rest.dropWhile isBlank) := by
  cases h with
  | remark hw hr =>
    refine ⟨[], .nil, ?_⟩
    rw [List.append_nil, List.append_assoc, dropWhile_run hw (hr.not_blank hend)]
    cases hr with
    | comment ht =>
      have hlength := hend.length_dropWhile_le
      refine repeated_step (expression_comment ht hend) ?_
      simp only [List.cons_append, List.length_cons, List.length_append]
      omega
    | absent =>
      -- an empty line at the end of the text is no expression
      rcases hend with ⟨n, hn, rfl⟩ | ⟨rfl, rfl⟩
      · have hpos := hn.length_pos
        have hlength := (List.dropWhile_suffix isBlank (l := rest)).length_le
        refine repeated_step (expression_newline hn rest) ?_
        simp only [List.nil_append, List.length_append]
        omega
      · rfl
  | @entry e w k w₁ w₂ v w₃ r hw hk hw₁ hw₂ hv hw₃ hr =>
    obtain ⟨x, hread, hx⟩ := keyValue_append hk hw₁ hw₂ hv hw₃ hr hend (hnew e (.head _))
    refine ⟨[x], .cons hx .nil, ?_⟩
    have happend : w ++ (k ++ (w₁ ++ '=' :: (w₂ ++ (v ++ (w₃ ++ r))))) ++ cs =
        w ++ (k ++ (w₁ ++ '=' :: (w₂ ++ (v ++ (w₃ ++ (r ++ cs)))))) := by simp
    have hlength := hend.length_dropWhile_le
    rw [happend, dropWhile_run hw (hk.not_blank _)]
    refine repeated_step (expression_key hk hread) ?_
    simp only [List.length_append, List.length_cons]
    omega

theorem names_eq {xs : Entries} (h : List.Forall₂ HoldsEntry es xs) : Entries.names xs = es.map (·.1) := by
  induction h with
  | nil => rfl
  | cons hx _ ih => exact congrArg₂ List.cons hx.1 ih

theorem notMem_names (h : (b.entries.names ++ es.map (·.1)).Nodup) : ∀ e ∈ es, e.1 ∉ b.entries.names :=
  fun _ he hin => (List.nodup_append.1 h).2.2 _ hin _ (List.mem_map_of_mem he) rfl

/-- Lines add their entries in their order. -/
theorem read_lines (h : AreLines es t) (hnodup : (b.entries.names ++ es.map (·.1)).Nodup) :
    ∃ xs, List.Forall₂ HoldsEntry es xs ∧
      repeated expression b (t.dropWhile isBlank) = .ok ({ b with entries := b.entries ++ xs }, []) := by
  induction h generalizing b with
  | @last es t h =>
    have hend : EndsLine [] [] := .inr ⟨rfl, rfl⟩
    obtain ⟨xs, hxs, hread⟩ := read_line h hend (notMem_names hnodup)
    rw [List.append_nil] at hread
    exact ⟨xs, hxs, hread.trans (repeated_done expression_declines)⟩
  | @line es es' t n t' h hn _ ih =>
    rw [List.map_append, ← List.append_assoc] at hnodup
    obtain ⟨xs, hxs, hread⟩ := read_line h (.inl ⟨n, hn, rfl⟩) (notMem_names (List.nodup_append.1 hnodup).1)
    obtain ⟨ys, hys, hreads⟩ := ih (b := { b with entries := b.entries ++ xs })
      (by rwa [Entries.names, List.map_append, ← Entries.names, ← Entries.names, names_eq hxs])
    rw [List.append_assoc] at hreads
    exact ⟨xs ++ ys, List.rel_append hxs hys, hread.trans hreads⟩

end

/-! ## Documents -/

section
variable {es : List (String × List String)}

/-- No line starts like the mark of an encoding. -/
theorem IsLine.head_ne (h : IsLine es t) (hcs : cs.head? ≠ some '\ufeff') : (t ++ cs).head? ≠ some '\ufeff' := by
  have hblank {w u : List Char} (hw : Blank w) (hu : u.head? ≠ some '\ufeff') : (w ++ u).head? ≠ some '\ufeff' := by
    cases w with
    | nil => exact hu
    | cons c w => rintro ⟨⟩; cases hw _ (.head _)
  cases h with
  | remark hw hr =>
    rw [List.append_assoc]
    refine hblank hw ?_
    cases hr with
    | absent => exact hcs
    | comment => simp
  | @entry e w k _ _ _ _ _ hw hk =>
    rw [List.append_assoc, List.append_assoc]
    refine hblank hw ?_
    obtain ⟨c, u, rfl, hc⟩ := hk.exists_head
    rintro ⟨⟩
    revert hc
    decide

theorem AreLines.head_ne (h : AreLines es t) : t.head? ≠ some '\ufeff' := by
  cases h with
  | last h =>
    have hhead := h.head_ne (show [].head? ≠ some '\ufeff' by simp)
    rwa [List.append_nil] at hhead
  | line h hn => exact h.head_ne (newline_head_ne hn _ _ (by decide) (by decide))

theorem document_append (h : IsDocument es t) (hnodup : (es.map (·.1)).Nodup) :
    ∃ xs, List.Forall₂ HoldsEntry es xs ∧ document t = .ok (xs, []) := by
  have hlines {t : List Char} (h : AreLines es t) := read_lines (b := .start) h hnodup
  have hmark {t : List Char} {cs : List Char} (h : discard (optional (char '\ufeff')) cs = .ok ((), t))
      (ht : AreLines es t) : ∃ xs, List.Forall₂ HoldsEntry es xs ∧ document cs = .ok (xs, []) := by
    obtain ⟨xs, hxs, hread⟩ := hlines ht
    refine ⟨xs, hxs, ?_⟩
    have hblanks : blanks t = .ok ((), t.dropWhile isBlank) := rfl
    rw [document, bind_ok h, bind_ok hblanks, bind_ok hread]
    rfl
  rcases h with h | ⟨t, rfl, h⟩
  · exact hmark (discard_ok (optional_none (char_declines h.head_ne))) h
  · exact hmark (discard_ok (optional_some (char_ok _ _))) h

end

/-! ## Tables -/

theorem mapM_eq_ok {α β ε : Type} {f : α → Except ε β} {xs : List α} {ys : List β}
    (h : List.Forall₂ (fun y x => f x = .ok y) ys xs) : xs.mapM f = .ok ys := by
  induction h with
  | nil => rfl
  | cons hx _ ih =>
    rw [List.mapM_cons, hx]
    simp [ih, bind, Except.bind, pure, Except.pure]

theorem decode_texts {ss : List String} {x : Item} (h : HoldsTexts ss x) : decode (.list .text) x = .ok ss := by
  obtain ⟨place, xs, rfl, hxs⟩ := h
  have htexts : xs.mapM (fun x => decode .text x) = .ok ss := by
    refine mapM_eq_ok (hxs.imp fun s x hx => ?_)
    obtain ⟨place, rfl⟩ := hx
    rw [decode]
  rw [decode]
  exact congrArg (Item.placing _) htexts

theorem decode_entries {es : List (String × List String)} {xs : Entries} (h : List.Forall₂ HoldsEntry es xs)
    (place : Option Place) : decode (.table (.list .text)) (.table .header place xs) = .ok es := by
  rw [decode]
  refine congrArg (Item.placing _) (mapM_eq_ok (h.imp fun e x hx => ?_))
  obtain ⟨key, item⟩ := x
  obtain ⟨hname, htexts⟩ := hx
  simp only [decode_texts htexts, Item.placingAt, Except.mapError, bind, Except.bind, pure, Except.pure]
  exact congrArg (fun name => Except.ok (name, e.2)) hname

/-- A document of keys that are apart is read as its entries. -/
theorem read_document {es : List (String × List String)} {text : String} (h : IsDocument es text.toList)
    (hnodup : (es.map (·.1)).Nodup) : read (.table (.list .text)) text = .ok es := by
  obtain ⟨xs, hxs, hread⟩ := document_append h hnodup
  simp only [read, parse, hread, decode_entries hxs]

end ForgeBridge.Toml
