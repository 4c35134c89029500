import ForgeBridge.Proofs.TomlParsers
import ForgeBridge.Proofs.TomlTexts

/-!
# Reading TOML strings

Strings in any of their four forms are read as what they hold (`anyString_append`). In a string of several lines the
quotes decide how it goes on: one or two of them belong to it, if a stretch without quotes follows or its end does.
-/

namespace ForgeBridge.Toml

open Toml.Parser

variable {c q : Char} {cs w n e s t more rest : List Char}

/-! ## Blanks and ends of lines -/

theorem inked_cons (h : isBlank c = false ∧ c ≠ '\n' ∧ c ≠ '\r') (t : List Char) : Inked (c :: t) := by
  rintro d ⟨⟩
  exact h

theorem Inked.append (ht : Inked t) (hrest : Inked rest) : Inked (t ++ rest) := by
  cases t with
  | nil => exact hrest
  | cons d t => exact inked_cons (ht d rfl) _

theorem blanks_append (hw : Blank w) (hrest : ∀ c ∈ rest.head?, isBlank c = false) :
    blanks (w ++ rest) = .ok ((), rest) := discard_ok (takeWhile_ok hw hrest)

theorem IsNewline.length_pos (h : IsNewline n) : 0 < n.length := by
  cases h <;> decide

theorem IsNewline.head_eq (h : IsNewline n) (rest : List Char) :
    (n ++ rest).head? = some '\n' ∨ (n ++ rest).head? = some '\r' := by
  cases h
  · exact .inl rfl
  · exact .inr rfl

section
variable (hn : IsNewline n) (rest : List Char)
include hn

/-- The end of a line is no character of a class without controls. -/
theorem newline_not {P : Char → Bool} (hfeed : P '\n' = false) (hreturn : P '\r' = false) :
    ∀ c ∈ (n ++ rest).head?, P c = false := by
  intro c hc
  rcases hn.head_eq rest with h | h <;> cases h.symm.trans hc
  · exact hfeed
  · exact hreturn

theorem newline_head_ne (c : Char) (hfeed : c ≠ '\n') (hreturn : c ≠ '\r') : (n ++ rest).head? ≠ some c := by
  intro hc
  rcases hn.head_eq rest with h | h <;> cases h.symm.trans hc
  · exact hfeed rfl
  · exact hreturn rfl

end

theorem newline_append (h : IsNewline n) (rest : List Char) : newline (n ++ rest) = .ok ((), rest) := by
  cases h with
  | lineFeed => exact orElse_left (char_ok _ _) _
  | both =>
    rw [newline, orElse_right (char_declines (by simp))]
    exact (seqRight_ok (char_ok _ _) _).trans (char_ok _ _)

theorem newline_declines (h : ∀ c ∈ cs.head?, c ≠ '\n' ∧ c ≠ '\r') : Declines newline cs := by
  refine orElse_declines (char_declines fun hc => ?_) (seqRight_declines (char_declines fun hc => ?_) _)
  · exact (h _ hc).1 rfl
  · exact (h _ hc).2 rfl

theorem newline_declines_cons (h : c ≠ '\n' ∧ c ≠ '\r') (cs : List Char) : Declines newline (c :: cs) :=
  newline_declines (by rintro d ⟨⟩; exact h)

/-! ## Escapes -/

theorem charCode_append {digits : Nat} {ds : List Char} (hlength : ds.length = digits)
    (hdigits : ∀ d ∈ ds, isHexDigit d = true) (h : numeral 16 ds = c.toNat) (rest : List Char) :
    charCode digits (ds ++ rest) = .ok (c, rest) := by
  subst hlength
  refine checked_ok (takeExactly_ok hdigits rest) ?_
  rw [h, if_pos (show c.toNat.isValidChar from c.valid), Char.ofNat_toNat]

theorem escapeRest_append (h : IsEscape c e) (rest : List Char) : escapeRest (e ++ rest) = .ok (c, rest) := by
  cases h with
  | letter h => simp [escapeRest, h]
  | short hlength hdigits h => exact labelled_ok _ (committed_ok (charCode_append hlength hdigits h rest))
  | long hlength hdigits h => exact labelled_ok _ (committed_ok (charCode_append hlength hdigits h rest))

theorem escape_append (h : IsEscape c e) (rest : List Char) : escape ('\\' :: (e ++ rest)) = .ok (c, rest) :=
  (seqRight_ok (char_ok _ _) _).trans (escapeRest_append h rest)

/-- No escape is taken for a backslash at the end of a line. -/
theorem IsEscape.inked (h : IsEscape c e) (rest : List Char) : Inked (e ++ rest) := by
  cases h with
  | short | long => exact inked_cons (by decide) _
  | @letter e h =>
    refine inked_cons ⟨Bool.eq_false_iff.2 fun hblank => ?_, ?_, ?_⟩ _
    · rw [isBlank, Bool.or_eq_true, decide_eq_true_eq, decide_eq_true_eq] at hblank
      rcases hblank with rfl | rfl <;> cases h
    · rintro rfl
      cases h
    · rintro rfl
      cases h

/-! ## Strings of one line -/

theorem basicPiece_plain (c : Char) (cs : List Char) (hc : isBasicChar c = true) :
    basicPiece (c :: cs) = .ok (c :: cs.takeWhile isBasicChar, cs.dropWhile isBasicChar) :=
  orElse_left (takeWhile1_ok hc cs) _

theorem backslash_declines (cs : List Char) : Declines (takeWhile1 isBasicChar) ('\\' :: cs) :=
  takeWhile1_declines (stop_cons (by decide) _)

theorem basicPiece_escape (h : IsEscape c e) (rest : List Char) :
    basicPiece ('\\' :: (e ++ rest)) = .ok ([c], rest) := by
  rw [basicPiece, orElse_right (backslash_declines _)]
  exact map_ok _ (escape_append h rest)

theorem basicPiece_quote (rest : List Char) : Declines basicPiece ('"' :: rest) :=
  orElse_declines (takeWhile1_declines (stop_cons (by decide) _))
    (map_declines _ (seqRight_declines (char_declines (by simp)) _))

/-- What is spelled is read, up to the closing quote. -/
theorem Spells.spelling (h : Spells s t) (rest : List Char) :
    Spelling basicPiece (t ++ '"' :: rest) s ('"' :: rest) := by
  induction h with
  | nil => exact .done (basicPiece_quote rest)
  | plain hc _ ih => exact ih.cons basicPiece_plain hc
  | @escape c e s t he _ ih =>
    rw [List.cons_append, List.append_assoc]
    exact ih.step (basicPiece_escape he _) (by simp only [List.length_cons, List.length_append]; omega)

theorem basicString_append {x : String} (h : Spells x.toList t) (rest : List Char) :
    basicString ('"' :: (t ++ '"' :: rest)) = .ok (x, rest) := by
  obtain ⟨ps, hruns, hps⟩ := h.spelling rest
  rw [basicString, bind_ok (char_ok _ _), bind_ok (many_of_runs hruns),
    bind_ok (labelled_ok _ (committed_ok (char_ok _ _))), hps, String.ofList_toList]
  rfl

theorem literalString_append {x : String} (h : ∀ c ∈ x.toList, isLiteralChar c = true) (rest : List Char) :
    literalString ('\'' :: (x.toList ++ '\'' :: rest)) = .ok (x, rest) := by
  have htext : Parser.takeWhile isLiteralChar (x.toList ++ '\'' :: rest) = .ok (x.toList, '\'' :: rest) :=
    takeWhile_ok h (stop_cons (by decide) _)
  refine labelled_ok _ ?_
  rw [bind_ok (char_ok _ _), bind_ok htext, bind_ok (committed_ok (char_ok _ _)), String.ofList_toList]
  rfl

/-! ## Stretches of a string of several lines -/

/-- The pieces of a string of several lines stop at a quote, and make up stretches of a kind. These start with no
quote. -/
structure ReadsStretches (q : Char) (Stretch : List Char → List Char → Prop) (piece : Parser (List Char)) :
    Prop where
  quote (rest : List Char) : Declines piece (q :: rest)
  head_ne {s t : List Char} (h : Stretch s t) : t.head? ≠ some q
  spelling {s t : List Char} (h : Stretch s t) (rest : List Char) : Spelling piece (t ++ q :: rest) s (q :: rest)

theorem multilineBasicPiece_plain (c : Char) (cs : List Char) (hc : isBasicChar c = true) :
    multilineBasicPiece (c :: cs) = .ok (c :: cs.takeWhile isBasicChar, cs.dropWhile isBasicChar) :=
  orElse_left (takeWhile1_ok hc cs) _

theorem multilineBasicPiece_escape (h : IsEscape c e) (rest : List Char) :
    multilineBasicPiece ('\\' :: (e ++ rest)) = .ok ([c], rest) := by
  have hink := h.inked rest
  have hblanks : blanks (e ++ rest) = .ok ((), e ++ rest) :=
    blanks_append blank_nil fun c hc => (hink c hc).1
  have hjoin : Declines lineJoin ('\\' :: (e ++ rest)) :=
    bind_declines_of_ok (char_ok _ _) <| bind_declines_of_ok hblanks <|
      bind_declines (newline_declines fun c hc => (hink c hc).2) _
  rw [multilineBasicPiece, orElse_right (backslash_declines _), orElse_right (map_declines _ hjoin)]
  exact orElse_left (map_ok _ (escape_append h rest)) _

theorem multilineBasicPiece_newline (h : IsNewline n) (rest : List Char) :
    multilineBasicPiece (n ++ rest) = .ok (['\n'], rest) := by
  have hplain : Declines (takeWhile1 isBasicChar) (n ++ rest) :=
    takeWhile1_declines (newline_not h rest (by decide) (by decide))
  have hback : Declines (char '\\') (n ++ rest) :=
    char_declines (newline_head_ne h rest _ (by decide) (by decide))
  have hjoin : Declines lineJoin (n ++ rest) := bind_declines hback _
  have hescape : Declines escape (n ++ rest) := seqRight_declines hback _
  rw [multilineBasicPiece, orElse_right hplain, orElse_right (map_declines _ hjoin),
    orElse_right (map_declines _ hescape)]
  exact map_ok _ (newline_append h rest)

theorem multilineBasicPiece_quote (rest : List Char) : Declines multilineBasicPiece ('"' :: rest) := by
  have hback : Declines (char '\\') ('"' :: rest) := char_declines (by simp)
  have hjoin : Declines lineJoin ('"' :: rest) := bind_declines hback _
  have hescape : Declines escape ('"' :: rest) := seqRight_declines hback _
  have hnewline : Declines newline ('"' :: rest) := newline_declines_cons (by decide) _
  exact orElse_declines (takeWhile1_declines (stop_cons (by decide) _)) <|
    orElse_declines (map_declines _ hjoin) <|
    orElse_declines (map_declines _ hescape) (map_declines _ hnewline)

/-- Blanks and ends of lines are taken away, up to the next ink. -/
theorem IsGap.runs {gap : List Char} (h : IsGap gap) (hrest : Inked rest) :
    ∃ units, Runs (orElse Toml.newline (discard (takeWhile1 isBlank))) (gap ++ rest) units rest := by
  have hblank : ∀ c cs, isBlank c = true →
      orElse Toml.newline (discard (takeWhile1 isBlank)) (c :: cs) = .ok ((), cs.dropWhile isBlank) := by
    intro c cs hc
    rw [orElse_right (newline_declines_cons (by constructor <;> rintro rfl <;> cases hc) cs)]
    exact discard_ok (takeWhile1_ok hc cs)
  -- blanks next to each other are taken as one
  induction h with
  | nil =>
    refine ⟨[], .done (orElse_declines (newline_declines fun c hc => (hrest c hc).2) ?_)⟩
    exact discard_declines (takeWhile1_declines fun c hc => (hrest c hc).1)
  | blank hc _ ih =>
    obtain ⟨units, hruns⟩ := ih
    rcases hruns.cons (g := fun _ => ()) hblank hc with hruns' | ⟨_, _, -, hruns'⟩ <;> exact ⟨_, hruns'⟩
  | newline hn _ ih =>
    obtain ⟨units, hruns⟩ := ih
    have hlt := hn.length_pos
    rw [List.append_assoc]
    exact ⟨_, .step (orElse_left (newline_append hn _) _) (by simp only [List.length_append]; omega) hruns⟩

theorem multilineBasicPiece_join {gap : List Char} (hw : Blank w) (hn : IsNewline n) (hgap : IsGap gap)
    (hrest : Inked rest) : multilineBasicPiece ('\\' :: (w ++ (n ++ (gap ++ rest)))) = .ok ([], rest) := by
  have hblanks : blanks (w ++ (n ++ (gap ++ rest))) = .ok ((), n ++ (gap ++ rest)) :=
    blanks_append hw (newline_not hn _ (by decide) (by decide))
  obtain ⟨units, hruns⟩ := hgap.runs hrest
  have hjoin : lineJoin ('\\' :: (w ++ (n ++ (gap ++ rest)))) = .ok ((), rest) := by
    rw [lineJoin, bind_ok (char_ok _ _), bind_ok hblanks, bind_ok (newline_append hn _)]
    exact discard_ok (many_of_runs hruns)
  rw [multilineBasicPiece, orElse_right (backslash_declines _)]
  exact orElse_left (map_ok _ hjoin) _

theorem SpellsLines.spelling (h : SpellsLines s t) (rest : List Char) :
    Spelling multilineBasicPiece (t ++ '"' :: rest) s ('"' :: rest) := by
  have hquote : Inked ('"' :: rest) := inked_cons (by decide) rest
  induction h with
  | nil => exact .done (multilineBasicPiece_quote rest)
  | plain hc _ ih => exact ih.cons multilineBasicPiece_plain hc
  | escape he _ ih =>
    rw [List.cons_append, List.append_assoc]
    exact ih.step (multilineBasicPiece_escape he _) (by simp only [List.length_cons, List.length_append]; omega)
  | newline hn _ ih =>
    have hlt := hn.length_pos
    rw [List.append_assoc]
    exact ih.step (multilineBasicPiece_newline hn _) (by simp only [List.length_append]; omega)
  | join hw hn hgap ht _ ih =>
    rw [List.cons_append, List.append_assoc, List.append_assoc, List.append_assoc]
    exact ih.step (multilineBasicPiece_join hw hn hgap (ht.append hquote))
      (by simp only [List.length_cons, List.length_append]; omega)

theorem SpellsLines.head_ne (h : SpellsLines s t) : t.head? ≠ some '"' := by
  cases h with
  | nil => simp
  | plain hc => rintro ⟨⟩; cases hc
  | escape | join => simp
  | newline hn => exact newline_head_ne hn _ _ (by decide) (by decide)

theorem readsStretches_basic : ReadsStretches '"' SpellsLines multilineBasicPiece :=
  ⟨multilineBasicPiece_quote, SpellsLines.head_ne, SpellsLines.spelling⟩

theorem multilineLiteralPiece_plain (hc : isLiteralChar c = true) (rest : List Char) :
    multilineLiteralPiece (c :: rest) = .ok ([c], rest) := orElse_left (map_ok _ (satisfy_ok hc rest)) _

theorem multilineLiteralPiece_newline (h : IsNewline n) (rest : List Char) :
    multilineLiteralPiece (n ++ rest) = .ok (['\n'], rest) := by
  have hplain : Declines (satisfy isLiteralChar) (n ++ rest) :=
    satisfy_declines (newline_not h rest (by decide) (by decide))
  rw [multilineLiteralPiece, orElse_right (map_declines _ hplain)]
  exact map_ok _ (newline_append h rest)

theorem multilineLiteralPiece_quote (rest : List Char) : Declines multilineLiteralPiece ('\'' :: rest) := by
  have hplain : Declines (satisfy isLiteralChar) ('\'' :: rest) := satisfy_declines (stop_cons (by decide) _)
  exact orElse_declines (map_declines _ hplain) (map_declines _ (newline_declines_cons (by decide) _))

theorem CopiesLines.spelling (h : CopiesLines s t) (rest : List Char) :
    Spelling multilineLiteralPiece (t ++ '\'' :: rest) s ('\'' :: rest) := by
  induction h with
  | nil => exact .done (multilineLiteralPiece_quote rest)
  | plain hc _ ih => exact ih.step (multilineLiteralPiece_plain hc _) (Nat.lt_succ_self _)
  | newline hn _ ih =>
    have hlt := hn.length_pos
    rw [List.append_assoc]
    exact ih.step (multilineLiteralPiece_newline hn _) (by simp only [List.length_append]; omega)

theorem CopiesLines.head_ne (h : CopiesLines s t) : t.head? ≠ some '\'' := by
  cases h with
  | nil => simp
  | plain hc => rintro ⟨⟩; cases hc
  | newline hn => exact newline_head_ne hn _ _ (by decide) (by decide)

theorem readsStretches_literal : ReadsStretches '\'' CopiesLines multilineLiteralPiece :=
  ⟨multilineLiteralPiece_quote, CopiesLines.head_ne, CopiesLines.spelling⟩

/-! ## Quotes inside a string -/

section
variable {ahead : Parser Unit}

theorem innerQuotes_two {u : List Char} (h : ahead rest = .ok ((), u)) :
    innerQuotes q ahead (q :: q :: rest) = .ok ([q, q], rest) := by
  have htwo : word [q, q] (q :: q :: rest) = .ok ((), rest) := word_ok [q, q] rest
  refine orElse_left ?_ _
  rw [bind_ok htwo, bind_ok (lookahead_ok h)]
  rfl

/-- Two quotes are not taken where none is behind the first one, or where what is ahead of them is not read. -/
theorem twoQuotes_declines (h : ∀ u, rest = q :: u → Declines ahead u) :
    Declines (do word [q, q]; lookahead ahead; return [q, q] : Parser (List Char)) (q :: rest) := by
  by_cases hquote : rest.head? = some q
  · obtain ⟨u, rfl⟩ := List.head?_eq_some_iff.1 hquote
    exact bind_declines_of_ok (word_ok [q, q] u) (bind_declines (lookahead_declines (h u rfl)) _)
  · refine bind_declines (word_declines fun hprefix => ?_) _
    obtain ⟨u, hu⟩ := hprefix
    cases hu
    exact hquote rfl

theorem innerQuotes_one {u : List Char} (htwo : ∀ u, rest = q :: u → Declines ahead u)
    (h : ahead rest = .ok ((), u)) : innerQuotes q ahead (q :: rest) = .ok ([q], rest) := by
  rw [innerQuotes, orElse_right (twoQuotes_declines htwo), bind_ok (char_ok q rest), bind_ok (lookahead_ok h)]
  rfl

theorem innerQuotes_declines (htwo : ∀ u, rest = q :: u → Declines ahead u) (h : Declines ahead rest) :
    Declines (innerQuotes q ahead) (q :: rest) :=
  orElse_declines (twoQuotes_declines htwo)
    (bind_declines_of_ok (char_ok q rest) (bind_declines (lookahead_declines h) _))

end

theorem threeQuotes_declines (h : rest.head? ≠ some q) :
    Declines (word [q, q, q]) (q :: rest) ∧ Declines (word [q, q, q]) (q :: q :: rest) := by
  constructor <;>
  · refine word_declines fun hprefix => ?_
    obtain ⟨u, hu⟩ := hprefix
    cases hu
    exact h rfl

section
variable (hrest : rest.head? ≠ some q)
include hrest

theorem lastQuotes_none :
    optional (innerQuotes q (word [q, q, q])) (q :: q :: q :: rest) = .ok (none, q :: q :: q :: rest) := by
  refine optional_none (innerQuotes_declines ?_ (threeQuotes_declines hrest).2)
  rintro u ⟨⟩
  exact (threeQuotes_declines hrest).1

/-- The quotes in front of the three that end a string belong to it. -/
theorem lastQuotes_some {qs : List Char} (h : IsQuotes q qs) :
    optional (innerQuotes q (word [q, q, q])) (qs ++ q :: q :: q :: rest) =
      .ok (some qs, q :: q :: q :: rest) := by
  have hahead : word [q, q, q] (q :: q :: q :: rest) = .ok ((), rest) := word_ok [q, q, q] rest
  cases h with
  | one =>
    refine optional_some (innerQuotes_one ?_ hahead)
    rintro u ⟨⟩
    exact (threeQuotes_declines hrest).2
  | two => exact optional_some (innerQuotes_two hahead)

end

/-- What is read at a time behind the first stretch of a string: quotes with a stretch behind them. -/
def quotesAndStretch (q : Char) (piece : Parser (List Char)) : Parser (List Char) := do
  let quotes ← innerQuotes q (discard piece)
  let pieces ← many piece
  return quotes ++ pieces.flatten

section
variable {Stretch : List Char → List Char → Prop} {piece : Parser (List Char)}
  (hreads : ReadsStretches q Stretch piece)
include hreads

theorem quotesAndStretch_append {qs : List Char} (hqs : IsQuotes q qs) (hne : t ≠ []) (h : Stretch s t)
    (rest : List Char) : quotesAndStretch q piece (qs ++ (t ++ q :: rest)) = .ok (qs ++ s, q :: rest) := by
  obtain ⟨ps, hruns, rfl⟩ := hreads.spelling h rest
  obtain ⟨a, more, hfirst⟩ := hruns.exists_first (by simpa using hne)
  have hquotes : innerQuotes q (discard piece) (qs ++ (t ++ q :: rest)) = .ok (qs, t ++ q :: rest) := by
    cases hqs with
    | two => exact innerQuotes_two (discard_ok hfirst)
    | one =>
      refine innerQuotes_one (fun u hu => ?_) (discard_ok hfirst)
      -- a stretch starts with no quote
      have hhead : (t ++ q :: rest).head? = some q := congrArg List.head? hu
      rw [List.head?_append_of_ne_nil _ hne] at hhead
      exact absurd hhead (hreads.head_ne h)
  rw [quotesAndStretch, bind_ok hquotes, bind_ok (many_of_runs hruns)]
  rfl

theorem quotesAndStretch_declines (rest : List Char) :
    Declines (quotesAndStretch q piece) (q :: q :: q :: rest) := by
  refine bind_declines (innerQuotes_declines ?_ (discard_declines (hreads.quote _))) _
  rintro u ⟨⟩
  exact discard_declines (hreads.quote _)

omit hreads in
theorem Continues.exists_quote (h : Continues q Stretch s t) (rest : List Char) :
    ∃ more, t ++ q :: q :: q :: rest = q :: more := by
  cases h with
  | done => exact ⟨_, rfl⟩
  | last hqs => cases hqs <;> exact ⟨_, rfl⟩
  | quotes hqs => cases hqs <;> exact ⟨_, rfl⟩

/-- All that goes on a string is read, up to the three quotes that end it. -/
theorem Continues.read (h : Continues q Stretch s t) (hrest : rest.head? ≠ some q) :
    ∃ s' last? core, Spelling (quotesAndStretch q piece) (t ++ q :: q :: q :: rest) s' core ∧
      optional (innerQuotes q (word [q, q, q])) core = .ok (last?, q :: q :: q :: rest) ∧
      s' ++ last?.getD [] = s := by
  -- the quotes of the last alternative are left for the end, since no stretch is behind them
  induction h with
  | done =>
    exact ⟨[], none, _, .done (quotesAndStretch_declines hreads rest), lastQuotes_none hrest, rfl⟩
  | @last qs hqs =>
    refine ⟨[], some qs, _, .done ?_, lastQuotes_some hrest hqs, rfl⟩
    cases hqs <;> exact quotesAndStretch_declines hreads _
  | @quotes qs s t s' t' hqs hne h h' ih =>
    obtain ⟨more, hmore⟩ := h'.exists_quote rest
    obtain ⟨s'', last?, core, hspelling, hlast, rfl⟩ := ih
    have hstep := quotesAndStretch_append hreads hqs hne h more
    have hlt : (q :: more).length < (qs ++ (t ++ q :: more)).length := by
      have hpos := List.length_pos_of_ne_nil hne
      simp only [List.length_append]
      omega
    rw [List.append_assoc, List.append_assoc, hmore]
    rw [hmore] at hspelling
    exact ⟨qs ++ s ++ s'', last?, core, hspelling.step hstep hlt, hlast, by simp⟩

theorem multilineBody_append {s₁ t₁ s₂ t₂ : List Char} (h₁ : Stretch s₁ t₁) (h₂ : Continues q Stretch s₂ t₂)
    (hrest : rest.head? ≠ some q) :
    multilineBody q piece (t₁ ++ (t₂ ++ q :: q :: q :: rest)) = .ok (s₁ ++ s₂, q :: q :: q :: rest) := by
  obtain ⟨more, hmore⟩ := h₂.exists_quote rest
  obtain ⟨s', last?, core, ⟨ps', hmiddle, rfl⟩, hlast, rfl⟩ := h₂.read hreads hrest
  obtain ⟨ps, hstart, rfl⟩ := hreads.spelling h₁ more
  rw [← hmore] at hstart
  change (do
    let start ← many piece
    let middle ← many (quotesAndStretch q piece)
    let last ← optional (innerQuotes q (word [q, q, q]))
    return start.flatten ++ middle.flatten ++ last.getD [] : Parser (List Char)) _ = _
  rw [bind_ok (many_of_runs hstart), bind_ok (many_of_runs hmiddle), bind_ok hlast, ← List.append_assoc]
  rfl

theorem multilineString_append {x : String} (hq : q ≠ '\n' ∧ q ≠ '\r') (label : String)
    (h : IsMultiline q Stretch x t) (hrest : rest.head? ≠ some q) :
    multilineString label q piece (t ++ rest) = .ok (x, rest) := by
  obtain ⟨hn, h₁, h₂, hx⟩ := h
  rename_i n s₁ t₁ s₂ t₂
  have hbody := multilineBody_append hreads h₁ h₂ hrest
  have hopen (cs : List Char) : word [q, q, q] (q :: q :: q :: cs) = .ok ((), cs) := word_ok [q, q, q] cs
  have hopening : discard (optional newline) (n ++ (t₁ ++ (t₂ ++ q :: q :: q :: rest))) =
      .ok ((), t₁ ++ (t₂ ++ q :: q :: q :: rest)) := by
    rcases hn with hn | ⟨rfl, hhead⟩
    · exact discard_ok (optional_some (newline_append hn _))
    · refine discard_ok (optional_none (newline_declines ?_))
      obtain ⟨more, hmore⟩ := h₂.exists_quote rest
      rw [hmore]
      cases t₁ with
      | nil => rintro c ⟨⟩; exact hq
      | cons c t₁ => exact hhead
  have happend : q :: q :: q :: (n ++ (t₁ ++ (t₂ ++ [q, q, q]))) ++ rest =
      q :: q :: q :: (n ++ (t₁ ++ (t₂ ++ q :: q :: q :: rest))) := by simp
  rw [happend]
  refine labelled_ok _ ?_
  rw [bind_ok (hopen _), bind_ok hopening, bind_ok (committed_ok hbody), bind_ok (committed_ok (hopen rest)), ← hx,
    String.ofList_toList]
  rfl

end

/-! ## All strings -/

theorem Spells.head_ne (h : Spells s t) : t.head? ≠ some '"' := by
  cases h with
  | nil => simp
  | plain hc => rintro ⟨⟩; cases hc
  | escape => simp

/-- Where no three quotes stand, no string of several lines starts. -/
theorem multilineString_declines (label : String) (piece : Parser (List Char)) (h : ¬[q, q, q] <+: cs) :
    Declines (multilineString label q piece) cs :=
  labelled_declines _ (bind_declines (word_declines h) _)

/-- A string of one line does not start with three quotes, unless it is empty and a quote stands behind it. -/
theorem not_threeQuotes (ht : t.head? ≠ some q) (hrest : rest.head? ≠ some q) :
    ¬[q, q, q] <+: q :: (t ++ q :: rest) := by
  rintro ⟨u, hu⟩
  cases t with
  | nil =>
    cases hu
    exact hrest rfl
  | cons c t =>
    have hc : q = c := (List.cons.inj (List.cons.inj hu).2).1
    exact ht (congrArg some hc.symm)

theorem not_threeQuotes_of_ne {q' : Char} (h : q' ≠ q) (cs : List Char) : ¬[q, q, q] <+: q' :: cs := by
  rintro ⟨u, hu⟩
  cases hu
  exact h rfl

theorem basicString_declines (cs : List Char) : Declines basicString ('\'' :: cs) :=
  bind_declines (char_declines (by simp)) _

/-- A string is read where no quote stands behind it. -/
theorem anyString_append {x : String} (h : IsText x t) (hrest : ∀ c ∈ rest.head?, c ≠ '"' ∧ c ≠ '\'') :
    anyString (t ++ rest) = .ok (x, rest) := by
  have hdouble : rest.head? ≠ some '"' := fun h => (hrest _ h).1 rfl
  have hsingle : rest.head? ≠ some '\'' := fun h => (hrest _ h).2 rfl
  have hbasic (cs : List Char) := multilineString_declines "multiline basic string" multilineBasicPiece
    (not_threeQuotes_of_ne (show '\'' ≠ '"' by decide) cs)
  cases h with
  | line h =>
    cases h with
    | @basic t h =>
      have happend : '"' :: (t ++ ['"']) ++ rest = '"' :: (t ++ '"' :: rest) := by simp
      rw [happend, anyString, orElse_right (multilineString_declines _ _ (not_threeQuotes h.head_ne hdouble))]
      exact orElse_left (basicString_append h rest) _
    | literal h =>
      have happend : '\'' :: (x.toList ++ ['\'']) ++ rest = '\'' :: (x.toList ++ '\'' :: rest) := by simp
      have hhead : x.toList.head? ≠ some '\'' := fun hhead => by cases h _ (List.mem_of_head? hhead)
      rw [happend, anyString, orElse_right (hbasic _), orElse_right (basicString_declines _),
        orElse_right (multilineString_declines _ _ (not_threeQuotes hhead hsingle))]
      exact literalString_append h rest
  | basicLines h =>
    exact orElse_left (multilineString_append readsStretches_basic (by decide) _ h hdouble) _
  | literalLines h =>
    have hread := multilineString_append readsStretches_literal (by decide) "multiline literal string" h hsingle
    obtain ⟨cs, hcs⟩ : ∃ cs, t = '\'' :: cs := by
      cases h
      exact ⟨_, rfl⟩
    rw [hcs, List.cons_append] at hread ⊢
    rw [anyString, orElse_right (hbasic _), orElse_right (basicString_declines _)]
    exact orElse_left hread _

end ForgeBridge.Toml
