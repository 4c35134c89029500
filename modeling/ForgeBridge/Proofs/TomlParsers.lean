import ForgeBridge.Proofs.FrontRuns
import ForgeBridge.Toml.Parser

/-!
# What parsers read

How the parsers that are put together from others run: on a text that the parts read, and on one that they do not
(`Declines`), where something else is tried. Repetition is described by all that it reads, one step after the other
(`Runs`), and it is what `many` returns (`many_of_runs`).
-/

namespace ForgeBridge.Toml.Parser

variable {α β σ : Type} {p : Parser α} {q : Parser β} {cs rest rest' : List Char} {a : α} {b : β}

/-- A parser does not read the text, and another one may try. -/
def Declines (p : Parser α) (cs : List Char) : Prop := ∃ f, p cs = .error f ∧ f.final = false

theorem declines_of_error {f : Failure} (h : p cs = .error f) (hf : f.final = false) : Declines p cs := ⟨f, h, hf⟩

theorem not_declines (h : p cs = .ok (a, rest)) : ¬Declines p cs := by
  rintro ⟨f, hf, -⟩
  cases h.symm.trans hf

/-! ## One after the other -/

theorem bind_ok (h : p cs = .ok (a, rest)) (f : α → Parser β) : (p >>= f) cs = f a rest := by
  change (p cs >>= fun r => f r.1 r.2) = _
  rw [h]
  rfl

theorem bind_declines (h : Declines p cs) (f : α → Parser β) : Declines (p >>= f) cs := by
  obtain ⟨e, he, hfinal⟩ := h
  refine ⟨e, ?_, hfinal⟩
  change (p cs >>= fun r => f r.1 r.2) = _
  rw [he]
  rfl

theorem bind_declines_of_ok {f : α → Parser β} (h : p cs = .ok (a, rest)) (hf : Declines (f a) rest) :
    Declines (p >>= f) cs := by
  rw [Declines, bind_ok h f]
  exact hf

theorem map_ok (f : α → β) (h : p cs = .ok (a, rest)) : (f <$> p) cs = .ok (f a, rest) := by
  change (p cs >>= fun r => .ok (f r.1, r.2)) = _
  rw [h]
  rfl

theorem map_declines (f : α → β) (h : Declines p cs) : Declines (f <$> p) cs := by
  obtain ⟨e, he, hfinal⟩ := h
  refine ⟨e, ?_, hfinal⟩
  change (p cs >>= fun r => .ok (f r.1, r.2)) = _
  rw [he]
  rfl

theorem discard_ok (h : p cs = .ok (a, rest)) : (discard p) cs = .ok ((), rest) := map_ok (fun _ => ()) h

theorem discard_declines (h : Declines p cs) : Declines (discard p) cs := map_declines (fun _ => ()) h

theorem seqRight_ok (h : p cs = .ok (a, rest)) (q : Parser β) : (p *> q) cs = q rest := bind_ok h fun _ => q

theorem seqRight_declines (h : Declines p cs) (q : Parser β) : Declines (p *> q) cs := bind_declines h fun _ => q

theorem seqRight_declines_of_ok (h : p cs = .ok (a, rest)) (hq : Declines q rest) : Declines (p *> q) cs :=
  bind_declines_of_ok (f := fun _ => q) h hq

theorem seqLeft_ok (h : p cs = .ok (a, rest)) (hq : q rest = .ok (b, rest')) : (p <* q) cs = .ok (a, rest') :=
  (bind_ok h fun a => q >>= fun _ => pure a).trans (bind_ok hq fun _ => pure a)

theorem seqLeft_declines (h : Declines p cs) (q : Parser β) : Declines (p <* q) cs :=
  bind_declines h fun a => q >>= fun _ => pure a

/-! ## Characters -/

theorem satisfy_ok {P : Char → Bool} {c : Char} (h : P c = true) (cs : List Char) :
    satisfy P (c :: cs) = .ok (c, cs) := if_pos h

theorem satisfy_declines {P : Char → Bool} (h : ∀ c ∈ cs.head?, P c = false) : Declines (satisfy P) cs := by
  cases cs with
  | nil => exact declines_of_error rfl rfl
  | cons c cs => exact declines_of_error (if_neg (by simp [h c rfl])) rfl

theorem char_ok (c : Char) (cs : List Char) : char c (c :: cs) = .ok ((), cs) :=
  discard_ok (satisfy_ok (decide_eq_true rfl) cs)

theorem char_declines {c : Char} (h : cs.head? ≠ some c) : Declines (char c) cs :=
  discard_declines <| satisfy_declines fun d hd => decide_eq_false fun heq => h (by rw [← heq, hd])

theorem word_ok (w cs : List Char) : word w (w ++ cs) = .ok ((), cs) := by
  simp [word]

theorem word_declines {w : List Char} (h : ¬w <+: cs) : Declines (word w) cs :=
  declines_of_error (if_neg (by simpa using h)) rfl

theorem takeWhile1_ok {P : Char → Bool} {c : Char} (h : P c = true) (cs : List Char) :
    takeWhile1 P (c :: cs) = .ok (c :: cs.takeWhile P, cs.dropWhile P) := by
  simp [takeWhile1, h]

theorem takeWhile1_append {P : Char → Bool} {t : List Char} (hne : t ≠ []) (ht : ∀ c ∈ t, P c = true)
    (hrest : ∀ c ∈ rest.head?, P c = false) : takeWhile1 P (t ++ rest) = .ok (t, rest) := by
  obtain ⟨c, cs, rfl⟩ := List.exists_cons_of_ne_nil hne
  obtain ⟨hc, hcs⟩ := List.forall_mem_cons.1 ht
  rw [List.cons_append, takeWhile1_ok hc, takeWhile_run hcs hrest, dropWhile_run hcs hrest]

theorem takeWhile1_declines {P : Char → Bool} (h : ∀ c ∈ cs.head?, P c = false) : Declines (takeWhile1 P) cs := by
  cases cs with
  | nil => exact declines_of_error rfl rfl
  | cons c cs => exact declines_of_error (f := .before (c :: cs)) (by simp [takeWhile1, h c rfl]) rfl

theorem takeWhile_ok {P : Char → Bool} {t : List Char} (ht : ∀ c ∈ t, P c = true)
    (hrest : ∀ c ∈ rest.head?, P c = false) : takeWhile P (t ++ rest) = .ok (t, rest) := by
  rw [takeWhile, takeWhile_run ht hrest, dropWhile_run ht hrest]

theorem takeExactly_ok {P : Char → Bool} {t : List Char} (ht : ∀ c ∈ t, P c = true) (rest : List Char) :
    takeExactly t.length P (t ++ rest) = .ok (t, rest) := by
  have htaken : t.takeWhile P = t := List.takeWhile_eq_self_iff.2 ht
  simp [takeExactly, htaken]

/-! ## Failures that are changed, and other ways -/

theorem onFailure_ok (change : Failure → Failure) (h : p cs = .ok (a, rest)) :
    p.onFailure change cs = .ok (a, rest) := by
  rw [onFailure, h]

theorem committed_ok (h : p cs = .ok (a, rest)) : p.committed cs = .ok (a, rest) := onFailure_ok _ h

theorem labelled_ok (label : String) (h : p cs = .ok (a, rest)) : labelled label p cs = .ok (a, rest) :=
  onFailure_ok _ h

theorem wanting_ok (wanted : List Wanted) (h : p cs = .ok (a, rest)) : wanting wanted p cs = .ok (a, rest) :=
  onFailure_ok _ h

theorem onFailure_declines {change : Failure → Failure} (hchange : ∀ f, (change f).final = f.final)
    (h : Declines p cs) : Declines (p.onFailure change) cs := by
  obtain ⟨f, hf, hfinal⟩ := h
  exact ⟨change f, by rw [onFailure, hf], (hchange f).trans hfinal⟩

theorem labelled_declines (label : String) (h : Declines p cs) : Declines (labelled label p) cs :=
  onFailure_declines (fun _ => rfl) h

theorem wanting_declines (wanted : List Wanted) (h : Declines p cs) : Declines (wanting wanted p) cs :=
  onFailure_declines (fun _ => rfl) h

theorem orElse_left (h : p cs = .ok (a, rest)) (p' : Parser α) : orElse p p' cs = .ok (a, rest) := by
  rw [orElse, h]

theorem orElse_right {p' : Parser α} (h : Declines p cs) : orElse p p' cs = p' cs := by
  obtain ⟨f, hf, hfinal⟩ := h
  simp [orElse, hf, hfinal]

theorem orElse_declines {p' : Parser α} (h : Declines p cs) (h' : Declines p' cs) : Declines (orElse p p') cs := by
  rw [Declines, orElse_right h]
  exact h'

theorem optional_some (h : p cs = .ok (a, rest)) : optional p cs = .ok (some a, rest) := by
  rw [optional, h]

theorem optional_none (h : Declines p cs) : optional p cs = .ok (none, cs) := by
  obtain ⟨f, hf, hfinal⟩ := h
  simp [optional, hf, hfinal]

theorem lookahead_ok (h : p cs = .ok (a, rest)) : lookahead p cs = .ok (a, cs) := by
  rw [lookahead, h]

theorem lookahead_declines (h : Declines p cs) : Declines (lookahead p) cs := by
  obtain ⟨f, hf, hfinal⟩ := h
  exact ⟨{ f with rest := cs }, by rw [lookahead, hf], hfinal⟩

theorem checked_ok {meaning : α → Except (Option Cause) β} (h : p cs = .ok (a, rest)) (hb : meaning a = .ok b) :
    p.checked meaning cs = .ok (b, rest) := by
  simp only [checked, h, hb]

/-! ## Repetition -/

theorem repeated_done {step : σ → Parser σ} {s : σ} (h : Declines (step s) cs) :
    repeated step s cs = .ok (s, cs) := by
  obtain ⟨f, hf, hfinal⟩ := h
  rw [repeated, hf]
  simp [hfinal]

theorem repeated_step {step : σ → Parser σ} {s t : σ} (h : step s cs = .ok (t, rest))
    (hlt : rest.length < cs.length) : repeated step s cs = repeated step t rest := by
  rw [repeated, h]
  simp [hlt]

theorem untilDone_done {step : Parser Bool} (h : step cs = .ok (true, rest)) :
    untilDone step cs = .ok ((), rest) := by
  rw [untilDone, h]
  simp

theorem untilDone_step {step : Parser Bool} (h : step cs = .ok (false, rest)) (hlt : rest.length < cs.length) :
    untilDone step cs = untilDone step rest := by
  rw [untilDone, h]
  simp [hlt]

/-- A parser reads these things one after the other, and then no more. -/
inductive Runs (p : Parser α) : List Char → List α → List Char → Prop
  | done {cs : List Char} (h : Declines p cs) : Runs p cs [] cs
  | step {cs more rest : List Char} {a : α} {as : List α} (h : p cs = .ok (a, more))
      (hlt : more.length < cs.length) (hmore : Runs p more as rest) : Runs p cs (a :: as) rest

theorem Runs.exists_first {as : List α} (h : Runs p cs as rest) (hne : cs ≠ rest) :
    ∃ a more, p cs = .ok (a, more) := by
  cases h with
  | done => exact absurd rfl hne
  | step h => exact ⟨_, _, h⟩

theorem many_of_runs {as : List α} (h : Runs p cs as rest) : many p cs = .ok (as, rest) := by
  have hrepeated : ∀ acc, repeated (fun acc => (· :: acc) <$> p) acc cs = .ok (as.reverse ++ acc, rest) := by
    induction h with
    | done h => exact fun acc => repeated_done (map_declines _ h)
    | step h hlt _ ih =>
      intro acc
      rw [repeated_step (map_ok (· :: acc) h) hlt, ih]
      simp
  have hreverse := map_ok List.reverse (hrepeated [])
  rwa [List.append_nil, List.reverse_reverse] at hreverse

theorem separated_ok {separator : Parser Unit} {as : List α} (h : p cs = .ok (a, rest))
    (hruns : Runs (separator *> p) rest as rest') : separated p separator cs = .ok (a :: as, rest') :=
  (bind_ok h _).trans (bind_ok (many_of_runs hruns) _)

/-- One character more in front of a run of its class: if the text goes on in the class, what takes as many of the
class as there are takes the character as well, and else the character stands alone. -/
theorem Runs.cons {P : Char → Bool} {g : List Char → α} {as : List α}
    (hp : ∀ c cs, P c = true → p (c :: cs) = .ok (g (c :: cs.takeWhile P), cs.dropWhile P))
    {c : Char} (hc : P c = true) (h : Runs p cs as rest) :
    Runs p (c :: cs) (g [c] :: as) rest ∨
      ∃ run as', as = g run :: as' ∧ Runs p (c :: cs) (g (c :: run) :: as') rest := by
  have hfirst := hp c cs hc
  by_cases hhead : ∀ d ∈ cs.head?, P d = false
  · rw [takeWhile_eq_nil hhead, dropWhile_eq_self hhead] at hfirst
    exact .inl (.step hfirst (Nat.lt_succ_self _) h)
  · obtain ⟨d, hd, hP⟩ : ∃ d ∈ cs.head?, P d = true := by simpa using hhead
    obtain ⟨ds, rfl⟩ : ∃ ds, cs = d :: ds := List.head?_eq_some_iff.1 hd
    have hsecond := hp d ds hP
    cases h with
    | done h => exact absurd h (not_declines hsecond)
    | step h hlt hmore =>
      cases h.symm.trans hsecond
      rw [List.takeWhile_cons_of_pos hP, List.dropWhile_cons_of_pos hP] at hfirst
      exact .inr ⟨_, _, rfl, .step hfirst (Nat.lt_succ_of_lt hlt) hmore⟩

/-- Pieces of a text, read one after the other, make up these characters. -/
def Spelling (p : Parser (List Char)) (cs s rest : List Char) : Prop := ∃ ps, Runs p cs ps rest ∧ ps.flatten = s

section
variable {p : Parser (List Char)} {s piece more : List Char}

theorem Spelling.done (h : Declines p cs) : Spelling p cs [] cs := ⟨[], .done h, rfl⟩

theorem Spelling.step (h : p cs = .ok (piece, more)) (hlt : more.length < cs.length)
    (hmore : Spelling p more s rest) : Spelling p cs (piece ++ s) rest := by
  obtain ⟨ps, hruns, rfl⟩ := hmore
  exact ⟨piece :: ps, .step h hlt hruns, rfl⟩

theorem Spelling.cons {P : Char → Bool}
    (hp : ∀ c cs, P c = true → p (c :: cs) = .ok (c :: cs.takeWhile P, cs.dropWhile P))
    {c : Char} (hc : P c = true) (h : Spelling p cs s rest) : Spelling p (c :: cs) (c :: s) rest := by
  obtain ⟨ps, hruns, rfl⟩ := h
  rcases hruns.cons (g := id) hp hc with hruns' | ⟨run, ps', rfl, hruns'⟩
  · exact ⟨[c] :: ps, hruns', rfl⟩
  · exact ⟨(c :: run) :: ps', hruns', rfl⟩

end

end ForgeBridge.Toml.Parser
