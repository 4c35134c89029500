import ForgeBridge.Proofs.FrontRuns
import ForgeBridge.Tracker.Client

/-!
# Web addresses with a path behind them

Whether a text is the address of a web server is decided in front of the first slash behind the
host. So a web address stays one when a path is put behind it, and it leads to the same host
(`webUrl?_extend`).
-/

namespace ForgeBridge

namespace Url

/-! ## Authorities -/

/-- An authority of a web address: nothing in it ends it. -/
def Unended (cs : List Char) : Prop := ∀ c ∈ cs, endsAuthority .special c = false

/-- What can stand behind an authority. -/
def IsTail (cs : List Char) : Prop := ∀ c ∈ cs.head?, endsAuthority .special c = true

theorem endsAuthority_special (c : Char) :
    endsAuthority .special c = true ↔ c = '/' ∨ c = '\\' ∨ c = '?' ∨ c = '#' := by
  simp [endsAuthority, Path.isSlash, SchemeKind.isSpecial, or_assoc]

theorem IsTail.not_digit {t : List Char} (ht : IsTail t) : ∀ c ∈ t.head?, c.isDigit = false := by
  intro c hc
  rcases (endsAuthority_special c).1 (ht c hc) with rfl | rfl | rfl | rfl <;> rfl

theorem IsTail.head_ne_colon {t : List Char} (ht : IsTail t) : t.head? ≠ some ':' := by
  intro hc
  exact absurd (ht ':' hc) (by decide)

theorem hostText_append {cs t : List Char} (hcs : Unended cs) (ht : IsTail t) (inBrackets : Bool) :
    hostText .special inBrackets (cs ++ t) = hostText .special inBrackets cs := by
  induction cs generalizing inBrackets with
  | nil =>
    cases t with
    | nil => rfl
    | cons c t => simp [hostText, ht c rfl]
  | cons c cs ih =>
    obtain ⟨-, hrest⟩ := List.forall_mem_cons.1 hcs
    simp only [List.cons_append, hostText, ih hrest]

/-- Behind the text of a host the authority is over, or a colon comes. -/
theorem hostText_split {cs : List Char} (hcs : Unended cs) (inBrackets : Bool) :
    ∃ d, cs = hostText .special inBrackets cs ++ d ∧ (d = [] ∨ ∃ d', d = ':' :: d') := by
  induction cs generalizing inBrackets with
  | nil => exact ⟨[], rfl, .inl rfl⟩
  | cons c cs ih =>
    obtain ⟨hc, hrest⟩ := List.forall_mem_cons.1 hcs
    simp only [hostText, hc, Bool.false_or]
    split
    · rename_i hcolon
      have heq : c = ':' := by simpa using (Bool.and_eq_true_iff.1 hcolon).1
      exact ⟨c :: cs, rfl, .inr ⟨cs, by rw [heq]⟩⟩
    · obtain ⟨d, hd, hd'⟩ := ih hrest (if c = '[' then true else if c = ']' then false else inBrackets)
      exact ⟨d, by rw [List.cons_append, ← hd], hd'⟩

/-- A port says the same whatever stands behind it. -/
theorem portOf_append {scheme : String} {d t t' rest : List Char} {port : Option UInt16}
    (hd : Unended d) (ht : IsTail t) (ht' : IsTail t') (h : portOf scheme (d ++ t) = .ok (port, rest)) :
    portOf scheme (d ++ t') = .ok (port, t') := by
  simp only [portOf, takeWhile_append_stop ht.not_digit, takeWhile_append_stop ht'.not_digit,
    dropWhile_append_stop ht.not_digit, dropWhile_append_stop ht'.not_digit] at h ⊢
  rcases hdigits : d.dropWhile Char.isDigit with _ | ⟨c, cs⟩
  · -- all of it is digits, and what follows may follow
    have hok {t : List Char} (ht : IsTail t) :
        (t.head?.any fun c => !(c = '/' || c = '\\' || c = '?' || c = '#')) = false := by
      cases t with
      | nil => rfl
      | cons c t => rcases (endsAuthority_special c).1 (ht c rfl) with rfl | rfl | rfl | rfl <;> rfl
    simp only [hdigits, List.nil_append, hok ht, hok ht', Bool.false_eq_true, if_false] at h ⊢
    cases hn : Text.decimal? (d.takeWhile Char.isDigit) with
    | none =>
      simp only [hn, Except.ok.injEq, Prod.mk.injEq] at h ⊢
      exact ⟨h.1, trivial⟩
    | some n =>
      simp only [hn] at h ⊢
      split at h
      · cases h
      · rename_i hsmall
        rw [if_neg hsmall]
        split at h
        · rename_i husual
          rw [if_pos husual]
          cases h
          rfl
        · rename_i husual
          rw [if_neg husual]
          cases h
          rfl
  · -- a character of the authority that is no digit
    have hmem : c ∈ d := (List.dropWhile_suffix _).subset (hdigits ▸ List.mem_cons_self)
    have hc : ¬(c = '/' ∨ c = '\\' ∨ c = '?' ∨ c = '#') := by
      rw [← endsAuthority_special, hd c hmem]
      exact Bool.false_ne_true
    simp only [not_or] at hc
    simp [hdigits, hc] at h

theorem takeWhile_authority {cs t : List Char} (hcs : Unended cs) (ht : IsTail t) :
    (cs ++ t).takeWhile (fun c => !endsAuthority .special c) = cs := by
  rw [List.takeWhile_append_of_pos (fun c hc => by rw [hcs c hc]; rfl),
    takeWhile_eq_nil (fun c hc => by rw [ht c hc]; rfl), List.append_nil]

/-- The user's part of an authority is the same whatever stands behind the authority. -/
theorem userInfo_append {cs : List Char} (hcs : Unended cs) :
    ∃ info host, Unended host ∧ ∀ t, IsTail t →
      (host ≠ [] → userInfo .special (cs ++ t) = .ok (info, host ++ t)) ∧
      ∀ info' rest, userInfo .special (cs ++ t) = .ok (info', rest) → info' = info ∧ rest = host ++ t := by
  by_cases hbehind : (cs.reverse.takeWhile (· ≠ '@')).reverse.length = cs.length
  · refine ⟨.absent, cs, hcs, fun t ht => ?_⟩
    have hinfo : userInfo .special (cs ++ t) = .ok (.absent, cs ++ t) := by
      simp only [userInfo, takeWhile_authority hcs ht, hbehind, if_true]
    rw [hinfo]
    exact ⟨fun _ => rfl, fun info' rest h => by cases h; exact ⟨rfl, rfl⟩⟩
  · have hle : (cs.reverse.takeWhile (· ≠ '@')).reverse.length ≤ cs.length := by
      rw [List.length_reverse, ← cs.length_reverse]
      exact (List.takeWhile_prefix _).length_le
    generalize hb : (cs.reverse.takeWhile (· ≠ '@')).reverse = behind at hbehind hle
    have hlen : (cs.take (cs.length - behind.length - 1)).length + 1 = cs.length - behind.length := by
      rw [List.length_take]
      omega
    generalize hf : cs.take (cs.length - behind.length - 1) = front at hlen
    have hinfo {t : List Char} (ht : IsTail t) :
        userInfo .special (cs ++ t) = userInfoAt front behind (cs.drop (front.length + 1) ++ t) := by
      rw [← List.drop_append_of_le_length (by omega)]
      simp only [userInfo, takeWhile_authority hcs ht, hb, hbehind, if_false, hf]
    have hhost : Unended (cs.drop (front.length + 1)) := fun c hc => hcs c (List.mem_of_mem_drop hc)
    cases front with
    | cons c front =>
      refine ⟨userInfoOf (c :: front), _, hhost, fun t ht => ?_⟩
      rw [hinfo ht]
      exact ⟨fun _ => rfl, fun info' rest h => by cases h; exact ⟨rfl, rfl⟩⟩
    | nil =>
      refine ⟨.absent, _, hhost, fun t ht => ?_⟩
      rw [hinfo ht]
      cases behind with
      | cons c behind => exact ⟨fun _ => rfl, fun info' rest h => by cases h; exact ⟨rfl, rfl⟩⟩
      | nil =>
        -- an at sign is all there is
        have hone : cs.length ≤ 1 := by
          simp only [List.length_nil] at hlen
          omega
        have hnone : cs.drop (([] : List Char).length + 1) = [] := List.drop_eq_nil_of_le hone
        rw [hnone, List.nil_append]
        refine ⟨fun hne => absurd rfl hne, fun info' rest h => ?_⟩
        cases t with
        | nil => cases h; exact ⟨rfl, rfl⟩
        | cons c t => cases h

theorem portBehind_tail {scheme : String} {t : List Char} (ht : IsTail t) :
    portBehind scheme t = .ok (none, t) := by
  unfold portBehind
  split
  · exact absurd rfl ht.head_ne_colon
  · rfl

/-- What follows a host in its authority says the same whatever stands behind the authority. -/
theorem portBehind_append {scheme : String} {d t t' rest : List Char} {port : Option UInt16}
    (hd : Unended d) (hcolon : d = [] ∨ ∃ d', d = ':' :: d') (ht : IsTail t) (ht' : IsTail t')
    (h : portBehind scheme (d ++ t) = .ok (port, rest)) :
    portBehind scheme (d ++ t') = .ok (port, t') ∧
      ((d ++ t').head? = some ':' ↔ (d ++ t).head? = some ':') := by
  rcases hcolon with rfl | ⟨d', rfl⟩
  · rw [List.nil_append, portBehind_tail ht] at h
    cases h
    exact ⟨portBehind_tail ht', iff_of_false ht'.head_ne_colon ht.head_ne_colon⟩
  · have hd' : Unended d' := fun c hc => hd c (.tail _ hc)
    exact ⟨portOf_append hd' ht ht' h, iff_of_true rfl rfl⟩

/-- The host and the port of an authority behind its user. -/
theorem afterSlashes_eq {scheme : String} {cs host d t : List Char} {info : UserInfo}
    (hk : kindOf scheme = .special) (hinfo : userInfo .special cs = .ok (info, host ++ t))
    (htext : hostText .special false (host ++ t) = hostText .special false host)
    (hd : host = hostText .special false host ++ d) :
    afterSlashes scheme cs =
      (hostOf .special (hostText .special false host) ((d ++ t).head? = some ':') (info ≠ .absent)).bind
        fun h => (portBehind scheme (d ++ t)).bind
          fun (port, rest) => .ok (withPath scheme info (some h) port rest) := by
  have hdrop : (host ++ t).drop (hostText .special false host).length = d ++ t := by
    have heq : host ++ t = hostText .special false host ++ (d ++ t) := by
      rw [← List.append_assoc, ← hd]
    rw [heq, List.drop_left]
  simp only [afterSlashes, hk, hinfo, htext, hdrop, bind, Except.bind, pure, Except.pure]

/-- An authority that makes a web address with something behind it makes one with anything behind it. These
differ in their paths and in what follows. -/
theorem afterSlashes_withPath {scheme : String} {cs t : List Char} {u : Url} (hk : kindOf scheme = .special)
    (hcs : Unended cs) (ht : IsTail t) (h : afterSlashes scheme (cs ++ t) = .ok u) :
    ∃ user host port, u = withPath scheme user (some host) port t ∧
      ∀ t', IsTail t' → afterSlashes scheme (cs ++ t') = .ok (withPath scheme user (some host) port t') := by
  obtain ⟨info, host, hhost, hinfo⟩ := userInfo_append hcs
  obtain ⟨d, hsplit, hcolon⟩ := hostText_split hhost false
  have hd : Unended d := fun c hc => hhost c (by rw [hsplit]; exact List.mem_append_right _ hc)
  cases hu : userInfo .special (cs ++ t) with
  | error e => simp only [afterSlashes, hk, hu, bind, Except.bind, reduceCtorEq] at h
  | ok r =>
    obtain ⟨rfl, hr⟩ := (hinfo t ht).2 r.1 r.2 hu
    have hu' : userInfo .special (cs ++ t) = .ok (r.1, host ++ t) := by rw [hu, ← hr]
    rw [afterSlashes_eq hk hu' (hostText_append hhost ht false) hsplit] at h
    cases hh : hostOf .special (hostText .special false host) ((d ++ t).head? = some ':') (r.1 ≠ .absent) with
    | error e => simp only [hh, Except.bind, reduceCtorEq] at h
    | ok ho =>
      cases hp : portBehind scheme (d ++ t) with
      | error e => simp only [hh, hp, Except.bind, reduceCtorEq] at h
      | ok pr =>
        have hport {t' : List Char} (ht' : IsTail t') := portBehind_append hd hcolon ht ht'
          (show portBehind scheme (d ++ t) = .ok (pr.1, pr.2) from hp)
        have hne : host ≠ [] := by
          rintro rfl
          simp [hostOf, hostText, SchemeKind.isSpecial] at hh
        have hrest : pr.2 = t := congrArg Prod.snd (Except.ok.inj (hp.symm.trans (hport ht).1))
        simp only [hh, hp, Except.bind, hrest, Except.ok.injEq] at h
        refine ⟨r.1, ho, pr.1, h.symm, fun t' ht' => ?_⟩
        obtain ⟨hp', hhead⟩ := hport ht'
        rw [afterSlashes_eq hk ((hinfo t' ht').1 hne) (hostText_append hhost ht' false) hsplit]
        simp only [hhead, hh, hp', Except.bind]

/-- The user of an authority is read from what is in front of an at sign, if there is one. -/
theorem user_of_userInfo {kind : SchemeKind} {cs rest : List Char} {info : UserInfo}
    (h : userInfo kind cs = .ok (info, rest)) : info = .absent ∨ ∃ front, info = userInfoOf front := by
  simp only [userInfo] at h
  split at h
  · cases h
    exact .inl rfl
  · unfold userInfoAt at h
    split at h
    · cases h
    · cases h
      exact .inl rfl
    · cases h
      exact .inr ⟨_, rfl⟩

theorem ofText_of_hostOf {text : List Char} {hasPort hasUser : Bool} {host : Host}
    (h : hostOf .special text hasPort hasUser = .ok host) : Host.ofText text = .ok host := by
  unfold hostOf at h
  split at h
  · cases h
  · exact h

/-- The parts that a URL is read from. -/
theorem parts_of_afterSlashes {scheme : String} {cs : List Char} {u : Url} (hk : kindOf scheme = .special)
    (h : afterSlashes scheme cs = .ok u) :
    ∃ user text host port rest, (user = .absent ∨ ∃ front, user = userInfoOf front) ∧ Host.ofText text = .ok host ∧
      u = withPath scheme user (some host) port rest := by
  simp only [afterSlashes, hk, bind, Except.bind, pure, Except.pure] at h
  split at h
  · cases h
  · rename_i user huser
    split at h
    · cases h
    · rename_i host hhost
      split at h
      · cases h
      · rename_i behind _
        exact ⟨user.1, _, host, behind.1, behind.2, user_of_userInfo huser, ofText_of_hostOf hhost,
          (Except.ok.inj h).symm⟩

/-! ## Addresses -/

/-- A path that is put behind an address starts with a slash. -/
def IsPath (x : String) : Prop := ∀ c ∈ x.toList.head?, c = '/'

/-- The end of a text counts: it is no blank. -/
def EndsWell (s : String) : Prop := ∀ c ∈ s.toList.getLast?, ' ' < c

/-- What counts of a text that a path is put behind. -/
def front (a : String) : List Char := (a.toList.dropWhile (· ≤ ' ')).filter Path.counts

/-- What counts of a path behind a text. -/
def behind (x : String) : List Char := x.toList.filter Path.counts

/-- Behind what counts of a text come the blanks at its end. -/
theorem front_eq (a : String) :
    ∃ blanks, front a = significant a ++ blanks ∧ (∀ c ∈ blanks, c ≤ ' ') ∧ (EndsWell a → blanks = []) := by
  have hsplit : a.toList.dropWhile (· ≤ ' ') =
      ((a.toList.dropWhile (· ≤ ' ')).reverse.dropWhile (· ≤ ' ')).reverse ++
        ((a.toList.dropWhile (· ≤ ' ')).reverse.takeWhile (· ≤ ' ')).reverse := by
    rw [← List.reverse_append, List.takeWhile_append_dropWhile, List.reverse_reverse]
  refine ⟨((a.toList.dropWhile (· ≤ ' ')).reverse.takeWhile (· ≤ ' ')).reverse.filter Path.counts, ?_, ?_, ?_⟩
  · rw [front, significant, ← List.filter_append, ← hsplit]
  · intro c hc
    have hmem := List.mem_reverse.1 (List.mem_filter.1 hc).1
    simpa using List.all_eq_true.1 List.all_takeWhile c hmem
  · intro he
    rw [takeWhile_eq_nil, List.reverse_nil, List.filter_nil]
    intro c hc
    rw [List.head?_reverse] at hc
    obtain ⟨p, hp⟩ := List.dropWhile_suffix (l := a.toList) (· ≤ ' ')
    have hend : c ∈ a.toList.getLast? := by
      rw [← hp, List.getLast?_append, hc]
      rfl
    exact decide_eq_false (Char.not_le.2 (he c hend))

theorem front_append {a x : String} (hx : IsPath x) : front (a ++ x) = front a ++ behind x := by
  have hdrop : (a ++ x).toList.dropWhile (· ≤ ' ') = a.toList.dropWhile (· ≤ ' ') ++ x.toList := by
    rw [String.toList_append]
    exact dropWhile_append_stop fun c hc => by rw [hx c hc]; rfl
  rw [front, hdrop, List.filter_append, front, behind]

theorem significant_append {a x : String} (hx : IsPath x) (he : EndsWell (a ++ x)) :
    significant (a ++ x) = front a ++ behind x := by
  obtain ⟨blanks, hblanks, -, hnone⟩ := front_eq (a ++ x)
  rw [← front_append hx, hblanks, hnone he, List.append_nil]

theorem behind_head {x : String} (hx : IsPath x) : ∀ c ∈ (behind x).head?, c = '/' := by
  intro c hc
  cases hl : x.toList with
  | nil => simp [behind, hl] at hc
  | cons d cs =>
    have hd : d = '/' := hx d (by rw [hl]; rfl)
    subst hd
    have hcons : behind x = '/' :: cs.filter Path.counts := by
      rw [behind, hl]
      exact List.filter_cons_of_pos rfl
    rw [hcons] at hc
    exact (Option.some.inj hc).symm

theorem isTail_append {d t : List Char} (hd : ∀ c ∈ d.head?, endsAuthority .special c = true)
    (ht : ∀ c ∈ t.head?, c = '/') : IsTail (d ++ t) := by
  intro c hc
  cases d with
  | nil => rw [ht c hc]; rfl
  | cons e d => exact hd c hc

/-- A scheme is in front of all slashes. -/
theorem scheme?_append {cs t : List Char} (ht : ∀ c ∈ t.head?, c = '/') :
    scheme? (cs ++ t) = (scheme? cs).map fun (scheme, rest) => (scheme, rest ++ t) := by
  have hstop : ∀ c ∈ t.head?, isSchemeChar c = false := fun c hc => by rw [ht c hc]; rfl
  cases cs with
  | nil =>
    cases t with
    | nil => rfl
    | cons c t =>
      obtain rfl : c = '/' := ht c rfl
      rfl
  | cons c cs =>
    have hdrop : (c :: cs ++ t).dropWhile isSchemeChar = (c :: cs).dropWhile isSchemeChar ++ t :=
      dropWhile_append_stop hstop
    have htake : (c :: cs ++ t).takeWhile isSchemeChar = (c :: cs).takeWhile isSchemeChar :=
      takeWhile_append_stop hstop
    rw [List.cons_append] at hdrop htake ⊢
    by_cases hc : c.isAlpha = true
    · simp only [scheme?, hc, if_true, hdrop, htake]
      rcases hrest : (c :: cs).dropWhile isSchemeChar with _ | ⟨d, rest⟩
      · cases t with
        | nil => rfl
        | cons d t =>
          obtain rfl : d = '/' := ht d rfl
          rfl
      · simp only [List.cons_append]
        split <;> simp_all
    · simp only [scheme?, hc]
      rfl

/-- The slashes in front of an authority do not count. -/
def unslashed (cs : List Char) : List Char := cs.dropWhile fun c => c = '/' || c = '\\'

theorem scheme_of_afterSlashes {scheme : String} {cs : List Char} {u : Url}
    (h : afterSlashes scheme cs = .ok u) : u.scheme = scheme := by
  simp only [afterSlashes, bind, Except.bind, pure, Except.pure] at h
  repeat (split at h; cases h)
  cases h
  rfl

theorem scheme_of_fileUrl {cs : List Char} {u : Url} (h : fileUrl cs = .ok u) : u.scheme = "file" := by
  simp only [fileUrl, bind, Except.bind, pure, Except.pure] at h
  repeat' split at h
  all_goals cases h
  all_goals rfl

theorem eq_file_of_kindOf {scheme : String} (h : kindOf scheme = .file) : scheme = "file" := by
  unfold kindOf at h
  split at h
  · rfl
  all_goals cases h

/-- The scheme that is read is the scheme of the address. -/
theorem scheme_of_parse {s : String} {u : Url} (h : parse s = .ok u) :
    ∃ rest, scheme? (significant s) = some (u.scheme, rest) ∧
      (kindOf u.scheme = .special → afterSlashes u.scheme (unslashed rest) = .ok u) := by
  rw [parse] at h
  rcases hs : scheme? (significant s) with _ | ⟨scheme, rest⟩
  · simp [hs] at h
  · simp only [hs] at h
    cases hk : kindOf scheme with
    | file =>
      simp only [hk] at h
      have hfile : scheme = u.scheme := (eq_file_of_kindOf hk).trans (scheme_of_fileUrl h).symm
      subst hfile
      exact ⟨rest, rfl, fun hsp => by rw [hk] at hsp; cases hsp⟩
    | special =>
      simp only [hk] at h
      obtain rfl := scheme_of_afterSlashes h
      exact ⟨rest, rfl, fun _ => h⟩
    | other =>
      simp only [hk] at h
      have hu : u.scheme = scheme := by
        split at h
        · exact scheme_of_afterSlashes h
        · cases h; rfl
        · cases h; rfl
      subst hu
      exact ⟨rest, rfl, fun hsp => by rw [hk] at hsp; cases hsp⟩

theorem kindOf_web {scheme : String} (h : scheme = "http" ∨ scheme = "https") :
    kindOf scheme = .special := by
  rcases h with rfl | rfl <;> rfl

theorem isWeb_iff (u : Url) : u.isWeb = true ↔ u.scheme = "http" ∨ u.scheme = "https" := by
  simp [isWeb]

theorem webUrl?_eq_some {s : String} {u : Url} :
    Net.webUrl? s = some u ↔ parse s = .ok u ∧ (u.scheme = "http" ∨ u.scheme = "https") := by
  rw [← isWeb_iff, Net.webUrl?]
  cases parse s with
  | error e => simp
  | ok v =>
    simp only [Option.ite_none_right_eq_some, Option.some.injEq, Except.ok.injEq]
    constructor
    · rintro ⟨hw, rfl⟩
      exact ⟨rfl, hw⟩
    · rintro ⟨rfl, hw⟩
      exact ⟨hw, rfl⟩

/-- A web address is a web scheme in front of what an authority can be read from. -/
theorem webUrl?_eq_some_iff {s : String} {u : Url} :
    Net.webUrl? s = some u ↔
      ∃ scheme rest, scheme? (significant s) = some (scheme, rest) ∧
        (scheme = "http" ∨ scheme = "https") ∧ afterSlashes scheme (unslashed rest) = .ok u := by
  rw [webUrl?_eq_some]
  constructor
  · rintro ⟨hp, hweb⟩
    obtain ⟨rest, hs, hu⟩ := scheme_of_parse hp
    exact ⟨u.scheme, rest, hs, hweb, hu (kindOf_web hweb)⟩
  · rintro ⟨scheme, rest, hs, hweb, hu⟩
    refine ⟨?_, by rwa [scheme_of_afterSlashes hu]⟩
    simp only [parse, hs, kindOf_web hweb, ← hu, unslashed]

/-- Which web address a text with a path behind it is. -/
theorem webUrl?_append {a x : String} {u : Url} (hx : IsPath x) (he : EndsWell (a ++ x)) :
    Net.webUrl? (a ++ x) = some u ↔
      ∃ scheme rest, scheme? (front a) = some (scheme, rest) ∧
        (scheme = "http" ∨ scheme = "https") ∧
        afterSlashes scheme (unslashed (rest ++ behind x)) = .ok u := by
  rw [webUrl?_eq_some_iff, significant_append hx he, scheme?_append (behind_head hx)]
  constructor
  · rintro ⟨scheme, rest, hs, hweb, hu⟩
    obtain ⟨⟨scheme', rest'⟩, hs', heq⟩ := Option.map_eq_some_iff.1 hs
    cases heq
    exact ⟨scheme, rest', hs', hweb, hu⟩
  · rintro ⟨scheme, rest, hs, hweb, hu⟩
    exact ⟨scheme, rest ++ behind x, by rw [hs]; rfl, hweb, hu⟩

/-- A text as an authority and what stands behind it. -/
theorem exists_authority (cs : List Char) :
    ∃ front rest, cs = front ++ rest ∧ Unended front ∧ IsTail rest := by
  refine ⟨_, _, (cs.takeWhile_append_dropWhile (p := fun c => !endsAuthority .special c)).symm, ?_, ?_⟩
  · intro c hc
    simpa using List.all_eq_true.1 List.all_takeWhile c hc
  · intro c hc
    have hnot := List.head?_dropWhile_not (fun c => !endsAuthority .special c) cs
    simpa [Option.mem_def.1 hc] using hnot

/-- What is behind an authority makes no difference to whether it can be read, and to the host in it. -/
theorem afterSlashes_exchange {scheme : String} {cs t t' : List Char} {u : Url}
    (hweb : scheme = "http" ∨ scheme = "https") (ht : ∀ c ∈ t.head?, c = '/')
    (ht' : ∀ c ∈ t'.head?, c = '/') (h : afterSlashes scheme (cs ++ t) = .ok u) :
    ∃ u', afterSlashes scheme (cs ++ t') = .ok u' ∧ u'.host = u.host := by
  obtain ⟨front, rest, rfl, hfront, hrest⟩ := exists_authority cs
  rw [List.append_assoc] at h ⊢
  obtain ⟨user, host, port, rfl, hall⟩ :=
    afterSlashes_withPath (kindOf_web hweb) hfront (isTail_append hrest ht) h
  exact ⟨_, hall _ (isTail_append hrest ht'), rfl⟩

theorem unslashed_append {cs : List Char} (h : unslashed cs ≠ []) (t : List Char) :
    unslashed (cs ++ t) = unslashed cs ++ t := by
  rw [unslashed, List.dropWhile_append, if_neg (by rwa [List.isEmpty_iff]), unslashed]

theorem unslashed_slashes {cs : List Char} (h : unslashed cs = []) {t : List Char} (ht : ∀ c ∈ t, c = '/') :
    unslashed (cs ++ t) = [] := by
  rw [unslashed, List.dropWhile_append, if_pos (by rwa [List.isEmpty_iff]), List.dropWhile_eq_nil_iff]
  intro c hc
  rw [ht c hc]
  rfl

/-- An address with nothing but slashes behind it stays one with any other path behind it, of the same host. -/
theorem webUrl?_extend {a x y : String} {u : Url} (hx : ∀ c ∈ x.toList, c = '/') (he : EndsWell (a ++ x))
    (hy : IsPath y) (hey : EndsWell (a ++ y)) (h : Net.webUrl? (a ++ x) = some u) :
    ∃ v, Net.webUrl? (a ++ y) = some v ∧ v.host = u.host := by
  have hxp : IsPath x := fun c hc => hx c (List.mem_of_mem_head? hc)
  obtain ⟨scheme, rest, hs, hweb, hu⟩ := (webUrl?_append hxp he).1 h
  have hslashes : ∀ c ∈ behind x, c = '/' := fun c hc => hx c (List.mem_filter.1 hc).1
  -- with nothing but slashes there would be no host
  have hne : unslashed rest ≠ [] := by
    intro hnil
    rw [unslashed_slashes hnil hslashes] at hu
    rcases hweb with rfl | rfl <;> cases hu
  rw [unslashed_append hne] at hu
  obtain ⟨v, hv, hhost⟩ := afterSlashes_exchange hweb (behind_head hxp) (behind_head hy) hu
  exact ⟨v, (webUrl?_append hy hey).2 ⟨scheme, rest, hs, hweb, by rwa [unslashed_append hne]⟩, hhost⟩

end Url

namespace Tracker

open Url

theorem trimSlashes_append (s : String) :
    ∃ x : String, Client.trimSlashes s ++ x = s ∧ ∀ c ∈ x.toList, c = '/' := by
  refine ⟨.ofList (s.toList.reverse.takeWhile (· = '/')).reverse, ?_, ?_⟩
  · rw [Client.trimSlashes, ← String.ofList_append, ← List.reverse_append, List.takeWhile_append_dropWhile,
      List.reverse_reverse, String.ofList_toList]
  · intro c hc
    rw [String.toList_ofList, List.mem_reverse] at hc
    simpa using List.all_eq_true.1 List.all_takeWhile c hc

namespace Client

/-- The path of an issue, but for its first segment. -/
def issuePath (r : Reference) : String :=
  "/" ++ r.owner ++ "/" ++ r.repo ++ "/issues/" ++ toString r.number.toNat

theorem urlText_eq (c : Client) (r : Reference) : c.urlText r = c.apiBase ++ ("/repos" ++ issuePath r) := by
  have hslash : "/repos/" = "/repos" ++ "/" := rfl
  simp only [urlText, issuePath, hslash, String.append_assoc]

theorem isPath_issuePath (r : Reference) : IsPath ("/repos" ++ issuePath r) := by
  intro c hc
  simpa [eq_comm] using hc

theorem endsWell_issuePath (a : String) (r : Reference) : EndsWell (a ++ ("/repos" ++ issuePath r)) := by
  intro c hc
  have hsplit : ∃ cs, (a ++ ("/repos" ++ issuePath r)).toList = cs ++ Nat.toDigits 10 r.number.toNat :=
    ⟨(a ++ ("/repos" ++ ("/" ++ r.owner ++ "/" ++ r.repo ++ "/issues/"))).toList, by simp [issuePath]⟩
  obtain ⟨cs, hcs⟩ := hsplit
  have hne : Nat.toDigits 10 r.number.toNat ≠ [] := Nat.toDigits_ne_nil
  rw [hcs, List.getLast?_append, List.getLast?_eq_some_getLast hne] at hc
  have hmem : c ∈ Nat.toDigits 10 r.number.toNat := by
    rw [← Option.some.inj hc]
    exact List.getLast_mem hne
  have hlow := (Char.isDigit_iff_toNat.1 (Nat.isDigit_of_mem_toDigits (by omega) (by omega) hmem)).1
  exact Nat.lt_of_lt_of_le (by decide : ' '.toNat < '0'.toNat) hlow

end Client

end Tracker

end ForgeBridge
