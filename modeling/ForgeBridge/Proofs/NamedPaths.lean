import ForgeBridge.Proofs.MessageAddresses
import ForgeBridge.Proofs.ReferenceTexts

/-!
# Paths of names

The names in a reference of a text stand for themselves in an address: they are segments of its path as they are
(`withPath_plain`). So all that is put behind the address of a server as names leads to that server, and stands
behind the front of its path (`exists_server`).
-/

namespace ForgeBridge

namespace Url

open Reference (isNameChar IsName)

/-! ## Plain segments -/

theorem holds_mono {set set' : EncodeSet} (hsub : set ⊆ set') {c : Char} (h : set'.holds c = false) :
    set.holds c = false := by
  simp only [EncodeSet.holds, Bool.or_eq_false_iff] at h ⊢
  refine ⟨h.1, Bool.eq_false_iff.2 fun hc => ?_⟩
  exact absurd (List.contains_iff_mem.2 (hsub (List.contains_iff_mem.1 hc))) (by rw [h.2]; exact Bool.false_ne_true)

/-- The characters of names stand for themselves in paths. -/
theorem holds_of_isNameChar {c : Char} (h : isNameChar c = true) : EncodeSet.path.holds c = false := by
  by_cases hlow : c = '_'
  · subst hlow
    decide
  · have halnum : (c.isAlphanum || c = '-') = true := by simpa [isNameChar, hlow] using h
    exact holds_mono (by decide) (Homeserver.holds_of_isAlphanum halnum)

theorem ne_of_isNameChar {c d : Char} (h : isNameChar c = true) (hd : isNameChar d = false) : c ≠ d := by
  rintro rfl
  cases h.symm.trans hd

theorem endsAuthority_of_isNameChar {c : Char} (h : isNameChar c = true) : endsAuthority .special c = false := by
  rw [Bool.eq_false_iff, ne_eq, endsAuthority_special]
  rintro (rfl | rfl | rfl | rfl) <;> cases h

theorem endsPath_of_not_endsAuthority {c : Char} (h : endsAuthority .special c = false) : endsPath c = false := by
  rw [endsAuthority, Bool.or_assoc, Bool.or_eq_false_iff] at h
  exact h.2

namespace Path

theorem not_isDot_of_isName {segment : List Char} (h : ∀ c ∈ segment, isNameChar c = true) :
    isDot segment = false ∧ isDoubleDot segment = false := by
  -- the ways to write a dot start with a character that is in no name
  have hstart : dots.all (·.any (!isNameChar ·)) = true := by decide
  have hnot : ∀ d ∈ dots, ¬d <+: segment := by
    intro d hd hpre
    obtain ⟨c, hc, hname⟩ := List.any_eq_true.1 (List.all_eq_true.1 hstart d hd)
    rw [h c (hpre.subset hc)] at hname
    cases hname
  constructor
  · rw [Bool.eq_false_iff]
    intro hdot
    exact hnot _ (List.contains_iff_mem.1 hdot) (List.prefix_refl _)
  · rw [Bool.eq_false_iff]
    intro hdouble
    obtain ⟨d, hd, hsegment⟩ := List.any_eq_true.1 hdouble
    exact hnot d hd (List.isPrefixOf_iff_prefix.1 (Bool.and_eq_true_iff.1 hsegment).1)

section
variable {kind : SchemeKind}

theorem split_append_slash {c : Char} (hc : isSlash kind c = true) (a b : List Char) :
    split kind (a ++ c :: b) = split kind a ++ split kind b := by
  induction a with
  | nil =>
    obtain ⟨segment, others, hb⟩ := List.exists_cons_of_ne_nil (split_ne_nil kind b)
    simp only [List.nil_append, split, hb, hc, if_true, List.singleton_append]
  | cons x a ih =>
    rw [List.cons_append, split, ih, split]
    obtain ⟨segment, others, ha⟩ := List.exists_cons_of_ne_nil (split_ne_nil kind a)
    rw [ha]
    simp only [List.cons_append]
    split <;> rfl

theorem split_plain {segment : List Char} (h : ∀ c ∈ segment, isSlash kind c = false) :
    split kind segment = [segment] := by
  induction segment with
  | nil => rfl
  | cons c cs ih =>
    obtain ⟨hc, hcs⟩ := List.forall_mem_cons.1 h
    rw [split, ih hcs]
    simp [hc]

theorem split_segments {segment : List Char} {others : List (List Char)}
    (h : ∀ s ∈ segment :: others, ∀ c ∈ s, isSlash kind c = false) :
    split kind (segment ++ others.flatMap ('/' :: ·)) = segment :: others := by
  induction others generalizing segment with
  | nil =>
    rw [List.flatMap_nil, List.append_nil]
    exact split_plain (h segment (.head _))
  | cons other others ih =>
    obtain ⟨hsegment, hothers⟩ := List.forall_mem_cons.1 h
    rw [List.flatMap_cons, List.cons_append, split_append_slash (by rfl), split_plain hsegment, ih hothers]
    rfl

theorem pushAll_append {segments : List (List Char)} (hne : segments ≠ []) (list front : List (List Char)) :
    pushAll kind list (front ++ segments) =
      pushAll kind (front.foldl (push kind · · false) list) segments := by
  induction front generalizing list with
  | nil => rfl
  | cons segment front ih =>
    obtain ⟨next, others, hnext⟩ := List.exists_cons_of_ne_nil (l := front ++ segments) (by simp [hne])
    rw [List.cons_append, List.foldl_cons, ← ih, hnext, pushAll]
    simp

theorem pushAll_plain {segments : List (List Char)} (h : ∀ s ∈ segments, isDot s = false ∧ isDoubleDot s = false)
    (list : List (List Char)) : pushAll .special list segments = list ++ segments := by
  fun_induction pushAll .special list segments with
  | case1 list => exact (List.append_nil list).symm
  | case2 list segment =>
    obtain ⟨hdot, hdouble⟩ := h segment (.head _)
    exact push_eq_append hdot hdouble list
  | case3 list segment others _ ih =>
    obtain ⟨⟨hdot, hdouble⟩, hothers⟩ := List.forall_mem_cons.1 h
    rw [ih hothers, push_eq_append hdot hdouble, List.append_assoc]
    rfl

end

/-- The segments of a path that others are put behind. -/
def start (text : List Char) : List (List Char) :=
  match text with
  | [] => []
  | _ :: rest => ((split .special rest).map (percentEncode .path)).foldl (push .special · · false) []

section
variable {segment : List Char} {others : List (List Char)}

theorem split_names (h : ∀ s ∈ segment :: others, ∀ c ∈ s, isNameChar c = true) :
    (split .special (segment ++ others.flatMap ('/' :: ·))).map (percentEncode .path) = segment :: others := by
  have hslash : ∀ s ∈ segment :: others, ∀ c ∈ s, isSlash .special c = false := by
    intro s hs c hc
    have hend := endsAuthority_of_isNameChar (h s hs c hc)
    rw [endsAuthority, Bool.or_assoc, Bool.or_eq_false_iff] at hend
    exact hend.1
  have hencoded : ∀ s ∈ segment :: others, percentEncode .path s = s := fun s hs =>
    percentEncode_of_not_holds fun c hc => holds_of_isNameChar (h s hs c hc)
  rw [split_segments hslash, List.map_congr_left hencoded, List.map_id']

/-- Names are the segments of a path, as they are. -/
theorem ofText_names (h : ∀ s ∈ segment :: others, ∀ c ∈ s, isNameChar c = true) :
    ofText .special (segment ++ others.flatMap ('/' :: ·)) = segment :: others := by
  rw [ofText, split_names h, pushAll_plain fun s hs => not_isDot_of_isName (h s hs)]
  rfl

/-- They are the last segments of a path that they are put behind. -/
theorem ofText_append_names (h : ∀ s ∈ segment :: others, ∀ c ∈ s, isNameChar c = true) (c : Char) (t : List Char) :
    ofText .special (t ++ (segment :: others).flatMap ('/' :: ·)) = start (c :: t) ++ segment :: others := by
  rw [ofText, List.flatMap_cons, List.cons_append, split_append_slash (by rfl), List.map_append, split_names h,
    pushAll_append (List.cons_ne_nil _ _), pushAll_plain fun s hs => not_isDot_of_isName (h s hs)]
  rfl

end

end Path

/-- Names that are put behind a path are its last segments, as they are. -/
theorem withPath_plain {scheme : String} (hk : kindOf scheme = .special) (user : UserInfo) (host : Option Host)
    (port : Option UInt16) {t : List Char} (ht : IsTail t) (hno : ∀ c ∈ t, endsPath c = false)
    {segments : List (List Char)} (hne : segments ≠ []) (hnames : ∀ s ∈ segments, ∀ c ∈ s, isNameChar c = true) :
    withPath scheme user host port (t ++ segments.flatMap ('/' :: ·)) =
      ⟨scheme, user.username, user.password, host, port, .segments (Path.start t ++ segments), none, none⟩ := by
  obtain ⟨segment, others, rfl⟩ := List.exists_cons_of_ne_nil hne
  have hall : ∀ c ∈ t ++ (segment :: others).flatMap ('/' :: ·), (!endsPath c) = true := by
    intro c hc
    rw [Bool.not_eq_true']
    rcases List.mem_append.1 hc with hc | hc
    · exact hno c hc
    · obtain ⟨s, hs, hc⟩ := List.mem_flatMap.1 hc
      rcases List.mem_cons.1 hc with rfl | hc
      · rfl
      · exact endsPath_of_not_endsAuthority (endsAuthority_of_isNameChar (hnames s hs c hc))
  have htake : (t ++ (segment :: others).flatMap ('/' :: ·)).takeWhile (!endsPath ·) =
      t ++ (segment :: others).flatMap ('/' :: ·) := List.takeWhile_eq_self_iff.2 hall
  have hdrop : (t ++ (segment :: others).flatMap ('/' :: ·)).dropWhile (!endsPath ·) = [] :=
    List.dropWhile_eq_nil_iff.2 hall
  simp only [withPath, hk, htake, hdrop]
  cases t with
  | nil =>
    simp only [List.flatMap_cons, List.nil_append, List.cons_append]
    rw [if_pos (by rfl), Path.ofText_names hnames]
    rfl
  | cons c t =>
    have hc : Path.isSlash .special c = true := by
      have hend := ht c rfl
      have hpath := hno c (.head _)
      rw [endsPath] at hpath
      rwa [endsAuthority, Bool.or_assoc, hpath, Bool.or_false] at hend
    simp only [List.cons_append]
    rw [if_pos hc, Path.ofText_append_names hnames c]
    rfl

/-! ## Addresses with names behind them -/

theorem scheme?_append_of_some {cs rest : List Char} {scheme : String} (h : scheme? cs = some (scheme, rest))
    (t : List Char) : scheme? (cs ++ t) = some (scheme, rest ++ t) := by
  cases cs with
  | nil => cases h
  | cons c cs =>
    simp only [scheme?] at h
    split at h
    · rename_i hc
      split at h
      · rename_i rest' hdrop
        cases h
        have hne : (c :: cs).dropWhile isSchemeChar ≠ [] := by rw [hdrop]; exact List.cons_ne_nil _ _
        have hdrop' : (c :: cs ++ t).dropWhile isSchemeChar = ':' :: (rest ++ t) := by
          rw [List.dropWhile_append, if_neg (by rwa [List.isEmpty_iff]), hdrop]
          rfl
        have htake : (c :: cs ++ t).takeWhile isSchemeChar = (c :: cs).takeWhile isSchemeChar := by
          rw [List.takeWhile_append, if_neg]
          intro hlen
          have hsplit := congrArg List.length ((c :: cs).takeWhile_append_dropWhile (p := isSchemeChar))
          rw [List.length_append, hlen, Nat.add_eq_left, List.length_eq_zero_iff] at hsplit
          exact hne hsplit
        rw [List.cons_append] at hdrop' htake ⊢
        simp only [scheme?, hc, if_true, hdrop', htake]
      · cases h
    · cases h

/-- An address without a query and a fragment has nothing that ends its path. -/
theorem not_endsPath_of_withPath {scheme : String} {user : UserInfo} {host : Option Host} {port : Option UInt16}
    {t : List Char} (hq : (withPath scheme user host port t).query = none)
    (hf : (withPath scheme user host port t).fragment = none) : ∀ c ∈ t, endsPath c = false := by
  have hdrop : t.dropWhile (!endsPath ·) = [] := by
    cases hrest : t.dropWhile (!endsPath ·) with
    | nil => rfl
    | cons c rest =>
      have hend : endsPath c = true := by
        have hnot := List.head?_dropWhile_not (!endsPath ·) t
        rw [hrest] at hnot
        simpa using hnot
      rw [withPath, hrest] at hq hf
      simp only [endsPath, Bool.or_eq_true, decide_eq_true_eq] at hend
      rcases hend with rfl | rfl
      · cases hq
      · cases hf
  intro c hc
  simpa using List.dropWhile_eq_nil_iff.1 hdrop c hc

/-- So it is where the address is read behind its scheme. -/
theorem not_endsPath_of_afterSlashes {scheme : String} {cs : List Char} {u : Url} (hk : kindOf scheme = .special)
    (h : afterSlashes scheme cs = .ok u) (hquery : u.query = none) (hfragment : u.fragment = none) :
    ∀ c ∈ cs, endsPath c = false := by
  obtain ⟨authority, t, rfl, hauthority, htail⟩ := exists_authority cs
  obtain ⟨user, host, port, heq, -⟩ := afterSlashes_withPath hk hauthority htail h
  rw [heq] at hquery hfragment
  intro c hc
  rcases List.mem_append.1 hc with hc | hc
  · exact endsPath_of_not_endsAuthority (hauthority c hc)
  · exact not_endsPath_of_withPath hquery hfragment c hc

/-- Of slashes alone no web address is made. -/
theorem unslashed_ne_nil {scheme : String} {rest : List Char} {u : Url} (hk : kindOf scheme = .special)
    (h : afterSlashes scheme (unslashed rest) = .ok u) : unslashed rest ≠ [] := by
  intro hnil
  rw [hnil] at h
  simp [afterSlashes, hk, userInfo, hostText, hostOf, SchemeKind.isSpecial, bind, Except.bind] at h

end Url

namespace Tracker

open Url

/-- The address of a server without the slashes at its end: the scheme, and what an authority and the front of a path
are read from. -/
theorem exists_rest {base : String} {u : Url} (hu : Net.webUrl? base = some u) (hquery : u.query = none)
    (hfragment : u.fragment = none) :
    ∃ rest, scheme? (front (Client.trimSlashes base)) = some (u.scheme, rest) ∧ unslashed rest ≠ [] ∧
      (∀ c ∈ unslashed rest, endsPath c = false) ∧
      (EndsWell base → ∃ slashes, (∀ c ∈ slashes, c = '/') ∧
        afterSlashes u.scheme (unslashed rest ++ slashes) = .ok u) := by
  obtain ⟨hparse, hweb⟩ := webUrl?_eq_some.1 hu
  have hk := kindOf_web hweb
  obtain ⟨rest₀, hscheme₀, hread₀⟩ := scheme_of_parse hparse
  replace hread₀ := hread₀ hk
  obtain ⟨x, hx, hslashes⟩ := trimSlashes_append base
  have hpath : IsPath x := fun c hc => hslashes c (List.mem_of_mem_head? hc)
  have hbehind : ∀ c ∈ behind x, c = '/' := fun c hc => hslashes c (List.mem_filter.1 hc).1
  obtain ⟨blanks, hblanks, hle, hnone⟩ := front_eq base
  -- the text up to the blanks at its end, read with them and without the slashes
  have hwhole := scheme?_append_of_some hscheme₀ blanks
  rw [← hblanks] at hwhole
  have hwhole' := hwhole
  rw [← hx, front_append hpath, scheme?_append (behind_head hpath)] at hwhole'
  obtain ⟨⟨scheme, rest⟩, hscheme, heq⟩ := Option.map_eq_some_iff.1 hwhole'
  obtain ⟨rfl, hrest⟩ := Prod.mk.inj heq
  have hne₀ := unslashed_ne_nil hk hread₀
  have hne : unslashed rest ≠ [] := by
    intro hnil
    have hall := unslashed_slashes hnil hbehind
    rw [hrest, unslashed_append hne₀] at hall
    exact hne₀ (List.append_eq_nil_iff.1 hall).1
  have hsame : unslashed rest ++ behind x = unslashed rest₀ ++ blanks := by
    rw [← unslashed_append hne, hrest, unslashed_append hne₀]
  refine ⟨rest, hscheme, hne, ?_, fun he => ⟨behind x, hbehind, ?_⟩⟩
  · intro c hc
    have hmem : c ∈ unslashed rest₀ ++ blanks := hsame ▸ List.mem_append_left _ hc
    rcases List.mem_append.1 hmem with hmem | hmem
    · exact not_endsPath_of_afterSlashes hk hread₀ hquery hfragment c hmem
    · have hblank := hle c hmem
      rw [endsPath, Bool.or_eq_false_iff, decide_eq_false_iff_not, decide_eq_false_iff_not]
      constructor <;> rintro rfl <;> exact absurd hblank (by decide)
  · rw [hsame, hnone he, List.append_nil]
    exact hread₀

/-- All that is put behind the address of a server as names leads to that server, and stands behind the front of its
path. -/
theorem exists_server {base : String} {u : Url} (hu : Net.webUrl? base = some u) (hquery : u.query = none)
    (hfragment : u.fragment = none) :
    ∃ (server : Url) (front : List (List Char)), server.query = none ∧ (EndsWell base → server = u) ∧
      ∀ (x : String) (segments : List (List Char)), IsPath x → EndsWell (Client.trimSlashes base ++ x) →
        segments ≠ [] → (∀ s ∈ segments, ∀ c ∈ s, Reference.isNameChar c = true) →
        behind x = segments.flatMap ('/' :: ·) → ∀ v, Net.webUrl? (Client.trimSlashes base ++ x) = some v →
          v = { server with path := .segments (front ++ segments) } := by
  obtain ⟨-, hweb⟩ := webUrl?_eq_some.1 hu
  have hk := kindOf_web hweb
  obtain ⟨rest, hscheme, hne, hno, hwell⟩ := exists_rest hu hquery hfragment
  obtain ⟨authority, t, ht, hauthority, htail⟩ := exists_authority (unslashed rest)
  have hnot : ∀ c ∈ t, endsPath c = false := fun c hc => hno c (by rw [ht]; exact List.mem_append_right _ hc)
  have hread : ∀ (x : String) (v : Url), IsPath x → EndsWell (Client.trimSlashes base ++ x) →
      Net.webUrl? (Client.trimSlashes base ++ x) = some v →
      afterSlashes u.scheme (authority ++ (t ++ behind x)) = .ok v := by
    intro x v hx he hv
    obtain ⟨rest', hscheme', hread⟩ := scheme_of_parse (webUrl?_eq_some.1 hv).1
    rw [significant_append hx he, scheme?_append (behind_head hx), hscheme] at hscheme'
    obtain ⟨hs, rfl⟩ := Prod.mk.inj (Option.some.inj hscheme')
    rw [← hs, unslashed_append hne, ht, List.append_assoc] at hread
    exact hread hk
  by_cases hsome : ∃ t' v, IsTail t' ∧ afterSlashes u.scheme (authority ++ t') = .ok v
  · obtain ⟨t', v, ht', hv⟩ := hsome
    obtain ⟨user, host, port, -, hall⟩ := afterSlashes_withPath hk hauthority ht' hv
    have hserver : ∃ server : Url, server.query = none ∧ (EndsWell base → server = u) ∧
        ∀ path, { server with path := path } =
          (⟨u.scheme, user.username, user.password, some host, port, path, none, none⟩ : Url) := by
      by_cases he : EndsWell base
      · obtain ⟨slashes, hslashes, hread⟩ := hwell he
        rw [ht, List.append_assoc,
          hall _ (isTail_append htail fun c hc => hslashes c (List.mem_of_mem_head? hc))] at hread
        have hu' := (Except.ok.inj hread).symm
        refine ⟨u, hquery, fun _ => rfl, fun path => ?_⟩
        have hname : u.username = user.username := by rw [hu']; rfl
        have hpassword : u.password = user.password := by rw [hu']; rfl
        have hhost : u.host = some host := by rw [hu']; rfl
        have hport : u.port = port := by rw [hu']; rfl
        rw [hname, hpassword, hhost, hport, hquery, hfragment]
      · exact ⟨⟨u.scheme, user.username, user.password, some host, port, .flat "", none, none⟩, rfl,
          fun h => absurd h he, fun _ => rfl⟩
    obtain ⟨server, hq, hsame, hpath⟩ := hserver
    refine ⟨server, Path.start t, hq, hsame, fun x segments hx he hsegments hnames hbehind v hv => ?_⟩
    have hsame' := hread x v hx he hv
    rw [hall _ (isTail_append htail (behind_head hx))] at hsame'
    rw [hpath, ← withPath_plain hk user (some host) port htail hnot hsegments hnames, ← hbehind]
    exact (Except.ok.inj hsame').symm
  · -- no request can be built
    refine ⟨u, [], hquery, fun _ => rfl, fun x segments hx he _ _ _ v hv => absurd ?_ hsome⟩
    exact ⟨t ++ behind x, v, isTail_append htail (behind_head hx), hread x v hx he hv⟩

namespace Client

/-- The segments of the address of an issue, behind those of the server. -/
def issueSegments (r : Reference) : List (List Char) :=
  ["repos".toList, r.owner.toList, r.repo.toList, "issues".toList, Nat.toDigits 10 r.number.toNat]

section
variable {r : Reference}

theorem isNameChar_issueSegments (hr : r.IsProper) :
    ∀ s ∈ issueSegments r, ∀ c ∈ s, Reference.isNameChar c = true := by
  have hdigits : ∀ c ∈ Nat.toDigits 10 r.number.toNat, Reference.isNameChar c = true := fun c hc =>
    Reference.isNameChar_of_isDigit (Nat.isDigit_of_mem_toDigits (by omega) (by omega) hc)
  have hrepos : "repos".toList.all Reference.isNameChar = true := by decide
  have hissues : "issues".toList.all Reference.isNameChar = true := by decide
  simp only [issueSegments, List.forall_mem_cons]
  exact ⟨List.all_eq_true.1 hrepos, hr.1.2, hr.2.2, List.all_eq_true.1 hissues, hdigits, List.forall_mem_nil _⟩

theorem counts_of_isNameChar {c : Char} (h : Reference.isNameChar c = true) : Path.counts c = true := by
  simp only [Path.counts, Bool.and_eq_true, decide_eq_true_eq]
  refine ⟨⟨?_, ?_⟩, ?_⟩ <;> exact ne_of_isNameChar h rfl

theorem behind_issuePath (hr : r.IsProper) :
    behind ("/repos" ++ issuePath r) = (issueSegments r).flatMap ('/' :: ·) := by
  have htext : ("/repos" ++ issuePath r).toList = (issueSegments r).flatMap ('/' :: ·) := by
    simp [issuePath, issueSegments]
  rw [behind, htext, List.filter_eq_self]
  intro c hc
  obtain ⟨s, hs, hc⟩ := List.mem_flatMap.1 hc
  rcases List.mem_cons.1 hc with rfl | hc
  · rfl
  · exact counts_of_isNameChar (isNameChar_issueSegments hr s hs c hc)

end

end Client

end Tracker

end ForgeBridge
