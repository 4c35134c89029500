import ForgeBridge.Proofs.HostTexts
import ForgeBridge.Proofs.NamedPaths

/-!
# Which requests can be built

A URL of the web is the address of a request just when its host holds none of four characters and it is short enough
without its user: all else that a request is strict about is encoded in a URL, or is not in a host (`isAddress_iff`).
So a client of a server makes the requests for all issues but those whose address is too long
(`request?_isSome_iff`).
-/

namespace ForgeBridge

namespace Net.Uri

/-! ## Reading the name of a server -/

namespace ServerName

theorem step_serverChar {c : Char} (h : isServerChar c = true) (s : ServerName) :
    s.step c = some { s with hasPercent := s.hasPercent || c = '%', endsInAt := false } := by
  have hne : ∀ d ∈ [':', '[', ']', '@'], c ≠ d := by
    rintro d hd rfl
    have hnone : ∀ d ∈ [':', '[', ']', '@'], isServerChar d = false := Text.forall_mem_of_all (by decide)
    exact Bool.false_ne_true ((hnone c hd).symm.trans h)
  simp only [List.forall_mem_cons] at hne
  obtain ⟨hcolon, hopen, hclose, hat, -⟩ := hne
  by_cases hpercent : c = '%'
  · subst hpercent
    simp [step]
  · simp [step, hcolon, hopen, hclose, hat, hpercent, h]

/-- Over a text without brackets and at signs, the colons are counted. -/
theorem foldlM_step {cs : List Char} {s : ServerName} (h : ∀ c ∈ cs, c = ':' ∨ isServerChar c = true)
    (hcolons : s.colons + cs.count ':' ≤ 8) :
    cs.foldlM step s = some ⟨s.colons + cs.count ':', s.hasPercent || cs.contains '%', s.isOpened, s.isClosed,
      s.endsInAt && cs.isEmpty⟩ := by
  induction cs generalizing s with
  | nil => simp
  | cons c cs ih =>
    obtain ⟨hc, hcs⟩ := List.forall_mem_cons.1 h
    rw [List.foldlM_cons]
    rcases hc with rfl | hc
    · rw [List.count_cons_self] at hcolons
      have hstep : s.step ':' = some { s with colons := s.colons + 1, endsInAt := false } := by
        have hfew : ¬8 ≤ s.colons := by omega
        simp [step, hfew]
      rw [hstep, Option.bind_eq_bind, Option.bind_some, ih hcs (by dsimp only; omega), List.count_cons_self]
      simp [Nat.add_assoc, Nat.add_comm 1]
    · have hne : c ≠ ':' := by
        rintro rfl
        cases hc
      rw [List.count_cons_of_ne hne] at hcolons
      rw [step_serverChar hc, Option.bind_eq_bind, Option.bind_some, ih hcs (by exact hcolons),
        List.count_cons_of_ne hne]
      simp [eq_comm, Bool.or_assoc]

/-- A name with one of the four characters cannot be read. -/
theorem foldlM_step_odd {cs : List Char} {c : Char} (hc : c ∈ cs) (hodd : c ∈ Url.oddities) (s : ServerName) :
    cs.foldlM step s = none := by
  induction cs generalizing s with
  | nil => cases hc
  | cons d cs ih =>
    rw [List.foldlM_cons, Option.bind_eq_bind]
    rcases List.mem_cons.1 hc with rfl | hc
    · have hstep : s.step c = none := by
        have hnone : ∀ d ∈ Url.oddities, d ∉ [':', '[', ']', '@', '%'] ∧ isServerChar d = false :=
          Text.forall_mem_of_all (by decide)
        obtain ⟨hmarks, hchar⟩ := hnone c hodd
        simp only [List.mem_cons, List.not_mem_nil, or_false, not_or] at hmarks
        simp [step, hmarks, hchar]
      rw [hstep]
      rfl
    · cases s.step d with
      | none => rfl
      | some s' => exact ih hc s'

end ServerName

/-! ## Reading a path -/

theorem pathOf?_append {path query fragment : List Char} (hpath : ∀ c ∈ path, isPathChar c = true)
    (hquery : query = [] ∨ ∃ cs, query = '?' :: cs ∧ ∀ c ∈ cs, isQueryChar c = true)
    (hfragment : ∀ c ∈ fragment.head?, c = '#') : pathOf? (path ++ query ++ fragment) = some path := by
  have hnot {class_ : Char → Bool} {c d : Char} (hc : class_ c = true) (hd : class_ d = false) : c ≠ d := by
    rintro rfl
    exact Bool.false_ne_true (hd.symm.trans hc)
  have hstop : ∀ c ∈ fragment.head?, decide (c ≠ '#') = false := fun c hc => by rw [hfragment c hc]; rfl
  have hcounted : (path ++ query ++ fragment).takeWhile (· ≠ '#') = path ++ query := by
    refine takeWhile_run (fun c hc => decide_eq_true ?_) hstop
    rcases List.mem_append.1 hc with hc | hc
    · exact hnot (hpath c hc) rfl
    · rcases hquery with rfl | ⟨cs, rfl, hcs⟩
      · cases hc
      · rcases List.mem_cons.1 hc with rfl | hc
        · decide
        · exact hnot (hcs c hc) rfl
  have hplain : ∀ c ∈ path, decide (c ≠ '?') = true := fun c hc => decide_eq_true (hnot (hpath c hc) rfl)
  have hends : ∀ c ∈ query.head?, decide (c ≠ '?') = false := by
    rcases hquery with rfl | ⟨cs, rfl, -⟩ <;> rintro c ⟨⟩
    rfl
  have hall : ((path ++ query).dropWhile (· ≠ '?')).drop 1 = query.drop 1 := by
    rw [dropWhile_run hplain hends]
  have hqueries : (query.drop 1).all isQueryChar = true := by
    rcases hquery with rfl | ⟨cs, rfl, hcs⟩
    · rfl
    · exact List.all_eq_true.2 hcs
  simp only [pathOf?, hcounted, takeWhile_run hplain hends, hall, List.all_eq_true.2 hpath, hqueries, Bool.and_self,
    if_true]

/-- Where the path can be read, an address depends on its server. -/
theorem pathBehind?_isSome_iff {scheme server rest path : List Char} (hscheme : scheme.length ≤ schemeLimit)
    (hserver : ∀ c ∈ server, endsServer c = false) (hne : server ≠ []) (hstop : ∀ c ∈ rest.head?, endsServer c = true)
    (hpath : pathOf? rest = some path) :
    (pathBehind? scheme (server ++ rest)).isSome = true ↔
      ∃ s, server.foldlM ServerName.step .empty = some s ∧ s.isComplete = true := by
  have hname : (server ++ rest).takeWhile (!endsServer ·) = server :=
    takeWhile_run (fun c hc => by rw [hserver c hc]; rfl) (fun c hc => by rw [hstop c hc]; rfl)
  simp only [pathBehind?, if_neg (Nat.not_lt.2 hscheme), serverOf?, hname, List.drop_left]
  cases hs : server.foldlM ServerName.step .empty with
  | none => simp
  | some s =>
    cases hcomplete : s.isComplete with
    | false => simp [hcomplete]
    | true => simp [hcomplete, hne, hpath]

end Net.Uri

namespace Url

open Net.Uri

/-! ## URLs of the web -/

/-- The host of a URL holds none of the characters that no server of a request may hold. -/
def HasPlainHost (u : Url) : Prop := ∀ host ∈ u.host, ∀ c ∈ host.display.toList, c ∉ oddities

instance (u : Url) : Decidable u.HasPlainHost :=
  decidable_of_iff (u.host.all (·.display.toList.all (· ∉ oddities)) = true)
    (by simp only [HasPlainHost, Option.all_eq_true, List.all_eq_true, decide_eq_true_eq, Option.mem_def])

/-- What the parts of a URL of the web hold. -/
structure IsRead (u : Url) : Prop where
  web : u.scheme = "http" ∨ u.scheme = "https"
  username : ∀ c ∈ u.username.toList, isServerChar c = true
  password : ∀ p ∈ u.password, ∀ c ∈ p.toList, isServerChar c = true
  host : ∃ host, u.host = some host ∧ Looks host.display.toList
  path : ∃ segments, u.path = .segments segments ∧ segments ≠ [] ∧ Path.Consists (isPathChar · = true) segments
  query : ∀ q ∈ u.query, ∀ c ∈ q.toList, isQueryChar c = true

theorem IsRead.looks {u : Url} (h : u.IsRead) {host : Host} (hhost : u.host = some host) :
    Looks host.display.toList := by
  obtain ⟨host', hhost', hlooks⟩ := h.host
  rwa [Option.some.inj (hhost.symm.trans hhost')]

theorem lt_of_not_holds {set : EncodeSet} {c : Char} (h : set.holds c = false) : c.toNat < 128 := by
  simp only [EncodeSet.holds, Bool.or_eq_false_iff, decide_eq_false_iff_not] at h
  have hle : c.toNat ≤ '~'.toNat := Char.not_lt.1 h.1.2
  exact Nat.lt_of_le_of_lt hle (by decide)

/-- What is encoded for a part of a URL may stand in that part of a request, if the characters that are not encoded may. -/
theorem forall_percentEncode {set : EncodeSet} {class_ : Char → Bool}
    (halphabet : ∀ c ∈ percentAlphabet, class_ c = true)
    (hcodes : ∀ n < 128, set.holds (.ofNat n) = false → class_ (.ofNat n) = true) (cs : List Char) :
    ∀ c ∈ percentEncode set cs, class_ c = true := by
  intro c hc
  rcases mem_percentEncode hc with hin | ⟨-, hnot⟩
  · exact halphabet c hin
  · have hascii := Text.forall_ascii (P := fun c => set.holds c = false → class_ c = true) hcodes (lt_of_not_holds hnot)
    exact hascii hnot

theorem isServerChar_userInfoOf (cs : List Char) :
    (∀ c ∈ (userInfoOf cs).username.toList, isServerChar c = true) ∧
      ∀ p ∈ (userInfoOf cs).password, ∀ c ∈ p.toList, isServerChar c = true := by
  have hencoded (cs : List Char) :
      ∀ c ∈ (String.ofList (percentEncode .userinfo cs)).toList, isServerChar c = true := by
    rw [String.toList_ofList]
    exact forall_percentEncode (Text.forall_mem_of_all (by decide +kernel)) (by decide +kernel) cs
  unfold userInfoOf
  split
  · rename_i name password _
    refine ⟨hencoded name, ?_⟩
    dsimp only
    split
    · exact nofun
    · rintro p ⟨⟩
      exact hencoded password
  · exact ⟨hencoded cs, nofun⟩

namespace Path

theorem pushAll_ne_nil {kind : SchemeKind} {segments : List (List Char)} (hne : segments ≠ []) (list : List (List Char)) :
    pushAll kind list segments ≠ [] := by
  fun_induction pushAll kind list segments with
  | case1 list => exact absurd rfl hne
  | case2 list segment =>
    unfold push
    split
    · simp
    · split
      · simp
      · split <;> simp
  | case3 list segment others hothers ih => exact ih hothers

theorem ofText_special_ne_nil (cs : List Char) : ofText .special cs ≠ [] := by
  have hne : (split .special cs).map (percentEncode .path) ≠ [] := by simp [split_ne_nil]
  exact pushAll_ne_nil hne []

/-- A path of the web holds what may stand in that of a request. -/
theorem isPathChar_ofText (cs : List Char) : Consists (isPathChar · = true) (ofText .special cs) := by
  refine consists_ofText (fun c hnot _ => ?_) cs
  have hascii := Text.forall_ascii (P := fun c => EncodeSet.path.holds c = false → isPathChar c = true) (by decide +kernel)
    (lt_of_not_holds hnot)
  exact hascii hnot

end Path

theorem isRead_withPath {scheme : String} (hweb : scheme = "http" ∨ scheme = "https") {user : UserInfo}
    (huser : user = .absent ∨ ∃ front, user = userInfoOf front) {text : List Char} {host : Host}
    (hhost : Host.ofText text = .ok host) (port : Option UInt16) (rest : List Char) :
    (withPath scheme user (some host) port rest).IsRead := by
  have hk := kindOf_web hweb
  have hchars : (∀ c ∈ user.username.toList, isServerChar c = true) ∧
      ∀ p ∈ user.password, ∀ c ∈ p.toList, isServerChar c = true := by
    rcases huser with rfl | ⟨front, rfl⟩
    · exact ⟨nofun, nofun⟩
    · exact isServerChar_userInfoOf front
  refine ⟨hweb, hchars.1, hchars.2, ⟨host, rfl, looks_of_ofText hhost⟩, ⟨_, rfl, ?_⟩, ?_⟩
  · rw [hk]
    split
    · exact ⟨List.cons_ne_nil _ _, List.forall_mem_singleton.2 (List.forall_mem_nil _)⟩
    · exact ⟨Path.ofText_special_ne_nil _, Path.isPathChar_ofText _⟩
  · simp only [withPath, hk, tail]
    split
    · rintro q ⟨⟩
      rw [String.toList_ofList]
      exact forall_percentEncode (Text.forall_mem_of_all (by decide +kernel)) (by decide +kernel) _
    · exact nofun

theorem isRead_of_webUrl? {s : String} {u : Url} (h : Net.webUrl? s = some u) : u.IsRead := by
  obtain ⟨scheme, rest, -, hweb, hu⟩ := webUrl?_eq_some_iff.1 h
  obtain ⟨user, text, host, port, rest', huser, hhost, rfl⟩ := parts_of_afterSlashes (kindOf_web hweb) hu
  exact isRead_withPath hweb huser hhost port rest'

/-! ## The server in a URL -/

/-- The port of a URL behind a colon. -/
def portText (u : Url) : String :=
  match u.port with
  | some port => ":" ++ toString port.toNat
  | none => ""

def fragmentText (u : Url) : String :=
  match u.fragment with
  | some fragment => "#" ++ fragment
  | none => ""

/-- The server that a URL names for a host. -/
def serverText (u : Url) (host : Host) : List Char :=
  u.credentials.toList ++ (host.display.toList ++ u.portText.toList)

theorem toList_display {u : Url} {host : Host} (h : u.host = some host) :
    u.display.toList = u.scheme.toList ++
      ':' :: '/' :: '/' :: (u.serverText host ++ (u.target.toList ++ u.fragmentText.toList)) := by
  have hslashes : "//".toList = ['/', '/'] := rfl
  obtain ⟨scheme, username, password, host', port, path, query, fragment⟩ := u
  obtain rfl : host' = some host := h
  cases port <;> cases fragment <;> simp [display, serverText, portText, fragmentText, hslashes]

theorem count_colon {cs : List Char} (h : ∀ c ∈ cs, isServerChar c = true) : cs.count ':' = 0 := by
  rw [List.count_eq_zero]
  intro hmem
  cases h ':' hmem

/-- A user and the at sign behind it leave nothing to count. -/
theorem foldlM_step_user {cs : List Char} (h : ∀ c ∈ cs, c = ':' ∨ isServerChar c = true) (hcolons : cs.count ':' ≤ 8) :
    (cs ++ ['@']).foldlM ServerName.step .empty = some ⟨0, false, false, false, true⟩ := by
  have hall := ServerName.foldlM_step (s := .empty) h (by rwa [ServerName.empty, Nat.zero_add])
  rw [List.foldlM_append, hall]
  rfl

theorem foldlM_step_credentials {u : Url} (h : u.IsRead) :
    ∃ atEnd, u.credentials.toList.foldlM ServerName.step .empty = some ⟨0, false, false, false, atEnd⟩ := by
  unfold credentials
  cases hp : u.password with
  | some password =>
    have hpassword := h.password password hp
    have hat : "@".toList = ['@'] := rfl
    have hcolon : ":".toList = [':'] := rfl
    refine ⟨true, ?_⟩
    simp only [String.toList_append, hat, hcolon]
    refine foldlM_step_user (fun c hc => ?_) ?_
    · rcases List.mem_append.1 hc with hc | hc
      · rcases List.mem_append.1 hc with hc | hc
        · exact .inr (h.username c hc)
        · exact .inl (List.mem_singleton.1 hc)
      · exact .inr (hpassword c hc)
    · rw [List.count_append, List.count_append, count_colon h.username, count_colon hpassword]
      decide
  | none =>
    dsimp only
    split
    · exact ⟨false, rfl⟩
    · refine ⟨true, ?_⟩
      rw [String.toList_append]
      exact foldlM_step_user (fun c hc => .inr (h.username c hc)) (by rw [count_colon h.username]; decide)

/-- A literal text leaves no mark, if it is not empty. -/
theorem foldlM_step_literal {cs : List Char} (h : ∀ c ∈ cs, c = ':' ∨ IsLiteral c) (hne : cs ≠ []) {colons : Nat}
    (hcolons : colons + cs.count ':' ≤ 8) (opened closed atEnd : Bool) :
    cs.foldlM ServerName.step ⟨colons, false, opened, closed, atEnd⟩ =
      some ⟨colons + cs.count ':', false, opened, closed, false⟩ := by
  have hchars : ∀ c ∈ cs, c = ':' ∨ isServerChar c = true := fun c hc => (h c hc).imp_right And.left
  have hpercent : cs.contains '%' = false := by
    rw [List.contains_eq_mem, decide_eq_false_iff_not]
    intro hmem
    rcases h '%' hmem with hcolon | ⟨-, hnot⟩
    · cases hcolon
    · exact hnot rfl
  rw [ServerName.foldlM_step hchars hcolons, hpercent, List.isEmpty_eq_false_iff.2 hne, Bool.and_false]
  rfl

theorem foldlM_step_host {text : List Char} (h : Looks text) (hplain : ∀ c ∈ text, c ∉ oddities) (atEnd : Bool) :
    ∃ inBrackets, text.foldlM ServerName.step ⟨0, false, false, false, atEnd⟩ =
      some ⟨0, false, inBrackets, inBrackets, false⟩ := by
  cases h with
  | name nonempty chars =>
    have hliteral : ∀ c ∈ text, IsLiteral c := fun c hc => (chars c hc).resolve_right (hplain c hc)
    have hcolons := count_colon fun c hc => (hliteral c hc).1
    refine ⟨false, ?_⟩
    rw [foldlM_step_literal (fun c hc => .inr (hliteral c hc)) nonempty (by omega), hcolons]
  | bracketed inner eq chars colons =>
    have hopen : ServerName.step ⟨0, false, false, false, atEnd⟩ '[' = some ⟨0, false, true, false, false⟩ := rfl
    have hclose (colons : Nat) :
        ServerName.step ⟨colons, false, true, false, false⟩ ']' = some ⟨0, false, true, true, false⟩ := rfl
    refine ⟨true, ?_⟩
    rw [eq, List.foldlM_cons, hopen, Option.bind_eq_bind, Option.bind_some, List.foldlM_append]
    by_cases hnil : inner = []
    · subst hnil
      rfl
    · rw [foldlM_step_literal chars hnil (by omega), Option.bind_eq_bind, Option.bind_some, List.foldlM_cons, hclose]
      rfl

theorem foldlM_step_port (u : Url) (inBrackets : Bool) :
    ∃ colons ≤ 1, u.portText.toList.foldlM ServerName.step ⟨0, false, inBrackets, inBrackets, false⟩ =
      some ⟨colons, false, inBrackets, inBrackets, false⟩ := by
  unfold portText
  cases u.port with
  | none => exact ⟨0, by decide, rfl⟩
  | some port =>
    have hdigits : ∀ c ∈ (toString port.toNat).toList, IsLiteral c := Net.isLiteral_toString
    have htext : (":" ++ toString port.toNat).toList = ':' :: (toString port.toNat).toList := String.toList_append
    have hcount : (':' :: (toString port.toNat).toList).count ':' = 1 := by
      rw [List.count_cons_self, count_colon fun c hc => (hdigits c hc).1]
    dsimp only
    refine ⟨1, by decide, ?_⟩
    rw [htext, foldlM_step_literal (List.forall_mem_cons.2 ⟨.inl rfl, fun c hc => .inr (hdigits c hc)⟩)
      (List.cons_ne_nil _ _) (by omega), hcount]

/-- The server of a URL can be read just when its host is plain. -/
theorem foldlM_step_server {u : Url} (h : u.IsRead) {host : Host} (hhost : u.host = some host) :
    (∃ s, (u.serverText host).foldlM ServerName.step .empty = some s ∧ s.isComplete = true) ↔ u.HasPlainHost := by
  constructor
  · rintro ⟨s, hs, -⟩ host' hhost' c hc hodd
    obtain rfl : host = host' := Option.some.inj (hhost.symm.trans hhost')
    have hmem : c ∈ u.serverText host := List.mem_append_right _ (List.mem_append_left _ hc)
    rw [ServerName.foldlM_step_odd hmem hodd] at hs
    cases hs
  · intro hplain
    obtain ⟨atEnd, huser⟩ := foldlM_step_credentials h
    obtain ⟨inBrackets, hname⟩ := foldlM_step_host (h.looks hhost) (hplain host hhost) atEnd
    obtain ⟨colons, hfew, hport⟩ := foldlM_step_port u inBrackets
    refine ⟨⟨colons, false, inBrackets, inBrackets, false⟩, ?_, ?_⟩
    · rw [serverText, List.foldlM_append, huser, Option.bind_eq_bind, Option.bind_some, List.foldlM_append, hname,
        Option.bind_eq_bind, Option.bind_some, hport]
    · simp [ServerName.isComplete, hfew]

theorem not_endsServer_of_isServerChar {c : Char} (h : isServerChar c = true) : endsServer c = false := by
  rw [Bool.eq_false_iff]
  intro hends
  simp only [endsServer, Bool.or_eq_true, decide_eq_true_eq] at hends
  rcases hends with (rfl | rfl) | rfl <;> cases h

theorem not_endsServer_credentials {u : Url} (h : u.IsRead) : ∀ c ∈ u.credentials.toList, endsServer c = false := by
  have husername : ∀ c ∈ u.username.toList, endsServer c = false := fun c hc =>
    not_endsServer_of_isServerChar (h.username c hc)
  have hat : ∀ c ∈ "@".toList, endsServer c = false := Text.forall_mem_of_all (by decide)
  have hcolon : ∀ c ∈ ":".toList, endsServer c = false := Text.forall_mem_of_all (by decide)
  unfold credentials
  cases hp : u.password with
  | some password =>
    have hpassword : ∀ c ∈ password.toList, endsServer c = false := fun c hc =>
      not_endsServer_of_isServerChar (h.password password hp c hc)
    simp only [String.toList_append, List.forall_mem_append]
    exact ⟨⟨⟨husername, hcolon⟩, hpassword⟩, hat⟩
  | none =>
    dsimp only
    split
    · rintro c ⟨⟩
    · simp only [String.toList_append, List.forall_mem_append]
      exact ⟨husername, hat⟩

theorem Looks.not_endsServer {text : List Char} (h : Looks text) : ∀ c ∈ text, endsServer c = false := by
  intro c hc
  cases h with
  | name nonempty chars =>
    have hodd : ∀ c ∈ oddities, endsServer c = false := Text.forall_mem_of_all (by decide)
    rcases chars c hc with hliteral | hmem
    · exact not_endsServer_of_isServerChar hliteral.1
    · exact hodd c hmem
  | bracketed inner eq chars colons =>
    rw [eq, List.mem_cons, List.mem_append, List.mem_singleton] at hc
    rcases hc with rfl | hc | rfl
    · rfl
    · rcases chars c hc with rfl | hliteral
      · rfl
      · exact not_endsServer_of_isServerChar hliteral.1
    · rfl

theorem not_endsServer_portText (u : Url) : ∀ c ∈ u.portText.toList, endsServer c = false := by
  unfold portText
  cases u.port with
  | none => rintro c ⟨⟩
  | some port =>
    have htext : (":" ++ toString port.toNat).toList = ':' :: (toString port.toNat).toList := String.toList_append
    dsimp only
    rw [htext]
    exact List.forall_mem_cons.2 ⟨rfl, fun c hc => not_endsServer_of_isServerChar (Net.isLiteral_toString c hc).1⟩

/-- The server of a URL is read to its end. -/
theorem not_endsServer {u : Url} (h : u.IsRead) {host : Host} (hhost : u.host = some host) :
    ∀ c ∈ u.serverText host, endsServer c = false := by
  simp only [serverText, List.forall_mem_append]
  exact ⟨not_endsServer_credentials h, (h.looks hhost).not_endsServer, not_endsServer_portText u⟩

/-! ## Addresses of requests -/

/-- What stands behind the server in a URL starts with a slash, and its path can be read. -/
theorem exists_target {u : Url} (h : u.IsRead) :
    ∃ cs path, u.target.toList ++ u.fragmentText.toList = '/' :: cs ∧ pathOf? ('/' :: cs) = some path := by
  obtain ⟨segments, hpath, hne, hchars⟩ := h.path
  obtain ⟨segment, others, rfl⟩ := List.exists_cons_of_ne_nil hne
  have hdisplay : u.path.display.toList = (segment :: others).flatMap ('/' :: ·) := by
    rw [hpath, Path.display, String.toList_ofList]
  have hall : ∀ c ∈ u.path.display.toList, isPathChar c = true := by
    intro c hc
    rw [hdisplay] at hc
    obtain ⟨s, hs, hc⟩ := List.mem_flatMap.1 hc
    rcases List.mem_cons.1 hc with rfl | hc
    · decide
    · exact hchars s hs c hc
  have hfragment : ∀ c ∈ u.fragmentText.toList.head?, c = '#' := by
    unfold fragmentText
    cases u.fragment with
    | none => rintro c ⟨⟩
    | some fragment =>
      rw [String.toList_append]
      rintro c ⟨⟩
      rfl
  have htarget : ∃ query : List Char, u.target.toList = u.path.display.toList ++ query ∧
      (query = [] ∨ ∃ cs, query = '?' :: cs ∧ ∀ c ∈ cs, isQueryChar c = true) := by
    unfold target
    cases hq : u.query with
    | none => exact ⟨[], by simp, .inl rfl⟩
    | some query => exact ⟨'?' :: query.toList, by simp, .inr ⟨_, rfl, h.query query hq⟩⟩
  obtain ⟨query, htarget, hquery⟩ := htarget
  have hread := pathOf?_append hall hquery hfragment
  rw [← htarget] at hread
  have hslash : ∃ cs, u.target.toList ++ u.fragmentText.toList = '/' :: cs := by
    rw [htarget, hdisplay, List.flatMap_cons]
    exact ⟨_, rfl⟩
  obtain ⟨cs, hcs⟩ := hslash
  exact ⟨cs, _, hcs, hcs ▸ hread⟩

/-- A URL of the web can be the address of a request just when it is short enough and its host is plain. -/
theorem isAddress_display {u : Url} (h : u.IsRead) :
    Net.Uri.isAddress u.display = true ↔ u.display.utf8ByteSize ≤ limit ∧ u.HasPlainHost := by
  obtain ⟨host, hhost, hlooks⟩ := h.host
  obtain ⟨cs, path, hcs, hpath⟩ := exists_target h
  have hscheme : Net.Uri.scheme? u.display.toList =
      some (u.scheme.toList, u.serverText host ++ (u.target.toList ++ u.fragmentText.toList)) := by
    have hchars : ∀ c ∈ u.scheme.toList, isSchemeChar c = true := by
      rcases h.web with hweb | hweb <;> rw [hweb] <;> exact Text.forall_mem_of_all (by decide)
    have hstop : ∀ cs, ∀ c ∈ (':' :: cs).head?, isSchemeChar c = false := fun cs => stop_cons (by decide) cs
    rw [toList_display hhost, Net.Uri.scheme?, takeWhile_run hchars (hstop _), dropWhile_run hchars (hstop _)]
    rfl
  have hlen : u.scheme.toList.length ≤ schemeLimit := by
    rcases h.web with hweb | hweb <;> rw [hweb] <;> decide
  have hne : u.serverText host ≠ [] := by
    have hname : host.display.toList ≠ [] := by
      cases hlooks with
      | name nonempty chars => exact nonempty
      | bracketed inner eq chars colons => exact eq ▸ List.cons_ne_nil _ _
    simp [serverText, hname]
  have hstop : ∀ c ∈ (u.target.toList ++ u.fragmentText.toList).head?, endsServer c = true := by
    rw [hcs]
    rintro c ⟨⟩
    rfl
  have hread : pathOf? (u.target.toList ++ u.fragmentText.toList) = some path := by rw [hcs, hpath]
  have hbehind := pathBehind?_isSome_iff hlen (not_endsServer h hhost) hne hstop hread
  rw [foldlM_step_server h hhost] at hbehind
  simp only [Net.Uri.isAddress, hscheme, Bool.and_eq_true, decide_eq_true_eq, hbehind]

theorem isRead_withoutUser {u : Url} (h : u.IsRead) : (Net.withoutUser u).IsRead := by
  unfold Net.withoutUser
  split
  · exact { h with username := nofun, password := nofun }
  · exact h

theorem host_withoutUser (u : Url) : (Net.withoutUser u).host = u.host := by
  unfold Net.withoutUser
  split <;> rfl

/-- So it can be asked for just when it is short enough without its user and its host is plain. -/
theorem isAddress_iff {u : Url} (h : u.IsRead) :
    Net.isAddress u = true ↔ (Net.withoutUser u).display.utf8ByteSize ≤ 65534 ∧ u.HasPlainHost := by
  rw [Net.isAddress, isAddress_display (isRead_withoutUser h), HasPlainHost, HasPlainHost, host_withoutUser, limit]

/-! ## Lengths of addresses -/

/-- A path adds its length to that of the other parts. -/
theorem utf8ByteSize_display {u : Url} {host : Host} (h : u.host = some host) (path : Path) :
    { u with path := path }.display.utf8ByteSize =
      { u with path := .segments [] }.display.utf8ByteSize + path.display.utf8ByteSize := by
  have hnone : (Path.segments []).display.utf8ByteSize = 0 := rfl
  obtain ⟨scheme, username, password, host', port, path', query, fragment⟩ := u
  obtain rfl : host' = some host := h
  simp only [display, target, credentials, String.utf8ByteSize_append, hnone]
  omega

theorem withoutUser_path (u : Url) (path : Path) :
    Net.withoutUser { u with path := path } = { Net.withoutUser u with path := path } := by
  simp only [Net.withoutUser]
  split <;> rfl

theorem display_append (front behind : List (List Char)) :
    (Path.segments (front ++ behind)).display = (Path.segments front).display ++ (Path.segments behind).display := by
  rw [← String.toList_inj]
  simp [Path.display]

end Url

namespace Tracker

open Url

/-- The address of a server: a web address with a plain host, and no blank at its end. Alone, such a blank would not
count, but with a path behind it it would be part of the address. -/
def IsServer (base : String) : Prop := (∃ u ∈ Net.webUrl? base, u.HasPlainHost) ∧ EndsWell base

instance (s : String) : Decidable (EndsWell s) :=
  decidable_of_iff (s.toList.getLast?.all (' ' < ·) = true) (by simp [EndsWell, Option.all_eq_true])

instance (base : String) : Decidable (IsServer base) :=
  inferInstanceAs (Decidable ((∃ u ∈ Net.webUrl? base, u.HasPlainHost) ∧ EndsWell base))

namespace Client

/-- A request can be built if its address is one of the web, it can be asked for, and the token can be sent. -/
theorem request?_isSome {c : Client} {r : Reference} :
    (c.request? r).isSome = true ↔
      (∃ u ∈ Net.webUrl? (c.urlText r), Net.isAddress u = true) ∧ ∀ t ∈ c.token, Net.isHeaderValue t = true := by
  rw [request?]
  cases hu : Net.webUrl? (c.urlText r) with
  | none => simp
  | some u =>
    cases ha : Net.isAddress u with
    | false => simp [ha]
    | true =>
      cases ht : c.token with
      | none => simp [ha]
      | some t => cases hv : Net.isHeaderValue t <;> simp [ha, hv]

/-- The address of an issue has too many bytes, even without a user in it. -/
def IsTooLong (c : Client) (r : Reference) : Prop :=
  ∃ u ∈ Net.webUrl? (c.urlText r), 65534 < (Net.withoutUser u).display.utf8ByteSize

instance (c : Client) (r : Reference) : Decidable (c.IsTooLong r) :=
  inferInstanceAs (Decidable (∃ u ∈ Net.webUrl? (c.urlText r), 65534 < (Net.withoutUser u).display.utf8ByteSize))

/-- A client of a server can make the request for an issue, if its token can be sent and unless the address of the
issue is too long. -/
theorem request?_isSome_iff {base : String} {token : Option String} (hb : IsServer base)
    (ht : ∀ t ∈ token, Net.isHeaderValue t = true) (r : Reference) :
    (Net.webUrl? ((Client.new base token).value.urlText r)).isSome = true ∧
      (((Client.new base token).value.request? r).isSome = true ↔ ¬(Client.new base token).value.IsTooLong r) := by
  obtain ⟨⟨server, hserver, hplain⟩, hend⟩ := hb
  obtain ⟨x, hx, hslash⟩ := trimSlashes_append base
  rw [← hx] at hserver hend
  obtain ⟨u, hu, hhost⟩ := webUrl?_extend hslash hend (isPath_issuePath r) (endsWell_issuePath _ r) hserver
  rw [HasPlainHost, ← hhost] at hplain
  have hbase : (Client.new base token).value.apiBase = trimSlashes base := rfl
  have hu' : Net.webUrl? ((Client.new base token).value.urlText r) = some u := by rw [urlText_eq, hbase, hu]
  have htoken : ∀ t ∈ (Client.new base token).value.token, Net.isHeaderValue t = true := fun t hmem =>
    ht t (Option.mem_filter_iff.1 hmem).1
  refine ⟨by rw [hu']; rfl, ?_⟩
  rw [request?_isSome, and_iff_left htoken, IsTooLong, hu']
  simp only [Option.mem_some_iff, exists_eq_left', isAddress_iff (isRead_of_webUrl? hu), Nat.not_lt]
  exact and_iff_left hplain

theorem display_issueSegments (r : Reference) : (Path.segments (issueSegments r)).display = "/repos" ++ issuePath r := by
  rw [← String.toList_inj]
  simp [Path.display, issueSegments, issuePath]

/-- The address of an issue with proper names is as long as what leads to the server and the path of the issue. -/
theorem exists_size {base : String} {server : Url} (hserver : Net.webUrl? base = some server)
    (hquery : server.query = none) (hfragment : server.fragment = none) :
    ∃ size, ∀ r : Reference, r.IsProper → ∀ u, Net.webUrl? (trimSlashes base ++ ("/repos" ++ issuePath r)) = some u →
      (Net.withoutUser u).display.utf8ByteSize = size + ("/repos" ++ issuePath r).utf8ByteSize := by
  obtain ⟨server, front, -, -, hall⟩ := exists_server hserver hquery hfragment
  refine ⟨{ Net.withoutUser server with path := .segments [] }.display.utf8ByteSize +
    (Path.segments front).display.utf8ByteSize, fun r hr u hu => ?_⟩
  have hne : issueSegments r ≠ [] := List.cons_ne_nil _ _
  have heq := hall _ _ (isPath_issuePath r) (endsWell_issuePath _ r) hne (isNameChar_issueSegments hr)
    (behind_issuePath hr) u hu
  obtain ⟨host, hhost, -⟩ := (isRead_of_webUrl? hu).host
  have hhost' : (Net.withoutUser server).host = some host := by
    rw [host_withoutUser, ← hhost, heq]
  rw [heq, withoutUser_path, utf8ByteSize_display hhost', display_append, String.utf8ByteSize_append,
    display_issueSegments]
  exact (Nat.add_assoc _ _ _).symm

end Client

end Tracker

end ForgeBridge
