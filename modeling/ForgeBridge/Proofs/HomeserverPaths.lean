import ForgeBridge.Homeserver
import ForgeBridge.Proofs.AcceptedConfigs
import ForgeBridge.Proofs.WebAddress

/-!
# Paths of homeservers

Rooms are addressed below the path of a homeserver. Whether there is such a path can be seen from the text of
the address (`isSegments_iff`): its scheme is one of those that go with a host, or a slash stands behind the
colon. A configuration is accepted without it, and then it is told of every room that its id is invalid
(`sendUrl_of_load`).
-/

namespace ForgeBridge

namespace Url

/-- The path is a list of segments, so that more can be put behind it. -/
def Path.IsSegments (p : Path) : Prop := ∃ list, p = .segments list

/-- The scheme of an address is of the web or of another kind that goes with a host, or what is behind its
colon starts with a slash. -/
def HasPath (address : String) : Prop :=
  ∃ scheme rest, scheme? (significant address) = some (scheme, rest) ∧
    (scheme ∈ ["file", "http", "https", "ws", "wss", "ftp"] ∨ rest.head? = some '/')

theorem kindOf_ne_other {scheme : String} :
    kindOf scheme ≠ .other ↔ scheme ∈ ["file", "http", "https", "ws", "wss", "ftp"] := by
  unfold kindOf
  split <;> simp_all

theorem isSegments_withPath (scheme : String) (user : UserInfo) (host : Option Host) (port : Option UInt16)
    (cs : List Char) : (withPath scheme user host port cs).path.IsSegments := ⟨_, rfl⟩

theorem isSegments_of_afterSlashes {scheme : String} {cs : List Char} {u : Url}
    (h : afterSlashes scheme cs = .ok u) : u.path.IsSegments := by
  simp only [afterSlashes, bind, Except.bind, pure, Except.pure] at h
  repeat (split at h; cases h)
  cases h
  exact isSegments_withPath ..

theorem isSegments_of_fileUrl {cs : List Char} {u : Url} (h : fileUrl cs = .ok u) : u.path.IsSegments := by
  simp only [fileUrl, bind, Except.bind, pure, Except.pure] at h
  repeat' split at h
  all_goals cases h
  all_goals exact isSegments_withPath ..

/-- Which addresses have a path. -/
theorem isSegments_iff {s : String} {u : Url} (h : parse s = .ok u) : u.path.IsSegments ↔ HasPath s := by
  rw [parse] at h
  rcases hs : scheme? (significant s) with _ | ⟨scheme, rest⟩
  · simp [hs] at h
  · have hpath : HasPath s ↔ kindOf scheme ≠ .other ∨ rest.head? = some '/' := by
      rw [kindOf_ne_other]
      constructor
      · rintro ⟨scheme', rest', hs', hor⟩
        rw [hs] at hs'
        cases hs'
        exact hor
      · intro hor
        exact ⟨scheme, rest, hs, hor⟩
    rw [hpath]
    simp only [hs] at h
    cases hk : kindOf scheme with
    | file =>
      simp only [hk] at h
      exact iff_of_true (isSegments_of_fileUrl h) (.inl (by simp))
    | special =>
      simp only [hk] at h
      exact iff_of_true (isSegments_of_afterSlashes h) (.inl (by simp))
    | other =>
      simp only [hk] at h
      split at h
      · exact iff_of_true (isSegments_of_afterSlashes h) (.inr rfl)
      · cases h
        exact iff_of_true (isSegments_withPath ..) (.inr rfl)
      · rename_i hnoslash
        cases h
        refine iff_of_false (by rintro ⟨list, hlist⟩; cases hlist) ?_
        rintro (hother | hslash)
        · exact hother rfl
        · obtain ⟨rest', rfl⟩ := List.head?_eq_some_iff.1 hslash
          exact hnoslash _ rfl

end Url

namespace Homeserver

open Url

/-! ## Addresses of messages -/

theorem sendUrl_eq_ok_iff {h : Homeserver} {room transaction : String} :
    (∃ url, h.sendUrl room transaction = .ok url) ↔ h.url.path.IsSegments := by
  unfold sendUrl
  cases hp : h.url.path with
  | flat text => exact iff_of_false nofun nofun
  | segments base => exact iff_of_true ⟨_, rfl⟩ ⟨_, rfl⟩

theorem sendUrl_error {h : Homeserver} {room transaction : String} {e : DeliveryError}
    (he : h.sendUrl room transaction = .error e) : e = .invalidRoom room := by
  unfold sendUrl at he
  split at he
  · cases he
    rfl
  · cases he

/-- An answer does not tell that a room is invalid. -/
theorem outcome_ne_invalidRoom (answer : Net.Answer) (room : String) :
    outcome answer ≠ .error (.invalidRoom room) := by
  cases answer with
  | failed f => nofun
  | status code body =>
    cases hs : Net.isSuccess code <;> simp [outcome, hs]

theorem request_error {h : Homeserver} {room transaction : String} {m : Message} {e : DeliveryError}
    (he : h.request room transaction m = .error e) :
    (¬h.url.path.IsSegments ∧ e = .invalidRoom room) ∨ (h.url.path.IsSegments ∧ e = .request .unbuilt) := by
  unfold request at he
  split at he
  · rename_i e' hsend
    cases he
    refine .inl ⟨fun hpath => ?_, sendUrl_error hsend⟩
    obtain ⟨url, hurl⟩ := sendUrl_eq_ok_iff.2 hpath
    rw [hsend] at hurl
    cases hurl
  · rename_i url hsend
    split at he
    · cases he
    · cases he
      exact .inr ⟨sendUrl_eq_ok_iff.1 ⟨url, hsend⟩, rfl⟩

/-- That a room is invalid is told if and only if its messages have no address. -/
theorem deliver_invalidRoom_iff (h : Homeserver) (send : Net.Request → Net.Answer)
    (room transaction : String) (m : Message) :
    (∃ r, (h.deliver send room transaction m).value = .error (.invalidRoom r)) ↔ ¬h.url.path.IsSegments := by
  unfold deliver
  cases hr : h.request room transaction m with
  | error e =>
    simp only [Logged.value_pure]
    rcases request_error hr with ⟨hno, rfl⟩ | ⟨hpath, rfl⟩
    · exact iff_of_true ⟨room, rfl⟩ hno
    · exact iff_of_false (by rintro ⟨r, he⟩; cases he) (not_not.2 hpath)
  | ok q =>
    have hpath : h.url.path.IsSegments := by
      unfold request at hr
      split at hr
      · cases hr
      · rename_i url hsend
        exact sendUrl_eq_ok_iff.1 ⟨url, hsend⟩
    refine iff_of_false ?_ (not_not.2 hpath)
    rintro ⟨r, he⟩
    cases ho : outcome (send q) with
    | error e =>
      simp only [ho, Logged.value_pure] at he
      exact outcome_ne_invalidRoom (send q) r (ho.trans he)
    | ok _ =>
      simp only [ho, Logged.value_bind, Logged.value_pure] at he
      cases he

/-! ## Homeservers of accepted configurations -/

/-- The homeserver of an accepted configuration can be made. All its messages have an address if its own
address has a path, and then it is never told that a room is invalid. Otherwise none has, and that is told of
every room. -/
theorem sendUrl_of_load (env : Environment) (text : String) (c : Config) (h : Config.load env text = .ok c) :
    ∃ homeserver, ofText c.homeserverUrl c.accessToken = .ok homeserver ∧
      (∀ room transaction,
        (∃ url, homeserver.sendUrl room transaction = .ok url) ↔ HasPath c.homeserverUrl) ∧
      ∀ send room transaction m,
        (∃ r, (homeserver.deliver send room transaction m).value = .error (.invalidRoom r)) ↔
          ¬HasPath c.homeserverUrl := by
  obtain ⟨url, hurl⟩ := (Config.accepted_of_load h).homeserver
  have hpath := isSegments_iff hurl
  refine ⟨⟨url, c.accessToken⟩, by rw [ofText, hurl]; rfl, fun room transaction => ?_,
    fun send room transaction m => ?_⟩
  · exact sendUrl_eq_ok_iff.trans hpath
  · exact (deliver_invalidRoom_iff ..).trans (not_congr hpath)

/-- A configuration whose homeserver is told as a web address with a path. -/
def webText : String := "homeserver_url = \"https://h/m\"\naccess_token = \"t\"\n"

theorem sendUrl_of_load_web :
    ∃ c homeserver, Config.load (fun _ => none) webText = .ok c ∧
      ofText c.homeserverUrl c.accessToken = .ok homeserver ∧
      ∀ room transaction, ∃ url, homeserver.sendUrl room transaction = .ok url := by
  have hload : Config.load (fun _ => none) webText = .ok ⟨Config.defaultListen, "https://h/m", "t", []⟩ := by
    decide +kernel
  obtain ⟨homeserver, hmade, hsend, -⟩ := sendUrl_of_load _ _ _ hload
  have hpath : HasPath "https://h/m" := ⟨"https", "//h/m".toList, by decide +kernel, .inr rfl⟩
  exact ⟨_, homeserver, hload, hmade, fun room transaction => (hsend room transaction).2 hpath⟩

/-- A configuration whose homeserver is told by its name and a port. The name is taken for a scheme. -/
def hostPortText : String := "homeserver_url = \"localhost:8008\"\naccess_token = \"t\"\n"

/-- It is accepted, but no message has an address. -/
theorem sendUrl_hostPort :
    ∃ c homeserver, Config.load (fun _ => none) hostPortText = .ok c ∧
      ofText c.homeserverUrl c.accessToken = .ok homeserver ∧
      homeserver.sendUrl "!r:h" "1" = .error (.invalidRoom "!r:h") := by
  refine ⟨⟨Config.defaultListen, "localhost:8008", "t", []⟩, ?_⟩
  refine ⟨⟨⟨"localhost", "", none, none, none, .flat "8008", none, none⟩, "t"⟩, ?_⟩
  decide +kernel

end Homeserver

end ForgeBridge
