import ForgeBridge.Proofs.HomeserverPaths
import ForgeBridge.Proofs.PathSegments

/-!
# Addresses of messages

Below the address of a homeserver on the web, the room and the number of a transaction are one segment each of
the path of a message, and are read back from it, if and only if they make whole segments: without tabs and
newlines, and neither one dot nor two (`sendUrl_leadsTo`). Among these, no two rooms share an address. A tab is
left out without notice, so that the message goes to the address of another room (`sendUrl_tab`).
-/

namespace ForgeBridge

namespace Url

theorem slashFree_withPath (scheme : String) (user : UserInfo) (host : Option Host) (port : Option UInt16)
    (cs : List Char) :
    ∃ list, (withPath scheme user host port cs).path = .segments list ∧ Path.SlashFree list := by
  refine ⟨_, rfl, ?_⟩
  split
  · split
    · exact Path.slashFree_singleton List.not_mem_nil
    · exact List.forall_mem_nil _
  · exact Path.SlashFree.ofText _ _

/-- The path of an address on the web is a list of segments without slashes. -/
theorem slashFree_of_parse {s : String} {u : Url} (h : parse s = .ok u) (hweb : u.isWeb = true) :
    ∃ list, u.path = .segments list ∧ Path.SlashFree list := by
  obtain ⟨rest, -, hslashes⟩ := scheme_of_parse h
  have hk := kindOf_web ((isWeb_iff u).1 hweb)
  obtain ⟨user, -, host, port, rest', -, -, heq⟩ := parts_of_afterSlashes hk (hslashes hk)
  obtain ⟨list, hpath, hfree⟩ := slashFree_withPath u.scheme user (some host) port rest'
  exact ⟨list, by rw [heq]; exact hpath, hfree⟩

end Url

namespace Homeserver

open Url Url.Path

/-! ## The path of a message -/

/-- A text of letters, digits and hyphens, as the number of a transaction is. -/
def IsNumber (s : String) : Prop := ∀ c ∈ s.toList, (c.isAlphanum || c = '-') = true

/-- The pieces of a path between slashes that lead to a message: those in `front`, and eight more. The room and
the number of the transaction are read from one of them each. -/
def LeadsTo (front : List (List Char)) (room transaction : String) (url : Url) : Prop :=
  ∃ S T : String,
    Text.splitAt '/' url.path.display.toList =
      front ++ ["_matrix", "client", "r0", "rooms", S, "send", "m.room.message", T].map String.toList ∧
    percentDecode (Text.bytes S) = Text.bytes room ∧
    percentDecode (Text.bytes T) = Text.bytes transaction ∧ (IsNumber transaction → T = transaction)

theorem holds_of_isAlphanum {c : Char} (h : (c.isAlphanum || c = '-') = true) :
    (segmentSet .special).holds c = false := by
  have hset : ∀ d ∈ segmentSet .special, (!(d.isAlphanum || d = '-')) = true := List.all_eq_true.1 (by decide)
  have hmem : (segmentSet .special).contains c = false := by
    rw [Bool.eq_false_iff]
    intro hc
    have hnot := hset c (List.contains_iff_mem.1 hc)
    rw [h] at hnot
    cases hnot
  have hrange : ' '.toNat ≤ c.toNat ∧ c.toNat ≤ '~'.toNat := by
    -- capital letters, small letters and digits, by their codes
    change (((decide (65 ≤ c.val ∧ c.val ≤ 90) || (decide (97 ≤ c.val) && decide (c.val ≤ 122))) ||
      (decide (48 ≤ c.val) && decide (c.val ≤ 57))) || decide (c = '-')) = true at h
    simp only [Bool.or_eq_true, Bool.and_eq_true, decide_eq_true_eq, UInt32.le_iff_toNat_le] at h
    change ((65 ≤ c.toNat ∧ c.toNat ≤ 90 ∨ 97 ≤ c.toNat ∧ c.toNat ≤ 122) ∨
      48 ≤ c.toNat ∧ c.toNat ≤ 57) ∨ c = '-' at h
    change 32 ≤ c.toNat ∧ c.toNat ≤ 126
    rcases h with h | rfl
    · omega
    · decide
  rw [EncodeSet.holds, hmem, decide_eq_false (Char.not_lt.2 hrange.1), decide_eq_false (Char.not_lt.2 hrange.2)]
  rfl

/-- The path of a message, given the segments of the homeserver. -/
def messagePath (front : List (List Char)) (room transaction : String) : List (List Char) :=
  extend .special
    (extend .special (front ++ ["_matrix", "client", "r0", "rooms"].map String.toList) room.toList ++
      ["send", "m.room.message"].map String.toList)
    transaction.toList

theorem rooted_extend (s : String) {list : List (List Char)} (h : 1 < list.length) :
    rooted (extend .special list s.toList) = extend .special list s.toList := by
  refine rooted_of_length ?_
  rcases extend_cases s h with ⟨segment, hadd, -⟩ | ⟨-, hsame | hback⟩
  · rw [hadd, List.length_append]
    omega
  · rwa [hsame]
  · rw [hback, List.length_append, List.length_dropLast]
    simp only [List.length_cons, List.length_nil]
    omega

/-- The segments that are the same for all messages. -/
def fixed : List String := ["_matrix", "client", "r0", "rooms", "send", "m.room.message"]

/-- They are taken as they stand. -/
theorem extend_fixed {s : String} (hmem : s ∈ fixed) (list : List (List Char)) :
    extend .special list s.toList = rooted list ++ [s.toList] ∧
      rooted (list ++ [s.toList]) = list ++ [s.toList] := by
  have hall : ∀ s ∈ fixed,
      IsWhole s ∧ s.toList.all (fun c => !(segmentSet .special).holds c) = true ∧ s.toList ≠ [] := by
    decide +kernel
  obtain ⟨hwhole, hplain, hne⟩ := hall s hmem
  have hkept : ∀ c ∈ s.toList, (segmentSet .special).holds c = false := by simpa using hplain
  exact ⟨extend_plain hwhole hkept list, rooted_append hne list⟩

theorem foldl_fixed (names : List String) (hnames : ∀ s ∈ names, s ∈ fixed) {list : List (List Char)}
    (hlist : rooted list = list) :
    names.foldl (fun path s => extend .special path s.toList) list = list ++ names.map String.toList := by
  induction names generalizing list with
  | nil => exact (List.append_nil list).symm
  | cons s names ih =>
    obtain ⟨hs, hnames⟩ := List.forall_mem_cons.1 hnames
    obtain ⟨hadd, hrooted⟩ := extend_fixed hs list
    rw [List.foldl_cons, hadd, hlist, ih hnames hrooted, List.append_assoc]
    rfl

theorem foldl_segments (list : List (List Char)) (room transaction : String) :
    (segments room transaction).foldl (fun path s => extend .special path s.toList) list =
      messagePath (rooted list) room transaction := by
  have hstart : ["client", "r0", "rooms"].foldl (fun path s => extend .special path s.toList)
      (extend .special list "_matrix".toList) =
        rooted list ++ ["_matrix", "client", "r0", "rooms"].map String.toList := by
    rw [(extend_fixed (by decide) list).1,
      foldl_fixed _ (by decide) (extend_fixed (by decide) (rooted list)).2, List.append_assoc]
    rfl
  have hlength : 1 < (rooted list ++ ["_matrix", "client", "r0", "rooms"].map String.toList).length := by
    rw [List.length_append]
    exact Nat.lt_add_left _ (by decide)
  have hend := foldl_fixed ["send", "m.room.message"] (by decide) (rooted_extend room hlength)
  rw [← hstart] at hend
  rw [messagePath, ← hstart, ← hend]
  rfl

/-- The address of a message of a homeserver on the web: its path has segments behind those of the homeserver,
and nothing else of the address is changed. -/
theorem sendUrl_of_isWeb {h : Homeserver} (hweb : h.url.isWeb = true) {list : List (List Char)}
    (hpath : h.url.path = .segments list) (room transaction : String) :
    h.sendUrl room transaction =
      .ok { h.url with path := .segments (messagePath (rooted (popIfEmpty list)) room transaction) } := by
  have hkind : kindOf h.url.scheme = .special := kindOf_web ((isWeb_iff h.url).1 hweb)
  simp only [sendUrl, hpath, hkind, foldl_segments]

theorem slashFree_messagePath {front : List (List Char)} (h : SlashFree front) (room transaction : String) :
    SlashFree (messagePath front room transaction) := by
  have hfixed : ∀ names : List String, (∀ s ∈ names, s ∈ fixed) → SlashFree (names.map String.toList) := by
    have hall : ∀ s ∈ fixed, '/' ∉ s.toList := by decide +kernel
    intro names hnames segment hmem
    obtain ⟨s, hs, rfl⟩ := List.mem_map.1 hmem
    exact hall s (hnames s hs)
  exact (((h.append (hfixed _ (by decide))).extend room.toList).append (hfixed _ (by decide))).extend
    transaction.toList

/-! ## What is read from the path -/

theorem isWhole_of_isNumber {s : String} (h : IsNumber s) : IsWhole s := by
  have hblank : ∀ c ∈ ['\t', '\n', '\r', '.'], (!(c.isAlphanum || c = '-')) = true :=
    List.all_eq_true.1 (by decide)
  have hnot {c : Char} (hc : c ∈ s.toList) : c ∉ ['\t', '\n', '\r', '.'] := by
    intro hmem
    have hkept := hblank c hmem
    rw [h c hc] at hkept
    cases hkept
  refine ⟨fun c hc => ?_, ?_, ?_⟩
  · have hne := hnot hc
    simp only [List.mem_cons, List.not_mem_nil, or_false, not_or] at hne
    simp [counts, hne]
  · rintro rfl
    exact hnot (c := '.') (by decide) (by decide)
  · rintro rfl
    exact hnot (c := '.') (by decide) (by decide)

/-- Behind the segments of the homeserver and the first of the others, a text adds a segment, from which it is
read if it is whole. If it is not, it may as well add none. -/
theorem extend_behind (front : List (List Char)) {behind : List (List Char)} (hb : behind ≠ []) (s : String) :
    (∃ S : String, extend .special (front ++ "_matrix".toList :: behind) s.toList =
        front ++ "_matrix".toList :: (behind ++ [S.toList]) ∧
        (percentDecode (Text.bytes S) = Text.bytes s ↔ IsWhole s) ∧ (IsNumber s → S = s)) ∨
    ¬IsWhole s ∧ ∃ behind', extend .special (front ++ "_matrix".toList :: behind) s.toList =
        front ++ "_matrix".toList :: behind' ∧ behind'.length = behind.length := by
  have hlength : 1 < (front ++ "_matrix".toList :: behind).length := by
    have := List.length_pos_iff.2 hb
    simp only [List.length_append, List.length_cons]
    omega
  rcases extend_cases s hlength with ⟨segment, hadd, hread, hsegment⟩ | ⟨hnot, hsame | hback⟩
  · refine .inl ⟨.ofList segment, ?_, hread, fun hnumber => ?_⟩
    · have hback : (String.ofList segment).toList = segment := String.toList_ofList
      rw [hadd, hback, List.append_assoc, List.cons_append]
    · rw [hsegment (isWhole_of_isNumber hnumber),
        percentEncode_of_not_holds fun c hc => holds_of_isAlphanum (hnumber c hc), String.ofList_toList]
  · exact .inr ⟨hnot, behind, hsame, rfl⟩
  · refine .inr ⟨hnot, behind.dropLast ++ [[]], ?_, ?_⟩
    · rw [hback, List.dropLast_append_of_ne_nil (List.cons_ne_nil _ _), List.dropLast_cons_of_ne_nil hb,
        List.append_assoc, List.cons_append]
    · have := List.length_pos_iff.2 hb
      rw [List.length_append, List.length_dropLast, List.length_singleton]
      omega

/-- The path of a message has all its segments, or a text that is not whole has made it shorter. -/
theorem messagePath_cases (front : List (List Char)) (room transaction : String) :
    (∃ S T : String,
      messagePath front room transaction =
        front ++ ["_matrix", "client", "r0", "rooms", S, "send", "m.room.message", T].map String.toList ∧
      (percentDecode (Text.bytes S) = Text.bytes room ↔ IsWhole room) ∧
      (percentDecode (Text.bytes T) = Text.bytes transaction ↔ IsWhole transaction) ∧
      (IsNumber transaction → T = transaction)) ∨
    ¬(IsWhole room ∧ IsWhole transaction) ∧ ∃ behind,
      messagePath front room transaction = front ++ "_matrix".toList :: behind ∧
      (behind.length = 5 ∨ behind.length = 6) := by
  have hstart : ["_matrix", "client", "r0", "rooms"].map String.toList =
      "_matrix".toList :: ["client", "r0", "rooms"].map String.toList := rfl
  have hend (behind : List (List Char)) : behind ++ ["send", "m.room.message"].map String.toList ≠ [] :=
    List.append_ne_nil_of_right_ne_nil _ (List.cons_ne_nil _ _)
  rw [messagePath, hstart]
  have hrooms : ["client", "r0", "rooms"].map String.toList ≠ [] := List.cons_ne_nil _ _
  rcases extend_behind front hrooms room with
    ⟨S, hroom, hread, -⟩ | ⟨hnot, behind, hroom, hlen⟩
  · rw [hroom, List.append_assoc, List.cons_append]
    rcases extend_behind front (hend _) transaction with
      ⟨T, htrans, hread', hnumber⟩ | ⟨hnot, behind, htrans, hlen⟩
    · exact .inl ⟨S, T, htrans, hread, hread', hnumber⟩
    · exact .inr ⟨fun hw => hnot hw.2, behind, htrans, .inr hlen⟩
  · rw [hroom, List.append_assoc, List.cons_append]
    refine .inr ⟨fun hw => hnot hw.1, ?_⟩
    have hlen' : (behind ++ ["send", "m.room.message"].map String.toList).length = 5 := by
      rw [List.length_append, hlen]
      rfl
    rcases extend_behind front (hend behind) transaction with ⟨T, htrans, -⟩ | ⟨-, behind', htrans, hlen''⟩
    · refine ⟨_, htrans, .inr ?_⟩
      rw [List.length_append, hlen']
      rfl
    · exact ⟨behind', htrans, .inl (hlen''.trans hlen')⟩

/-- With one or two segments missing, the others stand where they do not belong. -/
theorem ne_of_short (front front' : List (List Char)) {behind : List (List Char)}
    (h : behind.length = 5 ∨ behind.length = 6) (S T : String) :
    front ++ "_matrix".toList :: behind ≠
      front' ++ ["_matrix", "client", "r0", "rooms", S, "send", "m.room.message", T].map String.toList := by
  intro heq
  have hleft : (front ++ "_matrix".toList :: behind).reverse[behind.length]? = some "_matrix".toList := by
    simp
  rw [heq, List.reverse_append] at hleft
  rcases h with h | h
  · rw [h] at hleft
    exact absurd (Option.some.inj hleft) (by decide)
  · rw [h] at hleft
    exact absurd (Option.some.inj hleft) (by decide)

/-- The pieces that lead to a message determine what is in front of them, the room's and the transaction's. -/
theorem pieces_inj {front front' : List (List Char)} {S S' T T' : String}
    (h : front ++ ["_matrix", "client", "r0", "rooms", S, "send", "m.room.message", T].map String.toList =
      front' ++ ["_matrix", "client", "r0", "rooms", S', "send", "m.room.message", T'].map String.toList) :
    front = front' ∧ S = S' ∧ T = T' := by
  obtain ⟨hfront, hpieces⟩ := List.append_inj' h rfl
  simp only [List.map_cons, List.map_nil, List.cons.injEq, true_and, and_true, String.toList_inj] at hpieces
  exact ⟨hfront, hpieces⟩

/-- A message has its address behind the segments of the homeserver, and only if the room and the number of the
transaction are whole. -/
theorem leadsTo_iff {front front' : List (List Char)} (hfree : SlashFree front) {room transaction : String}
    {url : Url} (hpath : url.path = .segments (messagePath front room transaction)) :
    LeadsTo front' room transaction url ↔ front' = [] :: front ∧ IsWhole room ∧ IsWhole transaction := by
  have hpieces : Text.splitAt '/' url.path.display.toList = [] :: messagePath front room transaction := by
    rw [hpath, splitAt_display (slashFree_messagePath hfree room transaction)]
  rw [LeadsTo, hpieces]
  rcases messagePath_cases front room transaction with
    ⟨S, T, heq, hread, hread', hnumber⟩ | ⟨hnot, behind, heq, hlen⟩
  · rw [heq]
    constructor
    · rintro ⟨S', T', heq', hroom, htrans, -⟩
      rw [← List.cons_append] at heq'
      obtain ⟨hfront, rfl, rfl⟩ := pieces_inj heq'
      exact ⟨hfront.symm, hread.1 hroom, hread'.1 htrans⟩
    · rintro ⟨rfl, hroom, htrans⟩
      exact ⟨S, T, rfl, hread.2 hroom, hread'.2 htrans, hnumber⟩
  · rw [heq]
    refine iff_of_false ?_ fun hw => hnot hw.2
    rintro ⟨S, T, heq', -⟩
    exact ne_of_short ([] :: front) front' hlen S T heq'

/-- An address leads to one room, and to one message in it. -/
theorem LeadsTo.inj {front front' : List (List Char)} {room room' transaction transaction' : String} {url : Url}
    (h : LeadsTo front room transaction url) (h' : LeadsTo front' room' transaction' url) :
    room = room' ∧ transaction = transaction' := by
  obtain ⟨S, T, hpieces, hroom, htrans, -⟩ := h
  obtain ⟨S', T', hpieces', hroom', htrans', -⟩ := h'
  obtain ⟨-, rfl, rfl⟩ := pieces_inj (hpieces.symm.trans hpieces')
  exact ⟨Text.bytes_inj.1 (hroom.symm.trans hroom'), Text.bytes_inj.1 (htrans.symm.trans htrans')⟩

/-! ## Messages to the rooms of a homeserver -/

/-- What is taken off the path of a homeserver holds nothing. -/
theorem eq_rooted_append (list : List (List Char)) :
    ∃ empty, list = rooted (popIfEmpty list) ++ empty ∧ ∀ piece ∈ empty, piece = [] := by
  obtain ⟨last, hlast, hempty⟩ : ∃ last, list = popIfEmpty list ++ last ∧ ∀ piece ∈ last, piece = [] := by
    unfold popIfEmpty
    split
    · rename_i h
      obtain ⟨ys, rfl⟩ := List.getLast?_eq_some_iff.1 h.2
      exact ⟨[[]], by rw [List.dropLast_concat], fun piece hp => List.mem_singleton.1 hp⟩
    · exact ⟨[], (List.append_nil list).symm, fun piece hp => absurd hp List.not_mem_nil⟩
  unfold rooted
  split
  · rename_i h
    rw [h] at hlast
    refine ⟨[] :: last, hlast, fun piece hp => ?_⟩
    rcases List.mem_cons.1 hp with rfl | hp
    · rfl
    · exact hempty piece hp
  · exact ⟨last, hlast, hempty⟩

/-- The address of a message of a homeserver on the web can always be made, and differs from that of the
homeserver only in its path. It leads to the message, behind what the homeserver has of a path, if and only if the
room and the number of the transaction are whole; and no two messages with whole ones have the same address. -/
theorem sendUrl_leadsTo (address token : String) (h : Homeserver) (hmade : ofText address token = .ok h)
    (hweb : h.url.isWeb = true) :
    (∃ front empty, Text.splitAt '/' h.url.path.display.toList = front ++ empty ∧
      (∀ piece ∈ empty, piece = []) ∧
      ∀ room transaction, ∃ url, h.sendUrl room transaction = .ok url ∧
        { url with path := h.url.path } = h.url ∧
        ∀ front', LeadsTo front' room transaction url ↔
          front' = front ∧ IsWhole room ∧ IsWhole transaction) ∧
    ∀ room room' transaction transaction',
      IsWhole room → IsWhole room' → IsWhole transaction → IsWhole transaction' →
      h.sendUrl room transaction = h.sendUrl room' transaction' →
      room = room' ∧ transaction = transaction' := by
  obtain ⟨list, hpath, hfree⟩ : ∃ list, h.url.path = .segments list ∧ SlashFree list := by
    cases hurl : Url.parse address with
    | error e => simp [ofText, hurl, Except.map] at hmade
    | ok url =>
      simp only [ofText, hurl, Except.map, Except.ok.injEq] at hmade
      subst hmade
      exact slashFree_of_parse hurl hweb
  obtain ⟨empty, hlist, hempty⟩ := eq_rooted_append list
  have hfront : SlashFree (rooted (popIfEmpty list)) := fun segment hmem =>
    hfree segment (hlist ▸ List.mem_append_left empty hmem)
  have hsend (room transaction : String) := sendUrl_of_isWeb hweb hpath room transaction
  constructor
  · refine ⟨[] :: rooted (popIfEmpty list), empty, ?_, hempty, fun room transaction =>
      ⟨_, hsend room transaction, rfl, fun front' => leadsTo_iff hfront rfl⟩⟩
    rw [hpath, splitAt_display hfree, List.cons_append, ← hlist]
  · intro room room' transaction transaction' hroom hroom' htrans htrans' heq
    have hleads {room transaction : String} (hr : IsWhole room) (ht : IsWhole transaction) {url : Url}
        (hurl : h.sendUrl room transaction = .ok url) :
        LeadsTo ([] :: rooted (popIfEmpty list)) room transaction url := by
      obtain rfl := Except.ok.inj ((hsend room transaction).symm.trans hurl)
      exact (leadsTo_iff hfront rfl).2 ⟨rfl, hr, ht⟩
    exact (hleads hroom htrans (heq.trans (hsend room' transaction'))).inj
      (hleads hroom' htrans' (hsend room' transaction'))

/-- A homeserver on the web, below a path of its own. -/
def webServer : Homeserver :=
  ⟨⟨"https", "", none, some (.domain "h"), none, .segments [['m']], none, none⟩, "t"⟩

theorem sendUrl_leadsTo_web :
    ofText "https://h/m" "t" = .ok webServer ∧ webServer.url.isWeb = true ∧
      IsWhole "!a/..%2F?:h" ∧ IsWhole "!a/.." ∧ IsWhole "0f-1" ∧
      ∃ front url, webServer.sendUrl "!a/..%2F?:h" "0f-1" = .ok url ∧ LeadsTo front "!a/..%2F?:h" "0f-1" url ∧
        webServer.sendUrl "!a/.." "0f-1" ≠ .ok url := by
  have hmade : ofText "https://h/m" "t" = .ok webServer := by decide +kernel
  have hweb : webServer.url.isWeb = true := by decide
  have hroom : IsWhole "!a/..%2F?:h" := by decide +kernel
  have hother : IsWhole "!a/.." := by decide +kernel
  have hnumber : IsWhole "0f-1" := by decide +kernel
  obtain ⟨⟨front, -, -, -, hsend⟩, hinj⟩ := sendUrl_leadsTo _ _ _ hmade hweb
  obtain ⟨url, hurl, -, hleads⟩ := hsend "!a/..%2F?:h" "0f-1"
  refine ⟨hmade, hweb, hroom, hother, hnumber, front, url, hurl,
    (hleads front).2 ⟨rfl, hroom, hnumber⟩, fun heq => ?_⟩
  exact absurd (hinj _ _ _ _ hroom hother hnumber hnumber (hurl.trans heq.symm)).1 (by decide)

/-- A tab in the name of a room is left out, and the message goes to the address of another room. The room of two
dots has no segment, and with a tab between the dots it takes away the segment before its own. -/
theorem sendUrl_tab :
    ∃ url, ofText "https://h/m" "t" = .ok webServer ∧ webServer.url.isWeb = true ∧
      webServer.sendUrl "!a\tb:h" "1" = .ok url ∧ webServer.sendUrl "!ab:h" "1" = .ok url ∧
      url.path.display = "/m/_matrix/client/r0/rooms/!ab:h/send/m.room.message/1" ∧
      (∀ front, ¬LeadsTo front "!a\tb:h" "1" url) ∧
      (webServer.sendUrl ".." "1").map (·.path.display) =
        .ok "/m/_matrix/client/r0/rooms/send/m.room.message/1" ∧
      (webServer.sendUrl ".\t." "1").map (·.path.display) =
        .ok "/m/_matrix/client/r0//send/m.room.message/1" := by
  refine ⟨{ webServer.url with path := .segments (messagePath [['m']] "!a\tb:h" "1") }, by decide +kernel,
    by decide, by decide +kernel, by decide +kernel, by decide +kernel, fun front hleads => ?_, by decide +kernel,
    by decide +kernel⟩
  have hfree : SlashFree [['m']] := slashFree_singleton (by decide)
  have hwhole : IsWhole "!a\tb:h" := ((leadsTo_iff hfree rfl).1 hleads).2.1
  exact absurd hwhole (by decide +kernel)

end Homeserver

end ForgeBridge
