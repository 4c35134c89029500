import ForgeBridge.Homeserver
import ForgeBridge.Proofs.ExpansionAnswers
import ForgeBridge.Proofs.MessageAddresses

/-!
# Messages as JSON

What a message is written as in JSON (`Message.IsWritten`): its two texts in any order and any spelling, among other
members. All such texts are read as the message, and what is sent to a homeserver or answered to a text is one of them
(`Message.read_written`).
-/

namespace ForgeBridge.Message

open Json

/-- The JSON text of an object with the two texts of a message, one member each. -/
def IsWritten (m : Message) (t : List UInt8) : Prop :=
  ∃ w w' object, Blank w ∧ Blank w' ∧ t = w ++ (object ++ w') ∧
    IsRecord [("msgtype", Given (IsText m.msgtype)), ("body", Given (IsText m.body))] object

section
variable {m : Message} {t : List UInt8}

theorem ofJson_of_isWritten (h : m.IsWritten t) : ofJson t = .ok m := by
  obtain ⟨w, w', object, hw, hw', rfl, hobject⟩ := h
  have hfits : Fits shape (m.msgtype, m.body, ()) object := hobject
  rw [ofJson, read_eq_ok hfits hw hw']
  rfl

theorem isWritten_json (m : Message) : m.IsWritten m.json :=
  ⟨[], [], m.json, blank_nil, blank_nil, (List.append_nil _).symm, m.isRecord_json⟩

/-- The body of the request that puts a message. -/
theorem body_of_request {h : Homeserver} {room transaction : String} {r : Net.Request}
    (hr : h.request room transaction m = .ok r) : r.body = m.json := by
  unfold Homeserver.request at hr
  split at hr
  · cases hr
  split at hr
  · cases hr
    rfl
  · cases hr

/-- The answer with what a text expands to. -/
theorem response_of_expand {s : Http.Server} {id : String} {seen : Http.Sighting} {lookups : List Reference}
    (h : (s.registry.expand s.lookup id seen.room seen.text).value = .ok ⟨some m, lookups⟩) :
    (Http.consider s id seen).value.response = .json 200 m.json := by
  simp [Http.consider, h]

end

/-- Whatever characters a message holds, it is written as JSON, and so it is sent to a homeserver and answered to a
text. It is read again from each text in which its two members are spelled, in any order, with white space anywhere and
among any other members. -/
theorem read_written (m : Message) :
    (m.IsWritten m.json ∧ ofJson m.json = .ok m) ∧
      (∀ (h : Homeserver) (room transaction : String) (r : Net.Request), h.request room transaction m = .ok r →
        ofJson r.body = .ok m) ∧
      (∀ (s : Http.Server) (id : String) (seen : Http.Sighting) (lookups : List Reference),
        (s.registry.expand s.lookup id seen.room seen.text).value = .ok ⟨some m, lookups⟩ →
          ∃ text, (Http.consider s id seen).value.response = ⟨200, some "application/json", none, text⟩ ∧
            ofJson text = .ok m) ∧
      ∀ t, m.IsWritten t → ofJson t = .ok m := by
  refine ⟨⟨m.isWritten_json, ofJson_json m⟩, fun h room transaction r hr => ?_, fun s id seen lookups h => ?_,
    fun t => ofJson_of_isWritten⟩
  · rw [body_of_request hr, ofJson_json]
  · exact ⟨m.json, response_of_expand h, ofJson_json m⟩

/-- A message with a quote, a backslash, a newline and a character beyond sixteen bits. -/
def spelledOut : Message := ⟨"m.notice", "u : \"\\\n😀"⟩

/-- A text of it: the members are the other way round, with a third one in between, and escapes stand for all these
characters. -/
def spelledText : String :=
  "\n\x7b\"body\" : \"u : \\u0022\\\\\\n\\ud83D\\uDE00\", \"n\":[null,\x7b\x7d] ,\"msgtype\":\"m.notice\"\x7d "

/-- The spelling of its second text. -/
def spelledBody : List UInt8 := Text.bytes "\"u : \\u0022\\\\\\n\\ud83D\\uDE00\""

theorem isText_spelledBody : IsText spelledOut.body spelledBody := by
  have hquote : IsHex4 [0x30, 0x30, 0x32, 0x32] 0x22 :=
    ⟨_, _, _, _, 0, 0, 2, 2, rfl, by decide, by decide, by decide, by decide, by decide⟩
  have hhigh : IsHex4 [0x64, 0x38, 0x33, 0x44] 0xD83D :=
    ⟨_, _, _, _, 13, 8, 3, 13, rfl, by decide, by decide, by decide, by decide, by decide⟩
  have hlow : IsHex4 [0x44, 0x45, 0x30, 0x30] 0xDE00 :=
    ⟨_, _, _, _, 13, 14, 0, 0, rfl, by decide, by decide, by decide, by decide, by decide⟩
  have hpair := Spells.pair hhigh hlow (by decide) (by decide) .nil
  have hspells := Spells.plain (b := 0x75) (by decide) (by decide) (by decide)
    (.plain (b := 0x20) (by decide) (by decide) (by decide)
      (.plain (b := 0x3A) (by decide) (by decide) (by decide)
        (.plain (b := 0x20) (by decide) (by decide) (by decide)
          (.unicode hquote (by decide) (by decide)
            (.short (e := 0x5C) (b := 0x5C) (by decide) (.short (e := 0x6E) (b := 0x0A) (by decide) hpair))))))
  have hbytes : 0x75 :: 0x20 :: 0x3A :: 0x20 :: (utf8 0x22 ++ 0x5C :: 0x0A ::
      (utf8 (0x10000 + (0xD83D - 0xD800) * 0x400 + (0xDE00 - 0xDC00)) ++ [])) = Text.bytes spelledOut.body := by
    decide +kernel
  rw [hbytes] at hspells
  exact ⟨_, hspells, by decide +kernel⟩

theorem isWritten_spelledText : spelledOut.IsWritten (Text.bytes spelledText) := by
  have hspace : Blank [0x20] := List.forall_mem_singleton.2 (by decide)
  have hnewline : Blank [0x0A] := List.forall_mem_singleton.2 (by decide)
  have hempty : IsJson [0x7B, 0x7D] :=
    .bracket .object [] (List.forall_mem_nil _) (List.forall_mem_nil _) (.empty blank_nil)
  have hlist : IsJson (listText [nullText, [0x7B, 0x7D]]) := by
    refine .bracket .list [([], nullText), ([], [0x7B, 0x7D])] ?_ ?_ (enclosed_listText _)
    · simpa using IsLead.list
    · simpa using ⟨IsJson.scalar .null, hempty⟩
  let entries := [("body", spelledBody), ("n", listText [nullText, [0x7B, 0x7D]]), ("msgtype", Json.text "m.notice")]
  have hobject : IsObject entries _ :=
    ⟨_, .cons ⟨_, _, _, isText_text _, hspace, hspace, rfl⟩ (.cons ⟨_, _, _, isText_text _, blank_nil, blank_nil, rfl⟩
      (.cons ⟨_, _, _, isText_text _, blank_nil, blank_nil, rfl⟩ .nil)),
      .items blank_nil (.item blank_nil hspace (.item hspace blank_nil (.close blank_nil)))⟩
  refine ⟨[0x0A], [0x20], _, hnewline, hspace, ?_, entries, hobject, ?_⟩
  · decide +kernel
  · refine ⟨⟨some (Json.text "m.notice"), by simp [entries], _, rfl, isText_text _⟩,
      ⟨some spelledBody, by simp [entries], _, rfl, isText_spelledBody⟩, ?_⟩
    simpa [entries, Holds] using hlist

/-- A server whose tracker tells of an issue with that title. -/
def quotingServer : Http.Server where
  registry := Registry.oneLive
  deliver _ _ := .ok ()
  lookup _ := .resolved ⟨"u", "\"\\\n😀"⟩

/-- The message is put into a room, is answered to a text with a reference, and is read from the text with its
escapes. -/
theorem read_written_spelled :
    (∃ r, Homeserver.webServer.request "!a" "1" spelledOut = .ok r ∧ ofJson r.body = .ok spelledOut) ∧
      (∃ text, (Http.consider quotingServer "gh" ⟨"!a", "a/b#1"⟩).value.response =
          ⟨200, some "application/json", none, text⟩ ∧ ofJson text = .ok spelledOut) ∧
      ofJson (Text.bytes spelledText) = .ok spelledOut := by
  obtain ⟨-, hput, hanswered, hread⟩ := read_written spelledOut
  refine ⟨?_, hanswered quotingServer "gh" ⟨"!a", "a/b#1"⟩ [⟨"a", "b", 1⟩] ?_, hread _ isWritten_spelledText⟩
  · have hbuilt : (Homeserver.webServer.request "!a" "1" spelledOut).isOk = true := by decide +kernel
    cases hrequest : Homeserver.webServer.request "!a" "1" spelledOut with
    | error e =>
      rw [hrequest] at hbuilt
      cases hbuilt
    | ok r => exact ⟨r, rfl, hput _ _ _ r hrequest⟩
  · decide +kernel

end ForgeBridge.Message
