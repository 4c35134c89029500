import ForgeBridge.Proofs.Entries
import ForgeBridge.Proofs.JsonWriting
import ForgeBridge.Proofs.TableChanges
import ForgeBridge.Proofs.TomlTables
import ForgeBridge.Proofs.TomlWriting

/-!
# Tables as text

A table of subscriptions comes from a list of entries, or from a JSON or a TOML text that holds them, and is the same
each time (`texts_agree`). A later entry for a room takes the place of an earlier one; if there are none, neither the
order of the entries nor that of their types makes a difference (`ofList_rearranged`).
-/

namespace ForgeBridge.Subscriptions

variable {entries entries' order : List (String × List String)}

/-! ## Entries -/

/-- The last entry for a room says what it wants. -/
theorem eventTypes_ofList (entries : List (String × List String)) (room : String) :
    (ofList entries).eventTypes room = (entries.reverse.lookup room).map Names.ofList := by
  induction entries using List.reverseRecOn with
  | nil => rfl
  | append_singleton entries e ih =>
    have hlast : ofList (entries ++ [e]) = (ofList entries).setRoom e.1 e.2 := by
      rw [ofList, List.foldl_append]
      rfl
    rw [hlast, List.reverse_append, List.reverse_singleton, List.singleton_append, lookup_cons_ite, setRoom,
      eventTypes, Keyed.get?_insert]
    by_cases h : e.1 = room
    · simp [h]
    · rw [if_neg h, if_neg (Ne.symm h)]
      exact ih

/-- The order of entries for different rooms does not matter. -/
theorem ofList_perm (h : order.Perm entries) (hnodup : (entries.map (·.1)).Nodup) :
    ofList order = ofList entries := by
  refine ext_eventTypes fun room => ?_
  have hperm : order.reverse.Perm entries.reverse :=
    (List.reverse_perm order).trans (h.trans (List.reverse_perm entries).symm)
  have horder : (order.reverse.map (·.1)).Nodup := by
    rw [List.map_reverse, List.nodup_reverse]
    exact (h.map _).nodup_iff.2 hnodup
  rw [eventTypes_ofList, eventTypes_ofList, lookup_perm hperm horder]

/-- The entries are for the same room and hold the same types, in any order and any number of times. -/
def SameTypes (e e' : String × List String) : Prop := e.1 = e'.1 ∧ ∀ event, event ∈ e.2 ↔ event ∈ e'.2

theorem setRoom_sameTypes {e e' : String × List String} (h : SameTypes e e') (t : Subscriptions) :
    t.setRoom e.1 e.2 = t.setRoom e'.1 e'.2 := by
  have htypes : Names.ofList e.2 = Names.ofList e'.2 := by
    rw [← Names.toSet_inj, Names.toSet_ofList, Names.toSet_ofList]
    exact Set.ext h.2
  rw [setRoom, setRoom, h.1, htypes]

theorem ofList_sameTypes (h : List.Forall₂ SameTypes entries entries') : ofList entries = ofList entries' := by
  have hfold (t : Subscriptions) : entries.foldl (fun t e => t.setRoom e.1 e.2) t =
      entries'.foldl (fun t e => t.setRoom e.1 e.2) t := by
    induction h generalizing t with
    | nil => rfl
    | cons he _ ih => rw [List.foldl_cons, List.foldl_cons, setRoom_sameTypes he, ih]
  exact hfold empty

/-- The entries of one list in another order, with their types in any order and any number of times. -/
def Rearranges (entries entries' : List (String × List String)) : Prop :=
  ∃ order, order.Perm entries ∧ List.Forall₂ SameTypes order entries'

theorem ofList_rearranged (h : Rearranges entries entries') (hnodup : (entries.map (·.1)).Nodup) :
    ofList entries' = ofList entries := by
  obtain ⟨order, hperm, hsame⟩ := h
  exact (ofList_sameTypes hsame).symm.trans (ofList_perm hperm hnodup)

/-! ## Texts -/

/-- The entries as a JSON object. -/
def jsonText (entries : List (String × List String)) : List UInt8 :=
  Json.object (entries.map fun e => (e.1, Json.listText (e.2.map Json.text)))

theorem fits_jsonText (entries : List (String × List String)) : Json.Fits shape entries (jsonText entries) := by
  refine ⟨_, Json.isObject_object _, ?_⟩
  rw [List.forall₂_map_right_iff, List.forall₂_same]
  refine fun e _ => ⟨rfl, _, Json.enclosed_listText _, ?_⟩
  rw [List.forall₂_map_right_iff, List.forall₂_same]
  exact fun event _ => Json.isText_text event

theorem read_json {text w w' : List UInt8} (h : Json.Fits shape entries text) (hw : Json.Blank w)
    (hw' : Json.Blank w') : (Json.read shape (w ++ (text ++ w'))).map ofShape = .ok (ofList entries) := by
  rw [Json.read_eq_ok h hw hw']
  rfl

theorem read_toml {text : String} (h : Toml.IsDocument entries text.toList) (hnodup : (entries.map (·.1)).Nodup) :
    (Toml.read shape text).map ofShape = .ok (ofList entries) := by
  have hread : Toml.read shape text = .ok entries := Toml.read_document h hnodup
  rw [hread]
  rfl

/-- Entries make the same table as a list and as a JSON object, where the last one for a room counts. If they are for
different rooms, they make it as a TOML document in any order, too, and their order, the order of their types and how
often these are told do not matter. -/
theorem texts_agree (entries : List (String × List String)) :
    (∀ room, (ofList entries).eventTypes room = (entries.reverse.lookup room).map Names.ofList) ∧
      ((∃ text, Json.Fits shape entries text) ∧
        ∀ text w w', Json.Fits shape entries text → Json.Blank w → Json.Blank w' →
          (Json.read shape (w ++ (text ++ w'))).map ofShape = .ok (ofList entries)) ∧
      ((entries.map (·.1)).Nodup → ∀ order, order.Perm entries →
        (∃ text : String, Toml.IsDocument order text.toList) ∧
          ∀ text : String, Toml.IsDocument order text.toList →
            (Toml.read shape text).map ofShape = .ok (ofList entries)) ∧
      ((entries.map (·.1)).Nodup → ∀ entries', Rearranges entries entries' → ofList entries' = ofList entries) := by
  refine ⟨eventTypes_ofList entries, ⟨⟨_, fits_jsonText entries⟩, fun text w w' => read_json⟩,
    fun hnodup order hperm => ⟨?_, fun text htext => ?_⟩, fun hnodup entries' h => ofList_rearranged h hnodup⟩
  · refine ⟨.ofList (Toml.tableText order), ?_⟩
    rw [String.toList_ofList]
    exact Toml.isDocument_tableText order
  · have horder : (order.map (·.1)).Nodup := (hperm.map _).nodup_iff.2 hnodup
    rw [read_toml htext horder, ofList_perm hperm hnodup]

/-- A room that is told twice wants what is told last. The entries for two rooms make the same table as a TOML
document in the other order, and with a type that is told twice. -/
theorem texts_agree_rearranged :
    let twice := [("!a", ["push"]), ("!a", ["ping", "push"])]
    let json := " \x7b\"!a\":[\"push\"],\"!a\":[\"ping\",\"push\"]\x7d"
    let apart := [("!a", ["push", "ping"]), ("!\"", [])]
    let toml := "\"!\\u0022\"=[]\n\"!a\"=[\"push\",\"ping\"]\n"
    (Json.read shape (Text.bytes json)).map ofShape = .ok (ofList twice) ∧
      (ofList twice).eventTypes "!a" = some (.ofList ["ping", "push"]) ∧
      (Toml.read shape toml).map ofShape = .ok (ofList apart) ∧
      ofList [("!\"", []), ("!a", ["ping", "push", "push"])] = ofList apart := by
  intro twice json apart toml
  obtain ⟨hlast, ⟨-, hjson⟩, -, -⟩ := texts_agree twice
  obtain ⟨-, -, htoml, hrearranged⟩ := texts_agree apart
  have hnodup : (apart.map (·.1)).Nodup := by decide
  have hswap : [("!\"", []), ("!a", ["push", "ping"])].Perm apart := .swap _ _ _
  have hblank : Json.Blank [0x20] := List.forall_mem_singleton.2 rfl
  have hjsonText : Text.bytes json = [0x20] ++ (jsonText twice ++ []) := by decide +kernel
  have htomlText : toml.toList = Toml.tableText [("!\"", []), ("!a", ["push", "ping"])] := by decide +kernel
  refine ⟨?_, hlast "!a", (htoml hnodup _ hswap).2 _ ?_, hrearranged hnodup _ ⟨_, hswap, ?_⟩⟩
  · rw [hjsonText]
    exact hjson _ _ _ (fits_jsonText twice) hblank Json.blank_nil
  · rw [htomlText]
    exact Toml.isDocument_tableText _
  · exact .cons ⟨rfl, by simp⟩ (.cons ⟨rfl, by simp [or_comm]⟩ .nil)

end ForgeBridge.Subscriptions
