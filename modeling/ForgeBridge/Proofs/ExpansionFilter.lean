import ForgeBridge.Proofs.ReferenceWords
import ForgeBridge.Service.Registry

/-!
# Texts that are shown to a service

A registry asks a service only about texts in which a word starts that looks like a reference
(`isIn_issueReferences_iff`). This saves the call and changes nothing: what comes of a text, what is looked up and
what is logged is the same as when the service is asked at once (`expand_of_live`), also for texts whose words all
have too big a number.
-/

namespace ForgeBridge

namespace Expansion

/-- The pattern is in a text if and only if a word starts somewhere in it. -/
theorem isIn_issueReferences_iff (text : String) :
    issueReferences.isIn text = true ↔ ∃ q, Reference.StartsAt text.toList q := by
  have hscan := Reference.scan_occurrencesFrom text.toList 0
  have hsome : issueReferences.isIn text = true ↔ Reference.occurrences text ≠ [] := by
    simp [issueReferences, Reference.mentionedIn]
  rw [hsome]
  constructor
  · intro hne
    obtain ⟨o, os, hos⟩ := List.exists_cons_of_ne_nil hne
    have hin := hscan.isIn o (show o ∈ Reference.occurrences text from hos ▸ .head _)
    exact ⟨o.start, o.word, hin.proper, hin.here⟩
  · rintro ⟨q, hq⟩
    obtain ⟨o, ho, -⟩ := hscan.covers (Nat.zero_le q) hq
    exact List.ne_nil_of_mem ho

/-- A text without the pattern has no references. -/
theorem findAll_of_not_isIn {text : String} (h : issueReferences.isIn text = false) :
    Reference.findAll text = [] := by
  have hnone : Reference.occurrences text = [] := by
    simpa [issueReferences, Reference.mentionedIn] using h
  rw [Reference.findAll, hnone]
  rfl

/-- A text without references expands to nothing: nothing is looked up, and nothing is logged. -/
theorem expand_of_findAll {text : String} (h : Reference.findAll text = []) (lookup : Tracker.Lookup) :
    expand lookup text = pure ⟨none, []⟩ := by
  rw [expand, Reference.findFirst, h]
  rfl

/-- An expansion depends on what comes of the lookups that it lists, and on no others. -/
theorem expand_congr {lookup lookup' : Tracker.Lookup} {text : String}
    (h : ∀ r ∈ (expand lookup text).value.lookups, lookup' r = lookup r) :
    expand lookup' text = expand lookup text := by
  unfold expand at h ⊢
  cases hfirst : Reference.findFirst text with
  | none => rfl
  | some r =>
    rw [hfirst] at h
    have hr : lookup' r = lookup r := h r (.head _)
    simp only [resolve, Tracker.Lookup.ask, hr]

end Expansion

namespace Registry

open Expansion

/-- What a registry makes of a text for a live service is what the service makes of it: the same message, the same
lookups, which are all that it depends on, and the same log. The pattern that it asks for first is in a text if and
only if a word starts somewhere in it, and it is in every text with a reference. -/
theorem expand_of_live (r : Registry) (lookup : Tracker.Lookup) (id room text : String) (service : Service)
    (hlive : r.get? id = some service) :
    r.expand lookup id room text = (do return .ok (← service.expand lookup room text)) ∧
      (∀ lookup' : Tracker.Lookup,
        (∀ reference ∈ (service.expand lookup room text).value.lookups, lookup' reference = lookup reference) →
          r.expand lookup' id room text = r.expand lookup id room text) ∧
      (issueReferences.isIn text = true ↔ ∃ q, Reference.StartsAt text.toList q) ∧
      (Reference.findAll text ≠ [] → issueReferences.isIn text = true) := by
  have hasks : service.expansions.any (·.isIn text) = issueReferences.isIn text := Bool.or_false _
  have hsame (lookup : Tracker.Lookup) :
      r.expand lookup id room text = (do return .ok (← service.expand lookup room text)) := by
    simp only [expand, hlive, hasks]
    cases hin : issueReferences.isIn text with
    | true => rfl
    | false =>
      rw [Service.expand, expand_of_findAll (findAll_of_not_isIn hin)]
      rfl
  refine ⟨hsame lookup, fun lookup' hlookups => ?_, isIn_issueReferences_iff text, fun hne => ?_⟩
  · have heq : service.expand lookup' room text = service.expand lookup room text := expand_congr hlookups
    rw [hsame, hsame, heq]
  · cases hin : issueReferences.isIn text with
    | true => rfl
    | false => exact absurd (findAll_of_not_isIn hin) hne

/-- A registry with one live service. -/
def oneLive : Registry :=
  { new true with services := Keyed.empty.insert "gh" ⟨"gh", "@gh:h", none, .empty⟩ }

/-- A word whose number is too big is shown to the service, which finds no reference; behind it there is one. -/
theorem expand_of_live_overflow :
    oneLive.expand (fun _ => .absent) "gh" "!a" "a/b#18446744073709551616" = pure (.ok ⟨none, []⟩) ∧
      issueReferences.isIn "a/b#18446744073709551616" = true ∧
      (oneLive.expand (fun _ => .absent) "gh" "!a" "a/b#18446744073709551616,c/d#5").value =
        .ok ⟨none, [⟨"c", "d", 5⟩]⟩ := by
  have hlive : oneLive.get? "gh" = some ⟨"gh", "@gh:h", none, .empty⟩ := by decide +kernel
  have hnone : Reference.findAll "a/b#18446744073709551616" = [] := by decide +kernel
  refine ⟨?_, by decide +kernel, ?_⟩
  · rw [(expand_of_live oneLive _ "gh" "!a" _ _ hlive).1, Service.expand, expand_of_findAll hnone]
    rfl
  · rw [(expand_of_live oneLive _ "gh" "!a" _ _ hlive).1]
    decide +kernel

end Registry

end ForgeBridge
