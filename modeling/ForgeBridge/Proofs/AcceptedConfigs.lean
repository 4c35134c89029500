import ForgeBridge.Config.Load
import Mathlib.Data.List.Nodup

/-!
# Accepted configurations

What is known of a configuration once it has been loaded (`accepted_of_load`): nothing that must be there is
missing, its addresses can be read, and no two of its services have the same id.
-/

namespace ForgeBridge.Config

/-- No name stands earlier in the list too. -/
theorem firstRepeated?_eq_none {before names : List String} :
    firstRepeated? before names = none ↔ names.Nodup ∧ ∀ name ∈ names, name ∉ before := by
  induction names generalizing before with
  | nil => simp [firstRepeated?]
  | cons name names ih =>
    by_cases hmem : name ∈ before
    · simp [firstRepeated?, hmem]
    · rw [firstRepeated?, if_neg (by simpa using hmem), ih]
      simp only [List.nodup_cons, List.mem_cons, not_or, forall_eq_or_imp, hmem, not_false_eq_true,
        true_and]
      constructor
      · rintro ⟨hnodup, hnew⟩
        exact ⟨⟨fun hin => (hnew name hin).1 rfl, hnodup⟩, fun other hin => (hnew other hin).2⟩
      · rintro ⟨⟨hnot, hnodup⟩, hnew⟩
        exact ⟨hnodup, fun other hin => ⟨fun heq => hnot (heq ▸ hin), hnew other hin⟩⟩

/-- A configuration that passes the checks. -/
structure Accepted (c : Config) : Prop where
  complete : c.emptyFields = []
  address : c.listenAddress? ≠ none
  homeserver : ∃ url, Url.parse c.homeserverUrl = .ok url
  ids : (c.services.map (·.id)).Nodup

theorem validate_eq_ok {c : Config} : c.validate = .ok () ↔ c.Accepted := by
  have hids : firstRepeated? [] (c.services.map (·.id)) = none ↔ (c.services.map (·.id)).Nodup := by
    simp [firstRepeated?_eq_none]
  constructor
  · intro h
    unfold validate at h
    split at h
    · cases h
    rename_i hcomplete
    split at h
    · cases h
    rename_i haddress
    split at h
    · cases h
    rename_i url hurl
    split at h
    · cases h
    rename_i hnone
    exact ⟨not_not.1 hcomplete, haddress, ⟨url, hurl⟩, hids.1 hnone⟩
  · rintro ⟨hcomplete, haddress, ⟨url, hurl⟩, hnodup⟩
    rw [validate, if_neg (not_not.2 hcomplete), if_neg haddress, hurl, hids.2 hnodup]

/-- What has been loaded passes the checks. -/
theorem accepted_of_load {env : Environment} {text : String} {c : Config} (h : load env text = .ok c) :
    c.Accepted := by
  unfold load settle at h
  split at h
  · cases h
  split at h
  · cases h
  rename_i hvalid
  cases h
  exact validate_eq_ok.1 hvalid

end ForgeBridge.Config
