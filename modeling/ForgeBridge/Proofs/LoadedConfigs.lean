import ForgeBridge.Proofs.AcceptedConfigs
import ForgeBridge.Proofs.TextBytes

/-!
# Loading a configuration

What the environment makes of a configuration (`Overridden`), which fields must not be empty (`requiredFields`), and
which id is told to stand twice (`firstRepeated?_eq_some`). A configuration that can be read is overridden first, and
only then are its faults told, in an order of their own (`load_overridden`).
-/

namespace ForgeBridge

/-! ## The environment -/

/-- A variable is set to a text that is not empty. -/
def Environment.Sets (env : Environment) (name v : String) : Prop := env name = some (Text.bytes v) ∧ v ≠ ""

/-- What a setting comes to: the text of a variable that is set, and else what it was. -/
def Environment.Settles (env : Environment) (name : String) (ofText : String → α) (own new : α) : Prop :=
  (∀ v, env.Sets name v → new = ofText v) ∧ ((∀ v, ¬env.Sets name v) → new = own)

theorem Environment.text?_eq_some {env : Environment} {name v : String} :
    env.text? name = some v ↔ env.Sets name v := by
  simp only [text?, Sets, Option.filter_eq_some_iff, Option.bind_eq_some_iff, Text.ofBytes?_eq_some,
    decide_eq_true_eq]
  constructor
  · rintro ⟨⟨bytes, hbytes, rfl⟩, hne⟩
    exact ⟨hbytes, hne⟩
  · rintro ⟨hbytes, hne⟩
    exact ⟨⟨_, hbytes, rfl⟩, hne⟩

theorem Environment.settles_getD (env : Environment) (name own : String) :
    env.Settles name id own ((env.text? name).getD own) := by
  constructor
  · intro v hv
    rw [text?_eq_some.2 hv]
    rfl
  · intro hunset
    rw [Option.eq_none_iff_forall_ne_some.2 fun v hv => hunset v (text?_eq_some.1 hv)]
    rfl

theorem Environment.settles_text? (env : Environment) (name : String) :
    env.Settles name some none (env.text? name) :=
  ⟨fun _ hv => text?_eq_some.2 hv,
    fun hunset => Option.eq_none_iff_forall_ne_some.2 fun v hv => hunset v (text?_eq_some.1 hv)⟩

/-- A service of the file, and what the environment makes of it: it may get a token if it has none. -/
structure ServiceConfig.Overridden (env : Environment) (s s' : ServiceConfig) : Prop where
  same : s' = { s with githubToken := s'.githubToken }
  own : ∀ token, s.githubToken = some token → s'.githubToken = some token
  given : s.githubToken = none → env.Settles "GITHUB_TOKEN" some none s'.githubToken

/-- A configuration of the file, and what the environment makes of it. -/
structure Config.Overridden (env : Environment) (c c' : Config) : Prop where
  listen : env.Settles "WADDLE_BRIDGE_LISTEN" id c.listen c'.listen
  homeserverUrl : env.Settles "WADDLE_BRIDGE_HOMESERVER" id c.homeserverUrl c'.homeserverUrl
  accessToken : env.Settles "WADDLE_BRIDGE_ACCESS_TOKEN" id c.accessToken c'.accessToken
  services : List.Forall₂ (ServiceConfig.Overridden env) c.services c'.services

namespace Overrides

theorem overridden_applyToService (env : Environment) (s : ServiceConfig) :
    s.Overridden env ((ofEnvironment env).applyToService s) where
  same := rfl
  own token h := by rw [applyToService, h, Option.some_or]
  given h := by
    rw [applyToService, h, Option.none_or]
    exact env.settles_text? _

theorem overridden_apply (env : Environment) (c : Config) : c.Overridden env ((ofEnvironment env).apply c) where
  listen := env.settles_getD ..
  homeserverUrl := env.settles_getD ..
  accessToken := env.settles_getD ..
  services := List.forall₂_map_right_iff.2 (List.forall₂_same.2 fun s _ => overridden_applyToService env s)

theorem applyToService_twice (o : Overrides) (s : ServiceConfig) :
    o.applyToService (o.applyToService s) = o.applyToService s := by
  simp only [applyToService, Option.or_assoc, Option.or_self]

/-- What the environment sets is set once and for all. -/
theorem apply_twice (o : Overrides) (c : Config) : o.apply (o.apply c) = o.apply c := by
  have hgetD (v? : Option String) (own : String) : v?.getD (v?.getD own) = v?.getD own := by cases v? <;> rfl
  simp only [apply, hgetD, List.map_map]
  congr 1
  exact List.map_congr_left fun s _ => applyToService_twice o s

end Overrides

namespace Config

/-! ## Fields that must not be empty -/

/-- The fields that must not be empty, each with what it holds, in order. -/
def requiredFields (c : Config) : List (String × String) :=
  [("homeserver_url", c.homeserverUrl), ("access_token", c.accessToken)] ++
    c.services.zipIdx.flatMap fun (s, i) =>
      [("services[" ++ toString i ++ "].id", s.id), ("services[" ++ toString i ++ "].user_id", s.userId)]

theorem emptyFields_eq (c : Config) : c.emptyFields = (c.requiredFields.filter (·.2 = "")).map (·.1) := by
  have hservice (s : ServiceConfig) (i : Nat) : emptyServiceFields i s =
      ([("services[" ++ toString i ++ "].id", s.id), ("services[" ++ toString i ++ "].user_id", s.userId)].filter
        (·.2 = "")).map (·.1) := by
    by_cases hid : s.id = "" <;> by_cases huser : s.userId = "" <;>
      simp [emptyServiceFields, hid, huser, String.append_assoc]
  simp only [emptyFields, requiredFields, List.filter_append, List.map_append, List.filter_flatMap,
    List.map_flatMap, ← hservice]
  congr 1
  by_cases hurl : c.homeserverUrl = "" <;> by_cases htoken : c.accessToken = "" <;> simp [hurl, htoken]

theorem emptyFields_eq_nil {c : Config} : c.emptyFields = [] ↔ ∀ field ∈ c.requiredFields, field.2 ≠ "" := by
  rw [emptyFields_eq, List.map_eq_nil_iff, List.filter_eq_nil_iff]
  simp only [decide_eq_true_eq, ne_eq]

theorem mem_requiredFields {c : Config} {s : ServiceConfig} (h : s ∈ c.services) :
    ∃ name, (name, s.id) ∈ c.requiredFields := by
  obtain ⟨i, hi⟩ := List.mem_iff_getElem?.1 h
  refine ⟨"services[" ++ toString i ++ "].id",
    List.mem_append_right _ (List.mem_flatMap.2 ⟨(s, i), List.mk_mem_zipIdx_iff_getElem?.2 hi, ?_⟩)⟩
  exact .head _

/-! ## Ids that stand twice -/

/-- The name that is told stands earlier in the list too, and it is the first one that does. -/
theorem firstRepeated?_eq_some {before names : List String} {id : String}
    (h : firstRepeated? before names = some id) :
    ∃ front rest, names = front ++ id :: rest ∧ front.Nodup ∧ (∀ name ∈ front, name ∉ before) ∧
      (id ∈ front ∨ id ∈ before) := by
  induction names generalizing before with
  | nil => cases h
  | cons name names ih =>
    rw [firstRepeated?] at h
    split at h
    case isTrue hmem =>
      cases h
      exact ⟨[], names, rfl, .nil, List.forall_mem_nil _, .inr (by simpa using hmem)⟩
    case isFalse hmem =>
      obtain ⟨front, rest, rfl, hnodup, hnew, hid⟩ := ih h
      have hname : name ∉ front := fun hin => hnew name hin (.head _)
      refine ⟨name :: front, rest, rfl, List.nodup_cons.2 ⟨hname, hnodup⟩, ?_, ?_⟩
      · rintro other (_ | ⟨_, hother⟩)
        · simpa using hmem
        · exact fun hin => hnew other hother (.tail _ hin)
      · rcases hid with hid | hid
        · exact .inl (.tail _ hid)
        · rcases List.mem_cons.1 hid with rfl | hid
          · exact .inl (.head _)
          · exact .inr hid

/-! ## Faults in their order -/

section
variable {c : Config}

theorem validate_missing (h : c.emptyFields ≠ []) :
    c.validate = .error (.missingRequiredFields c.emptyFields) := by
  rw [validate, if_pos h]

/-- What the checks can tell: the fields that are empty; with none, an address to listen at that cannot be read; and with
that read, another setting. -/
theorem fault_of_validate {e : ConfigError} (h : c.validate = .error e) :
    (c.emptyFields ≠ [] ∧ e = .missingRequiredFields c.emptyFields) ∨
      (c.emptyFields = [] ∧ c.listenAddress? = none ∧ e = badListen) ∨
      (c.emptyFields = [] ∧ c.listenAddress? ≠ none ∧
        ∃ field message, field ≠ "listen" ∧ e = .invalidValue field message) := by
  unfold validate at h
  split at h
  case isTrue hempty =>
    cases h
    exact .inl ⟨hempty, rfl⟩
  case isFalse hfull =>
    refine .inr ?_
    split at h
    case isTrue hlisten =>
      cases h
      exact .inl ⟨not_not.1 hfull, hlisten, rfl⟩
    case isFalse hlisten =>
      refine .inr ⟨not_not.1 hfull, hlisten, ?_⟩
      split at h
      · cases h
        exact ⟨_, _, by decide, rfl⟩
      split at h <;> cases h
      exact ⟨_, _, by decide, rfl⟩

/-- Fields are told to be missing only if some are. -/
theorem emptyFields_of_validate {fields : List String} (h : c.validate = .error (.missingRequiredFields fields)) :
    c.emptyFields ≠ [] := by
  rcases fault_of_validate h with ⟨hempty, -⟩ | ⟨-, -, he⟩ | ⟨-, -, _, _, -, he⟩
  · exact hempty
  · cases he
  · cases he

theorem validate_listen (hfull : c.emptyFields = []) (h : c.listenAddress? = none) :
    c.validate = .error badListen := by
  rw [validate, if_neg (not_not.2 hfull), if_pos h]

theorem validate_homeserver {e : Url.Error} (hfull : c.emptyFields = []) (hlisten : c.listenAddress? ≠ none)
    (h : Url.parse c.homeserverUrl = .error e) :
    c.validate = .error (.invalidValue "homeserver_url" "must be an absolute URL") := by
  rw [validate, if_neg (not_not.2 hfull), if_neg hlisten, h]

theorem validate_repeated {url : Url} {id : String} (hfull : c.emptyFields = []) (hlisten : c.listenAddress? ≠ none)
    (hurl : Url.parse c.homeserverUrl = .ok url) (h : firstRepeated? [] (c.services.map (·.id)) = some id) :
    c.validate = .error (.invalidValue "services.id" ("duplicate service id '" ++ id ++ "'")) := by
  rw [validate, if_neg (not_not.2 hfull), if_neg hlisten, hurl, h]

end

theorem load_eq {env : Environment} {text : String} {c : Config} (h : ofToml text = .ok c) :
    load env text = (((Overrides.ofEnvironment env).apply c).validate.map fun _ =>
      (Overrides.ofEnvironment env).apply c) := by
  rw [load, h]
  simp only [settle]
  cases ((Overrides.ofEnvironment env).apply c).validate <;> rfl

/-- A configuration that can be read is first overridden by the environment, which a second time would change
nothing. What is told then is, in this order: all required fields that are empty; the address to listen at, if it
cannot be read; the address of the homeserver, if it cannot be read; the first id that stands earlier too. If nothing
is wrong, the overridden configuration is loaded, and its ids are not empty and stand once each. -/
theorem load_overridden (env : Environment) (text : String) (c : Config) (h : ofToml text = .ok c) :
    let overridden := (Overrides.ofEnvironment env).apply c
    let ids := overridden.services.map (·.id)
    c.Overridden env overridden ∧ (Overrides.ofEnvironment env).apply overridden = overridden ∧
      ((∃ fields, load env text = .error (.missingRequiredFields fields)) ↔
        ∃ field ∈ overridden.requiredFields, field.2 = "") ∧
      ((∃ field ∈ overridden.requiredFields, field.2 = "") → load env text =
        .error (.missingRequiredFields ((overridden.requiredFields.filter (·.2 = "")).map (·.1)))) ∧
      ((∀ field ∈ overridden.requiredFields, field.2 ≠ "") →
        (overridden.listenAddress? = none →
          load env text = .error (.invalidValue "listen" "invalid socket address syntax")) ∧
        (overridden.listenAddress? ≠ none →
          (∀ e, Url.parse overridden.homeserverUrl = .error e →
            load env text = .error (.invalidValue "homeserver_url" "must be an absolute URL")) ∧
          ∀ url, Url.parse overridden.homeserverUrl = .ok url →
            (¬ids.Nodup → ∃ front id rest, ids = front ++ id :: rest ∧ front.Nodup ∧ id ∈ front ∧
              load env text = .error (.invalidValue "services.id" ("duplicate service id '" ++ id ++ "'"))) ∧
            (ids.Nodup → load env text = .ok overridden ∧ ∀ id ∈ ids, id ≠ ""))) := by
  intro overridden ids
  have hload : load env text = overridden.validate.map fun _ => overridden := load_eq h
  have hempty : (∃ field ∈ overridden.requiredFields, field.2 = "") ↔ overridden.emptyFields ≠ [] := by
    rw [Ne, emptyFields_eq_nil]
    simp only [not_forall, exists_prop, not_not]
  have hmissing : overridden.emptyFields ≠ [] → load env text =
      .error (.missingRequiredFields overridden.emptyFields) := fun hne => by
    rw [hload, validate_missing hne]
    rfl
  refine ⟨Overrides.overridden_apply env c, Overrides.apply_twice _ c, ⟨?_, fun hne => ⟨_, hmissing (hempty.1 hne)⟩⟩,
    fun hne => ?_, fun hall => ?_⟩
  · rintro ⟨fields, hfields⟩
    rw [hload] at hfields
    cases hvalid : overridden.validate with
    | ok =>
      rw [hvalid] at hfields
      cases hfields
    | error e =>
      rw [hvalid] at hfields
      cases hfields
      exact hempty.2 (emptyFields_of_validate hvalid)
  · rw [← emptyFields_eq]
    exact hmissing (hempty.1 hne)
  · have hfull := emptyFields_eq_nil.2 hall
    refine ⟨fun hlisten => ?_,
      fun hlisten => ⟨fun e he => ?_, fun url hurl => ⟨fun hrepeated => ?_, fun hnodup => ?_⟩⟩⟩
    · rw [hload, validate_listen hfull hlisten]
      rfl
    · rw [hload, validate_homeserver hfull hlisten he]
      rfl
    · have hsome : firstRepeated? [] ids ≠ none := fun hnone => hrepeated (firstRepeated?_eq_none.1 hnone).1
      obtain ⟨id, hid⟩ := Option.ne_none_iff_exists'.1 hsome
      obtain ⟨front, rest, hsplit, hfront, -, hmem⟩ := firstRepeated?_eq_some hid
      refine ⟨front, id, rest, hsplit, hfront, hmem.resolve_right List.not_mem_nil, ?_⟩
      rw [hload, validate_repeated hfull hlisten hurl hid]
      rfl
    · refine ⟨?_, fun id hid => ?_⟩
      · rw [hload, validate_eq_ok.2 ⟨hfull, hlisten, ⟨url, hurl⟩, hnodup⟩]
        rfl
      · obtain ⟨s, hs, rfl⟩ := List.mem_map.1 hid
        obtain ⟨name, hname⟩ := mem_requiredFields hs
        exact hall _ hname

/-- A file without an address of the homeserver, where two services have the same id. -/
def faultyText : String :=
  "access_token = \"t\"\n" ++
  "[[services]]\nid = \"a\"\ntype = \"github\"\nuser_id = \"@a:h\"\n" ++
  "[[services]]\nid = \"a\"\ntype = \"github\"\nuser_id = \"@b:h\"\ngithub_token = \"own\"\n"

/-- What is read from it. -/
def faultyConfig : Config where
  listen := defaultListen
  homeserverUrl := ""
  accessToken := "t"
  services := [⟨"a", "github", "@a:h", none, none, .empty⟩, ⟨"a", "github", "@b:h", none, some "own", .empty⟩]

/-- An environment that mends the address of the homeserver, and sets the address to listen at. -/
def mending (listen : String) : Environment := fun name =>
  if name = "WADDLE_BRIDGE_HOMESERVER" then some (Text.bytes "https://h")
  else if name = "WADDLE_BRIDGE_LISTEN" then some (Text.bytes listen)
  else none

/-- Mending one fault brings out the next one. -/
theorem load_overridden_faulty :
    ofToml faultyText = .ok faultyConfig ∧
      load (fun _ => none) faultyText = .error (.missingRequiredFields ["homeserver_url"]) ∧
      load (mending "nowhere") faultyText = .error (.invalidValue "listen" "invalid socket address syntax") ∧
      ∃ id, load (mending "") faultyText =
        .error (.invalidValue "services.id" ("duplicate service id '" ++ id ++ "'")) := by
  have hread : ofToml faultyText = .ok faultyConfig := by decide +kernel
  obtain ⟨-, -, -, hmissing, -⟩ := load_overridden (fun _ => none) faultyText faultyConfig hread
  obtain ⟨-, -, -, -, hlisten⟩ := load_overridden (mending "nowhere") faultyText faultyConfig hread
  obtain ⟨-, -, -, -, hlast⟩ := load_overridden (mending "") faultyText faultyConfig hread
  refine ⟨hread, (hmissing ?_).trans ?_, (hlisten ?_).1 ?_, ?_⟩
  · decide +kernel
  · decide +kernel
  · decide +kernel
  · decide +kernel
  · have hsame : ((Overrides.ofEnvironment (mending "")).apply faultyConfig).homeserverUrl = "https://h" := by
      decide +kernel
    obtain ⟨url, hurl⟩ : ∃ url, Url.parse "https://h" = .ok url := by
      have hok : (Url.parse "https://h").isOk = true := by decide +kernel
      cases hparse : Url.parse "https://h" with
      | ok url => exact ⟨url, rfl⟩
      | error e =>
        rw [hparse] at hok
        cases hok
    obtain ⟨front, id, rest, -, -, -, hrepeated⟩ :=
      ((hlast (by decide +kernel)).2 (by decide +kernel)).2 url (hsame ▸ hurl) |>.1 (by decide +kernel)
    exact ⟨id, hrepeated⟩

end Config

end ForgeBridge
