import ForgeBridge.Proofs.AcceptedConfigs
import ForgeBridge.Service.Registry

/-!
# Registrations

What registering does and logs, in one lemma for each way in which it can end. A list of configured services with ids
of their own is registered up to the first one of an unknown type (`registerAll_eq`). The services of an
accepted configuration have ids of their own, so loading one fails for no other reason, and the services in
front of the failure stay (`load_registry`).
-/

namespace ForgeBridge

/-- The service that is configured. -/
def ServiceConfig.service (c : ServiceConfig) : Service := ⟨c.id, c.userId, c.webhookSecret, c.rooms⟩

theorem Service.value_ofConfig (sharesTracker : Bool) (c : ServiceConfig) :
    (Service.ofConfig sharesTracker c).value = c.service := by
  cases sharesTracker <;> rfl

namespace Registry

/-! ## One service -/

section
variable {r : Registry} {c : ServiceConfig} {factory : Factory}

theorem register_unknown (hf : r.factories.get? c.type = none) :
    r.register c = ⟨(r, .error (.unknownServiceType c.type)), []⟩ := by
  unfold register
  rw [hf]
  rfl

theorem register_duplicate {s : Service} (hf : r.factories.get? c.type = some factory)
    (hid : r.get? c.id = some s) : r.register c = ⟨(r, .error (.duplicateService c.id)), []⟩ := by
  unfold register
  simp only [hf, hid]
  rfl

theorem register_failed {e : BridgeError} (hf : r.factories.get? c.type = some factory)
    (hid : r.get? c.id = none) (hmade : (factory c).value = .error e) :
    r.register c = ⟨(r, .error e), (factory c).log⟩ := by
  unfold register
  simp only [hf, hid, bind, hmade, Logged.value_pure, Logged.log_pure, List.append_nil]

theorem register_made {s : Service} (hf : r.factories.get? c.type = some factory)
    (hid : r.get? c.id = none) (hmade : (factory c).value = .ok s) :
    r.register c =
      ⟨({ r with services := r.services.insert c.id s }, .ok s),
        (factory c).log ++ [⟨.service, .info, "Registered service",
          [("service_id", .text c.id), ("service_type", .text c.type),
            ("rooms", .number s.roomIds.length)]⟩]⟩ := by
  unfold register
  simp only [hf, hid, bind, hmade]
  rfl

end

/-! ## Services of the built-in type -/

theorem get?_factories_new (sharesTracker : Bool) (type : String) :
    (new sharesTracker).factories.get? type =
      if Service.typeName = type then some (builtIn sharesTracker) else none :=
  Keyed.get?_insert ..

/-- A registry that knows the built-in type alone. -/
def OnlyBuiltIn (r : Registry) : Prop := ∃ sharesTracker, r.factories = (new sharesTracker).factories

theorem OnlyBuiltIn.register_known {r : Registry} {c : ServiceConfig} (h : r.OnlyBuiltIn)
    (ht : c.type = Service.typeName) (hid : r.get? c.id = none) :
    (r.register c).value = ({ r with services := r.services.insert c.id c.service }, .ok c.service) := by
  obtain ⟨sharesTracker, hf⟩ := h
  have hknown : r.factories.get? c.type = some (builtIn sharesTracker) := by
    rw [hf, get?_factories_new, if_pos ht.symm]
  refine congrArg Logged.value (register_made hknown hid ?_)
  simp only [builtIn, Logged.value_bind, Logged.value_pure, Service.value_ofConfig]

theorem OnlyBuiltIn.register_unknown {r : Registry} {c : ServiceConfig} (h : r.OnlyBuiltIn)
    (ht : c.type ≠ Service.typeName) :
    (r.register c).value = (r, .error (.unknownServiceType c.type)) := by
  obtain ⟨sharesTracker, hf⟩ := h
  refine congrArg Logged.value (Registry.register_unknown ?_)
  rw [hf, get?_factories_new, if_neg ht.symm]

/-! ## Services one after the other -/

/-- The services with those of some entries taken in. -/
def taking (services : Keyed Service) (entries : List ServiceConfig) : Keyed Service :=
  entries.foldl (fun services c => services.insert c.id c.service) services

/-- An id of its own stays free when another entry is taken in. -/
theorem free_insert {services : Keyed Service} {c : ServiceConfig} {entries : List ServiceConfig}
    (hids : ((c :: entries).map (·.id)).Nodup) (hfree : ∀ d ∈ c :: entries, services.get? d.id = none)
    (s : Service) : ∀ d ∈ entries, (services.insert c.id s).get? d.id = none := by
  intro d hd
  have hne : c.id ≠ d.id := by
    intro heq
    have hmem : c.id ∈ entries.map (·.id) := heq ▸ List.mem_map_of_mem hd
    exact (List.nodup_cons.1 hids).1 hmem
  rw [Keyed.get?_insert, if_neg hne]
  exact hfree d (.tail _ hd)

theorem get?_taking {services : Keyed Service} {entries : List ServiceConfig}
    (hids : (entries.map (·.id)).Nodup) (hfree : ∀ c ∈ entries, services.get? c.id = none) {id : String}
    {s : Service} :
    (taking services entries).get? id = some s ↔
      services.get? id = some s ∨ ∃ c ∈ entries, c.id = id ∧ c.service = s := by
  induction entries generalizing services with
  | nil => simp [taking]
  | cons c entries ih =>
    have htail := ih (List.nodup_cons.1 hids).2 (free_insert hids hfree c.service)
    rw [Keyed.get?_insert] at htail
    simp only [taking, List.foldl_cons, List.mem_cons, or_and_right, exists_or,
      exists_eq_left] at htail ⊢
    rw [htail]
    by_cases hid : c.id = id
    · subst hid
      simp [hfree c (.head _)]
    · simp [hid]

/-- What is told of the entries that are left: the type of the first one, if there is one. -/
def verdict : List ServiceConfig → Except BridgeError Unit
  | [] => .ok ()
  | c :: _ => .error (.unknownServiceType c.type)

/-- The entries of a list up to the first one of an unknown type are registered, and that type is told. -/
theorem registerAll_eq {r : Registry} (hr : r.OnlyBuiltIn) {front rest : List ServiceConfig}
    (hknown : ∀ c ∈ front, c.type = Service.typeName)
    (hrest : ∀ c ∈ rest.head?, c.type ≠ Service.typeName) (hids : (front.map (·.id)).Nodup)
    (hfree : ∀ c ∈ front, r.get? c.id = none) :
    (r.registerAll (front ++ rest)).value =
      ({ r with services := taking r.services front }, verdict rest) := by
  induction front generalizing r with
  | nil =>
    cases rest with
    | nil => rfl
    | cons c rest =>
      simp only [List.nil_append, registerAll, Logged.value_bind, hr.register_unknown (hrest c rfl),
        Logged.value_pure]
      rfl
  | cons c front ih =>
    have hfirst := hr.register_known (hknown c (.head _)) (hfree c (.head _))
    have hstays : { r with services := r.services.insert c.id c.service }.OnlyBuiltIn := hr
    simp only [List.cons_append, registerAll, Logged.value_bind, hfirst]
    exact ih hstays (fun d hd => hknown d (.tail _ hd)) (List.nodup_cons.1 hids).2
      (free_insert hids hfree c.service)

/-! ## Loading a configuration -/

/-- The live services are exactly those of some entries, each under its id. -/
def Runs (r : Registry) (entries : List ServiceConfig) : Prop :=
  (∀ id s, r.get? id = some s ↔ ∃ c ∈ entries, c.id = id ∧ c.service = s) ∧
    r.serviceIds.Perm (entries.map (·.id))

theorem runs_taking {r : Registry} {entries : List ServiceConfig} (hempty : ∀ id, r.get? id = none)
    (hids : (entries.map (·.id)).Nodup) : { r with services := taking r.services entries }.Runs entries := by
  have hget : ∀ id s, (taking r.services entries).get? id = some s ↔
      ∃ c ∈ entries, c.id = id ∧ c.service = s := by
    intro id s
    have hnone : r.services.get? id = none := hempty id
    rw [get?_taking hids fun c _ => hempty c.id, hnone]
    simp
  refine ⟨hget, (List.perm_ext_iff_of_nodup (Keyed.nodup_keys _) hids).2 fun id => ?_⟩
  change id ∈ (taking r.services entries).keys ↔ _
  rw [Keyed.mem_keys, Option.isSome_iff_exists, List.mem_map]
  constructor
  · rintro ⟨s, hs⟩
    obtain ⟨c, hc, hid, -⟩ := (hget id s).1 hs
    exact ⟨c, hc, hid⟩
  · rintro ⟨c, hc, hid⟩
    exact ⟨c.service, (hget id _).2 ⟨c, hc, hid, rfl⟩⟩

/-- A list that is not all of one kind has a first element of another. -/
theorem exists_first {α : Type} {p : α → Prop} {l : List α} (h : ¬∀ a ∈ l, p a) :
    ∃ front a rest, l = front ++ a :: rest ∧ (∀ b ∈ front, p b) ∧ ¬p a := by
  classical
  cases hfind : l.find? (fun a => ¬p a) with
  | none =>
    simp only [List.find?_eq_none, decide_eq_true_eq, not_not] at hfind
    exact absurd hfind h
  | some a =>
    obtain ⟨ha, front, rest, hl, hfront⟩ := List.find?_eq_some_iff_append.1 hfind
    exact ⟨front, a, rest, hl, fun b hb => by simpa using hfront b hb, by simpa using ha⟩

theorem runs_registerAll {r : Registry} (hr : r.OnlyBuiltIn) (hempty : ∀ id, r.get? id = none)
    (front rest : List ServiceConfig) (hknown : ∀ c ∈ front, c.type = Service.typeName)
    (hrest : ∀ c ∈ rest.head?, c.type ≠ Service.typeName) (hids : (front.map (·.id)).Nodup) :
    (r.registerAll (front ++ rest)).value.1.Runs front ∧
      (r.registerAll (front ++ rest)).value.2 = verdict rest := by
  rw [registerAll_eq hr hknown hrest hids fun c _ => hempty c.id]
  exact ⟨runs_taking hempty hids, rfl⟩

/-- Of an accepted configuration, an empty registry takes all services in if their types are known. Otherwise
it takes in those in front of the first one of an unknown type, and tells that type. It never tells that an
id is taken. -/
theorem load_registry (env : Environment) (text : String) (c : Config) (h : Config.load env text = .ok c)
    (r : Registry) (hr : r.OnlyBuiltIn) (hempty : ∀ id, r.get? id = none) :
    let loaded := (r.load c).value
    (∀ id, loaded.2 ≠ .error (.duplicateService id)) ∧
    (loaded.2 = .ok () ↔ ∀ entry ∈ c.services, entry.type = Service.typeName) ∧
    (loaded.2 = .ok () → loaded.1.Runs c.services) ∧
    (loaded.2 ≠ .ok () → ∃ front entry rest, c.services = front ++ entry :: rest ∧
      (∀ before ∈ front, before.type = Service.typeName) ∧ entry.type ≠ Service.typeName ∧
      loaded.2 = .error (.unknownServiceType entry.type) ∧ loaded.1.Runs front) := by
  intro loaded
  have hids := (Config.accepted_of_load h).ids
  by_cases hknown : ∀ entry ∈ c.services, entry.type = Service.typeName
  · obtain ⟨hruns, hok⟩ := runs_registerAll hr hempty c.services [] hknown (by simp) hids
    rw [List.append_nil] at hruns hok
    replace hok : loaded.2 = .ok () := hok
    refine ⟨fun id => ?_, ⟨fun _ => hknown, fun _ => hok⟩, fun _ => hruns, fun hne => absurd hok hne⟩
    rw [hok]
    intro heq
    cases heq
  · obtain ⟨front, entry, rest, hsplit, hfront, hentry⟩ := exists_first hknown
    have hnodup : (front.map (·.id)).Nodup := by
      rw [hsplit, List.map_append] at hids
      exact (List.nodup_append.1 hids).1
    obtain ⟨hruns, herror⟩ :=
      runs_registerAll hr hempty front (entry :: rest) hfront (by simpa using hentry) hnodup
    rw [← hsplit] at hruns herror
    replace herror : loaded.2 = .error (.unknownServiceType entry.type) := herror
    have hne : loaded.2 ≠ .ok () := by
      rw [herror]
      intro heq
      cases heq
    refine ⟨fun id => ?_, ⟨fun hok => absurd hok hne, fun hall => absurd hall hknown⟩,
      fun hok => absurd hok hne, fun _ => ⟨front, entry, rest, hsplit, hfront, hentry, herror, hruns⟩⟩
    rw [herror]
    intro heq
    cases heq

/-- Three services, the second of which is of an unknown type. -/
def mixedText : String :=
  "homeserver_url = \"https://h\"\naccess_token = \"t\"\n" ++
  "[[services]]\nid = \"a\"\ntype = \"github\"\nuser_id = \"@a:h\"\nwebhook_secret = \"s\"\n" ++
  "[[services]]\nid = \"b\"\ntype = \"gitlab\"\nuser_id = \"@b:h\"\n" ++
  "[[services]]\nid = \"c\"\ntype = \"github\"\nuser_id = \"@c:h\"\n"

/-- What is read from it. -/
def mixedConfig : Config where
  listen := Config.defaultListen
  homeserverUrl := "https://h"
  accessToken := "t"
  services := [⟨"a", "github", "@a:h", some "s", none, .empty⟩, ⟨"b", "gitlab", "@b:h", none, none, .empty⟩,
    ⟨"c", "github", "@c:h", none, none, .empty⟩]

theorem load_registry_mixed :
    let loaded := ((new false).load mixedConfig).value
    Config.load (fun _ => none) mixedText = .ok mixedConfig ∧
      loaded.2 = .error (.unknownServiceType "gitlab") ∧
      loaded.1.get? "a" = some ⟨"a", "@a:h", some "s", .empty⟩ ∧ loaded.1.serviceIds = ["a"] := by
  intro loaded
  have haccepted : Config.load (fun _ => none) mixedText = .ok mixedConfig := by decide +kernel
  obtain ⟨-, hok, -, hfailed⟩ := load_registry _ _ _ haccepted (new false) ⟨false, rfl⟩ fun _ => rfl
  have hne : loaded.2 ≠ .ok () := fun h => absurd (hok.1 h) (by decide)
  obtain ⟨front, entry, rest, hsplit, hfront, hentry, herror, hruns, hids⟩ := hfailed hne
  -- only the second entry is of an unknown type
  rcases front with _ | ⟨first, _ | ⟨second, front⟩⟩
  · cases hsplit
    exact absurd rfl hentry
  · cases hsplit
    exact ⟨haccepted, herror, (hruns _ _).2 ⟨_, .head _, rfl, rfl⟩, List.perm_singleton.1 hids⟩
  · have hsecond : second.type = "gitlab" := by rw [← (List.cons.inj (List.cons.inj hsplit).2).1]
    have hknown := hfront second (.tail _ (.head _))
    rw [hsecond] at hknown
    exact absurd hknown (by decide)

end Registry

end ForgeBridge
