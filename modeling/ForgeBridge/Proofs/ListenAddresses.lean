import ForgeBridge.CommandLine.Parser
import ForgeBridge.Proofs.LoadedConfigs
import ForgeBridge.Startup

/-!
# Where the server listens

The address to listen at is told in the file, in the environment and on the command line. That of the environment takes
the place of the file's before the configuration is checked, and that of the command line only afterwards. So an address
in the file that cannot be read keeps the server from starting although another one is told on the command line, and
apart from that the address in the file makes no difference (`start_listen`).
-/

namespace ForgeBridge

namespace Config

variable {c c' : Config} {env : Environment}

/-! ## Configurations with different addresses -/

/-- The configurations are the same but for the address to listen at. -/
def SameButListen (c c' : Config) : Prop := c' = { c with listen := c'.listen }

theorem SameButListen.apply (h : SameButListen c c') (o : Overrides) : SameButListen (o.apply c) (o.apply c') := by
  rw [SameButListen, h]
  rfl

theorem SameButListen.emptyFields (h : SameButListen c c') : c'.emptyFields = c.emptyFields := by
  rw [h]
  rfl

/-- Of an address to listen at, the checks ask only whether it can be read. -/
theorem SameButListen.validate (h : SameButListen c c') (hread : c.listenAddress? = none ↔ c'.listenAddress? = none) :
    c'.validate = c.validate := by
  have hurl : c'.homeserverUrl = c.homeserverUrl := by rw [h]
  have hservices : c'.services = c.services := by rw [h]
  simp only [Config.validate, h.emptyFields, hurl, hservices, hread]

/-- An address that cannot be read is told if all required fields are there, and only then. -/
theorem validate_eq_badListen :
    c.validate = .error badListen ↔ c.emptyFields = [] ∧ c.listenAddress? = none := by
  constructor
  · intro h
    rcases fault_of_validate h with ⟨-, he⟩ | ⟨hfull, hread, -⟩ | ⟨-, -, field, message, hfield, he⟩
    · cases he
    · exact ⟨hfull, hread⟩
    · rw [badListen, ConfigError.invalidValue.injEq] at he
      exact absurd he.1.symm hfield
  · rintro ⟨hfull, hread⟩
    exact validate_listen hfull hread

/-- The checks tell two configurations apart that differ in the address to listen at, if the one address can be read
and the other one cannot, and no required field is empty. -/
theorem SameButListen.validate_eq_iff (h : SameButListen c c') :
    c'.validate = c.validate ↔
      c.emptyFields ≠ [] ∨ (c.listenAddress? = none ↔ c'.listenAddress? = none) := by
  constructor
  · intro heq
    refine or_iff_not_imp_left.2 fun hfull => ?_
    have hfull := not_not.1 hfull
    have hbad := validate_eq_badListen (c := c')
    rw [heq, validate_eq_badListen, h.emptyFields] at hbad
    simpa [hfull] using hbad
  · rintro (hempty | hread)
    · rw [validate_missing hempty, validate_missing (h.emptyFields ▸ hempty), h.emptyFields]
    · exact h.validate hread

/-! ## The environment -/

/-- Where the environment sets the address to listen at, it is the same for all files. -/
theorem SameButListen.apply_eq (h : SameButListen c c') {v : String} (hset : env.Sets "WADDLE_BRIDGE_LISTEN" v) :
    (Overrides.ofEnvironment env).apply c' = (Overrides.ofEnvironment env).apply c := by
  have hv : (Overrides.ofEnvironment env).listen = some v := Environment.text?_eq_some.2 hset
  rw [h.apply (.ofEnvironment env)]
  simp [Overrides.apply, hv]

theorem listen_apply (hunset : ∀ v, ¬env.Sets "WADDLE_BRIDGE_LISTEN" v) (c : Config) :
    ((Overrides.ofEnvironment env).apply c).listen = c.listen :=
  ((Overrides.overridden_apply env c).listen).2 hunset

/-- The checks of what the environment leaves make a difference between the two only through an address that the
environment does not set. -/
theorem SameButListen.validate_apply_iff (h : SameButListen c c') (env : Environment) :
    ((Overrides.ofEnvironment env).apply c').validate = ((Overrides.ofEnvironment env).apply c).validate ↔
      (∃ v, env.Sets "WADDLE_BRIDGE_LISTEN" v) ∨
        (∃ field ∈ ((Overrides.ofEnvironment env).apply c).requiredFields, field.2 = "") ∨
        (c.listenAddress? = none ↔ c'.listenAddress? = none) := by
  by_cases hset : ∃ v, env.Sets "WADDLE_BRIDGE_LISTEN" v
  · obtain ⟨v, hv⟩ := hset
    exact iff_of_true (by rw [h.apply_eq hv]) (.inl ⟨v, hv⟩)
  · have hunset := not_exists.1 hset
    rw [(h.apply (.ofEnvironment env)).validate_eq_iff, Ne, emptyFields_eq_nil]
    simp only [listenAddress?, listen_apply hunset, hset, false_or, not_forall, exists_prop, not_not]

/-! ## Files -/

variable {path text : String}

theorem loadFile_nul (hpath : '\x00' ∈ path.toList) (env : Environment) (file : FileState) :
    loadFile env path file = .error (.unreadable .nulInPath) := by
  unfold loadFile
  rw [if_pos (List.contains_iff_mem.2 hpath)]

theorem loadFile_of_read (hpath : '\x00' ∉ path.toList) (h : ofToml text = .ok c) (env : Environment) :
    loadFile env path (.file (Text.bytes text)) =
      ((Overrides.ofEnvironment env).apply c).validate.map fun _ => (Overrides.ofEnvironment env).apply c := by
  rw [loadFile, if_neg (mt List.contains_iff_mem.1 hpath)]
  simp only [Text.ofBytes?_bytes, load_eq h]

theorem loadFile_eq_error (hpath : '\x00' ∉ path.toList) (h : ofToml text = .ok c) {e : ConfigError} :
    loadFile env path (.file (Text.bytes text)) = .error e ↔
      ((Overrides.ofEnvironment env).apply c).validate = .error e := by
  rw [loadFile_of_read hpath h]
  cases ((Overrides.ofEnvironment env).apply c).validate <;> simp [Except.map]

end Config

namespace Startup

open CommandLine (Options)

variable {o : Options} {env : Environment} {file file' : Config.FileState}

/-- A start depends on the file only through what the command line leaves of its configuration. -/
theorem start_congr (h : (Config.loadFile env o.config file').map (override o) =
    (Config.loadFile env o.config file).map (override o)) : start o env file' = start o env file := by
  have hconfigure : configure o env file' = configure o env file := by
    unfold configure
    cases hload : Config.loadFile env o.config file <;> cases hload' : Config.loadFile env o.config file' <;>
      simp_all [Except.map]
  rw [start, hconfigure, start]

/-- Once a configuration has been loaded, no failure is told as one of loading. -/
theorem value_prepare_ne_loading (c : Config) (address : Net.SocketAddress) (path : String) (e : ConfigError) :
    (prepare c address).value ≠ .error (.loading path e) := by
  unfold prepare
  split
  · simp
  · simp only [Logged.value_bind]
    split <;> simp

theorem value_start_eq_loading {e : ConfigError} :
    (start o env file).value = .error (.loading o.config e) ↔ Config.loadFile env o.config file = .error e := by
  unfold start configure
  cases hload : Config.loadFile env o.config file with
  | error e' => simp
  | ok c =>
    cases haddress : (override o c).listenAddress with
    | error e' => simp [haddress]
    | ok address => simp [haddress, value_prepare_ne_loading]

theorem address_of_prepare {c : Config} {address : Net.SocketAddress} {ready : Ready}
    (h : (prepare c address).value = .ok ready) : ready.address = address := by
  unfold prepare at h
  split at h
  · cases h
  · simp only [Logged.value_bind] at h
    split at h <;> cases h
    rfl

/-- A server listens where the command line says. -/
theorem address_of_start {ready : Ready} {address : String} (hlisten : o.listen = some address)
    (h : (start o env file).value = .ok ready) : Net.SocketAddress.ofText? address = some ready.address := by
  unfold start configure at h
  simp only [Logged.value_bind] at h
  cases hload : Config.loadFile env o.config file with
  | error e => simp [hload] at h
  | ok c =>
    have hlistens : (override o c).listenAddress? = Net.SocketAddress.ofText? address := by
      simp [override, Config.listenAddress?, hlisten]
    simp only [hload, Config.listenAddress, hlistens] at h
    cases hread : Net.SocketAddress.ofText? address with
    | none => simp [hread] at h
    | some listens =>
      simp only [hread] at h
      rw [address_of_prepare h]

theorem start_nul (hpath : '\x00' ∈ o.config.toList) : start o env file' = start o env file :=
  start_congr (by rw [Config.loadFile_nul hpath, Config.loadFile_nul hpath])

variable {address text text' : String} {c c' : Config}

/-- What the command line leaves is the same for both. -/
theorem override_eq (hlisten : o.listen = some address) (hsame : c.SameButListen c') :
    override o c' = override o c := by
  rw [hsame]
  simp [override, hlisten]

theorem start_eq_of_validate (hlisten : o.listen = some address) (hpath : '\x00' ∉ o.config.toList)
    (hread : Config.ofToml text = .ok c) (hread' : Config.ofToml text' = .ok c') (hsame : c.SameButListen c')
    (hvalid : ((Overrides.ofEnvironment env).apply c').validate = ((Overrides.ofEnvironment env).apply c).validate) :
    start o env (.file (Text.bytes text')) = start o env (.file (Text.bytes text)) := by
  refine start_congr ?_
  rw [Config.loadFile_of_read hpath hread', Config.loadFile_of_read hpath hread, hvalid]
  cases ((Overrides.ofEnvironment env).apply c).validate with
  | error e => rfl
  | ok _ => exact congrArg Except.ok (override_eq hlisten (hsame.apply _))

/-- With an address on the command line, two starts end differently only where the checks do. -/
theorem validate_eq_of_value_start (hpath : '\x00' ∉ o.config.toList)
    (hread : Config.ofToml text = .ok c) (hread' : Config.ofToml text' = .ok c')
    (heq : (start o env (.file (Text.bytes text'))).value = (start o env (.file (Text.bytes text))).value) :
    ((Overrides.ofEnvironment env).apply c').validate = ((Overrides.ofEnvironment env).apply c).validate := by
  have herror (e : ConfigError) : ((Overrides.ofEnvironment env).apply c').validate = .error e ↔
      ((Overrides.ofEnvironment env).apply c).validate = .error e := by
    rw [← Config.loadFile_eq_error hpath hread', ← Config.loadFile_eq_error hpath hread, ← value_start_eq_loading,
      heq, value_start_eq_loading]
  cases hvalid : ((Overrides.ofEnvironment env).apply c).validate with
  | error e => exact (herror e).2 hvalid
  | ok _ =>
    cases hvalid' : ((Overrides.ofEnvironment env).apply c').validate with
    | error e => exact absurd ((herror e).1 hvalid') (by simp [hvalid])
    | ok _ => rfl

/-- Two files can be read and differ only in the address to listen at, and the command line tells an address. The starts
end alike if and only if the name of the file is no name at all, or the environment sets an address too, or a required
field is empty, or the addresses of both files can be read or those of neither can. If they end alike they log the same
too. A server that is ready listens at the address of the command line. Where the environment sets an address, the one
in the file makes no difference to what is loaded. -/
theorem start_listen (o : Options) (env : Environment) (address text text' : String) (c c' : Config)
    (hlisten : o.listen = some address) (hread : Config.ofToml text = .ok c) (hread' : Config.ofToml text' = .ok c')
    (hsame : c.SameButListen c') :
    let started (text : String) := start o env (.file (Text.bytes text))
    ((started text').value = (started text).value ↔
        '\x00' ∈ o.config.toList ∨ (∃ v, env.Sets "WADDLE_BRIDGE_LISTEN" v) ∨
          (∃ field ∈ ((Overrides.ofEnvironment env).apply c).requiredFields, field.2 = "") ∨
          (c.listenAddress? = none ↔ c'.listenAddress? = none)) ∧
      ((started text').value = (started text).value → started text' = started text) ∧
      (∀ ready, (started text).value = .ok ready → Net.SocketAddress.ofText? address = some ready.address) ∧
      ((∃ v, env.Sets "WADDLE_BRIDGE_LISTEN" v) → ∀ path,
        Config.loadFile env path (.file (Text.bytes text')) = Config.loadFile env path (.file (Text.bytes text))) := by
  intro started
  have hwhole : (started text').value = (started text).value → started text' = started text := by
    intro heq
    by_cases hpath : '\x00' ∈ o.config.toList
    · exact start_nul hpath
    · exact start_eq_of_validate hlisten hpath hread hread' hsame (validate_eq_of_value_start hpath hread hread' heq)
  refine ⟨?_, hwhole, fun ready h => address_of_start hlisten h, ?_⟩
  · by_cases hpath : '\x00' ∈ o.config.toList
    · exact iff_of_true (congrArg _ (start_nul hpath)) (.inl hpath)
    · rw [or_iff_right hpath, ← hsame.validate_apply_iff env]
      exact ⟨validate_eq_of_value_start hpath hread hread', fun hvalid =>
        congrArg _ (start_eq_of_validate hlisten hpath hread hread' hsame hvalid)⟩
  · rintro ⟨v, hset⟩ path
    by_cases hpath : '\x00' ∈ path.toList
    · rw [Config.loadFile_nul hpath, Config.loadFile_nul hpath]
    · rw [Config.loadFile_of_read hpath hread', Config.loadFile_of_read hpath hread, hsame.apply_eq hset]

/-- The options of a command line with an address that no machine has. -/
def elsewhere : Options := ⟨CommandLine.defaultConfig, some "203.0.113.1:4050", false⟩

def listeningText (listen : String) : String :=
  "listen = \"" ++ listen ++ "\"\nhomeserver_url = \"https://h\"\naccess_token = \"t\"\n"

def listeningConfig (listen : String) : Config := ⟨listen, "https://h", "t", []⟩

/-- An environment that sets the address to listen at. -/
def listeningAt (listen : String) : Environment := fun name =>
  if name = "WADDLE_BRIDGE_LISTEN" then some (Text.bytes listen) else none

theorem start_listeningText : ∃ ready,
    (start elsewhere (fun _ => none) (.file (Text.bytes (listeningText "127.0.0.1:80")))).value = .ok ready := by
  have hok : (start elsewhere (fun _ => none) (.file (Text.bytes (listeningText "127.0.0.1:80")))).value.isOk := by
    decide +kernel
  cases hstart : (start elsewhere (fun _ => none) (.file (Text.bytes (listeningText "127.0.0.1:80")))).value with
  | error e => rw [hstart] at hok; cases hok
  | ok ready => exact ⟨ready, rfl⟩

/-- Of two addresses in the file that can be read, neither makes a difference, and if the environment sets one, then not
even an address that cannot be read. -/
theorem start_listen_elsewhere :
    let started (env : Environment) (listen : String) :=
      start elsewhere env (.file (Text.bytes (listeningText listen)))
    (∃ ready, (started (fun _ => none) "127.0.0.1:80").value = .ok ready ∧
        Net.SocketAddress.ofText? "203.0.113.1:4050" = some ready.address) ∧
      started (fun _ => none) "[::1]:81" = started (fun _ => none) "127.0.0.1:80" ∧
      started (listeningAt "[::1]:81") "nope" = started (listeningAt "[::1]:81") "127.0.0.1:80" := by
  intro started
  have hread : Config.ofToml (listeningText "127.0.0.1:80") = .ok (listeningConfig "127.0.0.1:80") := by
    decide +kernel
  have hread' : Config.ofToml (listeningText "[::1]:81") = .ok (listeningConfig "[::1]:81") := by decide +kernel
  have hbad : Config.ofToml (listeningText "nope") = .ok (listeningConfig "nope") := by decide +kernel
  obtain ⟨hvalue, hwhole, haddress, -⟩ :=
    start_listen elsewhere (fun _ => none) "203.0.113.1:4050" _ _ _ _ rfl hread hread' rfl
  obtain ⟨hvalueSet, hwholeSet, -⟩ :=
    start_listen elsewhere (listeningAt "[::1]:81") "203.0.113.1:4050" _ _ _ _ rfl hread hbad rfl
  refine ⟨?_, hwhole (hvalue.2 ?_), hwholeSet (hvalueSet.2 ?_)⟩
  · obtain ⟨ready, hready⟩ := start_listeningText
    exact ⟨ready, hready, haddress ready hready⟩
  · exact .inr (.inr (.inr (by decide +kernel)))
  · exact .inr (.inl ⟨"[::1]:81", rfl, by decide⟩)

/-- The address on the command line comes too late for a file with an address that cannot be read, and the server does
not start. With another address in the file it does. -/
theorem start_listen_unreadable :
    let started (listen : String) :=
      (start elsewhere (fun _ => none) (.file (Text.bytes (listeningText listen)))).value
    CommandLine.parse ["--listen", "203.0.113.1:4050"] = .ok elsewhere ∧
      Config.ofToml (listeningText "nope") = .ok (listeningConfig "nope") ∧
      Config.ofToml (listeningText "127.0.0.1:80") = .ok (listeningConfig "127.0.0.1:80") ∧
      (listeningConfig "nope").SameButListen (listeningConfig "127.0.0.1:80") ∧
      started "nope" = .error (.loading "waddle-bridge.toml" Config.badListen) ∧
      (∃ ready, started "127.0.0.1:80" = .ok ready) ∧ started "127.0.0.1:80" ≠ started "nope" := by
  intro started
  have hbad : started "nope" = .error (.loading "waddle-bridge.toml" Config.badListen) := by
    refine value_start_eq_loading.2 ?_
    decide +kernel
  obtain ⟨ready, hready⟩ := start_listeningText
  refine ⟨by decide +kernel, by decide +kernel, by decide +kernel, rfl, hbad, ⟨ready, hready⟩, ?_⟩
  rw [hbad, show started "127.0.0.1:80" = .ok ready from hready]
  nofun

end Startup

end ForgeBridge
