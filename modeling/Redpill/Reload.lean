/-
Start and reload (`main` and `reload_config` of `server.rs`): two ways from a
configuration to the shared state of the server.  Both are given the files as
they find them.
-/
import Redpill.Config
import Redpill.Revocation
import Redpill.ShaperInterference

namespace Redpill

/-- The configuration with the fields that say where keys and decoy page
are. -/
structure FileConfig extends ServerConfig where
  pskFile : String
  usersDir : Option String
  decoyEnabled : Bool
  decoyPage : String
deriving Repr, DecidableEq

def FileConfig.default : FileConfig where
  toServerConfig := ServerConfig.default
  pskFile := "/etc/redpill/psk"
  usersDir := none
  decoyEnabled := true
  decoyPage := "/etc/redpill/decoy.html"

/-- What is on the disk: `loaded` is the result of `ServerConfig::load`, and
`creatable` says for which directories `create_dir_all` succeeds. -/
structure ServerFiles where
  isThere : String → Bool
  loaded : String → Option FileConfig
  dir : String → UsersDir
  creatable : String → Bool
  file : String → Option Text
  isThere_of_loaded : ∀ path, (loaded path).isSome = true → isThere path = true

/-- The whole of `ServerState`: to the part that the sessions share come the
token that stops the server, the decoy and the path of the configuration. -/
structure LiveState where
  state : ServerState
  cancelled : Bool
  decoyEnabled : Bool
  decoyPage : String
  configPath : String

namespace ServerFiles

/-- At start a missing directory of users is created. -/
def startDir (files : ServerFiles) (path : String) : Option UsersDir :=
  if (files.dir path).isThere then some (files.dir path)
  else if files.creatable path then some ⟨true, true, [], nofun⟩
  else none

/-- The authentication mode that `main` begins with. -/
def startAuth (files : ServerFiles) (config : FileConfig) : Option AuthMode :=
  match config.usersDir with
  | some path => do
      let dir ← files.startDir path
      let store ← (UserStore.load dir).toOption
      some (.multiUser store)
  | none => do
      let psk ← (loadPsk (files.file config.pskFile)).toOption
      some (.singlePsk ⟨psk⟩)

/-- A server freshly started with this path, if nothing stops it. -/
def start (files : ServerFiles) (configPath : String) : Option LiveState := do
  let config ←
    if files.isThere configPath then files.loaded configPath
    else some FileConfig.default
  let auth ← files.startAuth config
  let server ← config.toServerConfig.startServer auth
  some
    { state := server.state
      cancelled := false
      decoyEnabled := config.decoyEnabled
      decoyPage := config.decoyPage
      configPath := configPath }

/-- What the reload of the keys looks at. -/
def disk (files : ServerFiles) (configPath : String) : Disk where
  config := (files.loaded configPath).map fun config =>
    ⟨config.maxConnections, config.usersDir, config.pskFile⟩
  dir := files.dir
  file := files.file

end ServerFiles

namespace LiveState

/-- `reload_config`, with everything that it stores. -/
def reloadConfig (live : LiveState) (files : ServerFiles) : LiveState :=
  match files.loaded live.configPath with
  | none => live
  | some config =>
      let live :=
        { live with
          state := { live.state with maxConnections := config.maxConnections }
          decoyPage := config.decoyPage }
      match config.usersDir with
      | some usersDir =>
          match UserStore.load (files.dir usersDir) with
          | .ok store =>
              { live with state := { live.state with auth := .multiUser store } }
          | .error _ => live
      | none =>
          match loadPsk (files.file config.pskFile) with
          | .ok psk =>
              { live with state := { live.state with auth := .singlePsk ⟨psk⟩ } }
          | .error _ => live

/-- The reload finds a configuration and its keys. -/
def reloads (live : LiveState) (files : ServerFiles) : Bool :=
  match files.loaded live.configPath with
  | none => false
  | some config =>
      match config.usersDir with
      | some usersDir => (UserStore.load (files.dir usersDir)).toOption.isSome
      | none => (loadPsk (files.file config.pskFile)).toOption.isSome

/-- Nothing but the reloadable fields differs. -/
def SameBut (live after : LiveState) : Prop :=
  after =
    { live with
      state :=
        { live.state with
          auth := after.state.auth
          maxConnections := after.state.maxConnections
          shaper :=
            { live.state.shaper with maxRate := after.state.shaper.maxRate } }
      decoyPage := after.decoyPage }

/-- After a reload the server has the reloadable fields of a fresh one, and all
others as before. -/
structure AgreesWithRestart (live after fresh : LiveState) : Prop where
  maxConnections : after.state.maxConnections = fresh.state.maxConnections
  maxRate : after.state.shaper.maxRate = fresh.state.shaper.maxRate
  decoyPage : after.decoyPage = fresh.decoyPage
  auth : after.state.auth = fresh.state.auth
  sameBut : live.SameBut after

/-- On the part that the sessions share, the reload is the one of the server. -/
theorem reloadConfig_state (live : LiveState) (files : ServerFiles) :
    (live.reloadConfig files).state =
      Redpill.reloadConfig live.state (files.disk live.configPath) := by
  cases hloaded : files.loaded live.configPath with
  | none =>
      simp only [reloadConfig, Redpill.reloadConfig, ServerFiles.disk, hloaded,
        Option.map_none]
  | some config =>
      cases husers : config.usersDir with
      | some usersDir =>
          cases hload : UserStore.load (files.dir usersDir) <;>
            simp only [reloadConfig, Redpill.reloadConfig, ServerFiles.disk,
              hloaded, Option.map_some, husers, hload]
      | none =>
          cases hload : loadPsk (files.file config.pskFile) <;>
            simp only [reloadConfig, Redpill.reloadConfig, ServerFiles.disk,
              hloaded, Option.map_some, husers, hload]

/-- Where its files load, the reload takes limit, decoy page and keys over, the
keys as a fresh start would; it does not touch anything else. -/
theorem reloadConfig_eq {live : LiveState} {files : ServerFiles}
    {config : FileConfig} (hloaded : files.loaded live.configPath = some config)
    (hreloads : live.reloads files = true) :
    ∃ auth, files.startAuth config = some auth ∧
      live.reloadConfig files =
        { live with
          state :=
            { live.state with
              auth := auth, maxConnections := config.maxConnections }
          decoyPage := config.decoyPage } := by
  simp only [reloads, hloaded] at hreloads
  simp only [reloadConfig, hloaded, ServerFiles.startAuth]
  cases husers : config.usersDir with
  | some usersDir =>
      simp only [husers] at hreloads
      cases hload : UserStore.load (files.dir usersDir) with
      | error error =>
          simp only [hload] at hreloads
          exact absurd hreloads Bool.false_ne_true
      | ok store =>
          have hthere : (files.dir usersDir).isThere = true := by
            by_contra hmissing
            rw [UserStore.load, if_pos (by simpa using hmissing)] at hload
            exact absurd hload (by simp)
          refine ⟨.multiUser store, ?_, ?_⟩
          · simp [ServerFiles.startDir, hthere, hload, Except.toOption]
          · simp only [hload]
  | none =>
      simp only [husers] at hreloads
      cases hload : loadPsk (files.file config.pskFile) with
      | error error =>
          simp only [hload] at hreloads
          exact absurd hreloads Bool.false_ne_true
      | ok psk =>
          refine ⟨.singlePsk ⟨psk⟩, ?_, ?_⟩
          · simp [Except.toOption]
          · rfl

end LiveState

/-- What a fresh start takes from a configuration that loads. -/
theorem ServerFiles.start_eq {files : ServerFiles} {configPath : String}
    {config : FileConfig} {fresh : LiveState}
    (hloaded : files.loaded configPath = some config)
    (hfresh : files.start configPath = some fresh) :
    files.startAuth config = some fresh.state.auth ∧
      fresh.state.maxConnections = config.maxConnections ∧
      fresh.state.shaper = AdaptiveShaper.new config.maxBandwidthMbps ∧
      fresh.decoyPage = config.decoyPage := by
  have hthere : files.isThere configPath = true :=
    files.isThere_of_loaded configPath (by rw [hloaded]; rfl)
  simp only [start, hthere, if_true, hloaded, Option.bind_eq_bind,
    Option.bind_some, Option.bind_eq_some_iff, Option.some.injEq] at hfresh
  obtain ⟨auth, hauth, server, hserver, rfl⟩ := hfresh
  obtain ⟨serverIp, _, hserver⟩ := Option.bind_eq_some_iff.mp hserver
  obtain ⟨dnsIp, _, rfl⟩ := Option.map_eq_some_iff.mp hserver
  exact ⟨hauth, rfl, rfl, rfl⟩

namespace LiveState

/-- Reload agrees with restart exactly if the running shaper already has the
maximum rate of the new configuration. -/
theorem reload_agrees_iff (live : LiveState) (files : ServerFiles)
    (config : FileConfig) (fresh : LiveState)
    (hloaded : files.loaded live.configPath = some config)
    (hreloads : live.reloads files = true)
    (hfresh : files.start live.configPath = some fresh) :
    live.AgreesWithRestart (live.reloadConfig files) fresh ↔
      live.state.shaper.maxRate =
        AdaptiveShaper.capOf config.maxBandwidthMbps := by
  obtain ⟨auth, hauth, hreload⟩ := reloadConfig_eq hloaded hreloads
  obtain ⟨hfreshAuth, hlimit, hshaper, hpage⟩ :=
    ServerFiles.start_eq hloaded hfresh
  have hcap : fresh.state.shaper.maxRate =
      AdaptiveShaper.capOf config.maxBandwidthMbps := by
    rw [hshaper, AdaptiveShaper.new]
  rw [hreload, ← hcap]
  constructor
  · intro hagrees
    exact hagrees.maxRate
  · intro hrate
    exact
      { maxConnections := hlimit.symm
        maxRate := hrate
        decoyPage := hpage.symm
        auth := Option.some.inj (hauth.symm.trans hfreshAuth)
        sameBut := rfl }

end LiveState

theorem AdaptiveShaper.updateRtt_maxRate (shaper : AdaptiveShaper) (rtt : Nat) :
    (shaper.updateRtt rtt).maxRate = shaper.maxRate := by
  simp only [updateRtt]
  split
  · rfl
  · split
    · rfl
    · split <;> rfl

theorem AdaptiveShaper.after_maxRate (shaper : AdaptiveShaper)
    (events : List DataEvent) :
    (shaper.after events).maxRate = shaper.maxRate := by
  induction events generalizing shaper with
  | nil => rfl
  | cons event rest ih =>
      cases event with
      | packet client now bytes => exact ih _
      | rttSample client rtt =>
          exact (ih _).trans (shaper.updateRtt_maxRate rtt)

/-- No step of a running server changes the maximum rate: it stays the one of
the configuration that the server was started with. -/
theorem ServerConfig.Running.maxRate {hmac : Hmac} {config : ServerConfig}
    {state : ServerState} (h : config.Running hmac state) :
    state.shaper.maxRate = AdaptiveShaper.capOf config.maxBandwidthMbps := by
  obtain ⟨auth, start, server, hstart, hreach, rfl⟩ := h
  apply Machine.Reachable.invariant _ _ hreach
  · intro server label next hserver hstep
    rw [Server.step_shaper hstep, AdaptiveShaper.after_maxRate, hserver]
  · obtain ⟨serverIp, _, hstart⟩ := Option.bind_eq_some_iff.mp hstart
    obtain ⟨dnsIp, _, rfl⟩ := Option.map_eq_some_iff.mp hstart
    rfl

namespace LiveState

/-- Files on which the configuration has this bandwidth, and no user a key. -/
def sampleFiles (maxBandwidthMbps : Nat) : ServerFiles where
  isThere := fun _ => true
  loaded := fun _ => some
    { FileConfig.default with
      maxBandwidthMbps := maxBandwidthMbps, usersDir := some "users" }
  dir := fun _ => ⟨true, true, [], nofun⟩
  creatable := fun _ => false
  file := fun _ => none
  isThere_of_loaded := fun _ _ => rfl

/-- The server that starts on them, without a cap. -/
def sampleLive : LiveState where
  state := (Server.start (.multiUser UserStore.empty) ⟨10, 0, 1, 0⟩
    ⟨10, 0, 1, 1⟩ ⟨1, 1, 1, 1⟩ 1200 64 0).state
  cancelled := false
  decoyEnabled := true
  decoyPage := "/etc/redpill/decoy.html"
  configPath := "/etc/redpill/server.toml"

theorem sampleFiles_start (maxBandwidthMbps : Nat) :
    (sampleFiles maxBandwidthMbps).start sampleLive.configPath = some
      { sampleLive with
        state := { sampleLive.state with
          shaper := AdaptiveShaper.new maxBandwidthMbps } } := by
  have htun : parseIpv4Addr "10.0.1.1" =
      some ⟨10, 0, 1, 1⟩ := by decide +kernel
  have hdns : parseIpv4Addr "1.1.1.1" = some ⟨1, 1, 1, 1⟩ := by
    decide +kernel
  simp [ServerFiles.start, sampleFiles, ServerFiles.startAuth,
    ServerFiles.startDir, UserStore.load, UserStore.loadEntries,
    Except.toOption, ServerConfig.startServer, htun, hdns, Server.start,
    sampleLive, FileConfig.default, ServerConfig.default]

theorem reload_agrees_uncapped :
    sampleLive.AgreesWithRestart (sampleLive.reloadConfig (sampleFiles 0))
      { sampleLive with
        state := { sampleLive.state with shaper := AdaptiveShaper.new 0 } } :=
  (reload_agrees_iff sampleLive (sampleFiles 0) _ _ rfl rfl
    (sampleFiles_start 0)).mpr rfl

/-- A cap of 100 Mbps is added to the configuration: a restart would enforce
it, the reload does not. -/
theorem reload_misses_cap :
    sampleLive.reloads (sampleFiles 100) = true ∧
      ((sampleFiles 100).start sampleLive.configPath).map
        (fun fresh => fresh.state.shaper.maxRate) = some 12500000 ∧
      (sampleLive.reloadConfig (sampleFiles 100)).state.shaper.maxRate = 0 ∧
      ∀ fresh, (sampleFiles 100).start sampleLive.configPath = some fresh →
        ¬ sampleLive.AgreesWithRestart
          (sampleLive.reloadConfig (sampleFiles 100)) fresh := by
  refine ⟨rfl, ?_, rfl, ?_⟩
  · rw [sampleFiles_start]
    rfl
  · intro fresh hfresh hagrees
    rw [sampleFiles_start, Option.some.injEq] at hfresh
    rw [← hfresh] at hagrees
    have hrate : (0 : Nat) = 12500000 := hagrees.maxRate
    exact absurd hrate (by decide)

end LiveState

end Redpill
