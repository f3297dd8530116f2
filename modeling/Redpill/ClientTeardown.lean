/-
Client teardown.  When `run_client` returns, what it installed is gone exactly
if no setup command failed while something was already installed and the DNS
override had its backup: the cleanup follows the loop, but an error leaves the
function before it.
-/
import Redpill.ClientLoop

namespace Redpill

namespace SetupInput

/-- A gateway is found and the first route is added: from here on there is
something to undo. -/
def starts (input : SetupInput) (serverRealIp : String) : Bool :=
  input.gatewayOk && input.succeeds (.addRoute serverRealIp)

/-- Everything after the first route works, so that the cleanup undoes it. -/
def completes (input : SetupInput) (platform : Platform) : Bool :=
  input.halvesOk && input.dnsOk && input.backupOk platform &&
    input.enableOk platform

end SetupInput

namespace Client

/-- The connection sets up routes, DNS and kill-switch. -/
def setsUp (settings : ClientSettings) (client : Client) : Bool :=
  !settings.testMode && !client.routesConfigured && !settings.loopback

/-- An event whose effects a later cleanup undoes: the interface is configured
whenever the routes are, and a setup that has added its first route is
completed. -/
def Undoable (settings : ClientSettings) (client : Client) :
    ClientEvent → Prop
  | .connected input =>
      (client.routesConfigured = true →
          input.interfaceOk settings.platform = true) ∧
        (input.interfaceOk settings.platform = true →
          client.setsUp settings = true →
          input.starts settings.serverRealIp = true →
          input.completes settings.platform = true)
  | _ => True

instance decidableUndoable (settings : ClientSettings) (client : Client) :
    ∀ event, Decidable (client.Undoable settings event)
  | .connected _ => inferInstanceAs (Decidable (_ ∧ _))
  | .connectFailed => isTrue trivial
  | .tunnelLost => isTrue trivial
  | .healthReconnect => isTrue trivial
  | .backoffElapsed => isTrue trivial
  | .shutdown => isTrue trivial

/-- The loop before its setup. -/
structure Untouched (client : Client) : Prop where
  routesConfigured : client.routesConfigured = false
  savedRoutes : client.savedRoutes = none
  killswitchEnabled : client.killswitchEnabled = false
  clean : client.system.Clean
  backup : client.system.dnsBackup = false

/-- The loop after a setup that can be undone. -/
structure Configured (platform : Platform) (client : Client) : Prop where
  routesConfigured : client.routesConfigured = true
  savedRoutes : ∃ saved, client.savedRoutes = some saved ∧
    client.system.routes = saved.routes
  killswitchEnabled : client.killswitchEnabled = true
  backup : platform = .linux → client.system.dnsBackup = true
  rules : platform = .linux → client.system.killSwitch = []

/-- The loop after a setup that overrode DNS without a backup. -/
structure Unrestorable (platform : Platform) (client : Client) : Prop where
  linux : platform = .linux
  routesConfigured : client.routesConfigured = true
  dnsOverride : client.system.dnsOverride = true
  backup : client.system.dnsBackup = false

/-- The loop has not been left. -/
def running (client : Client) : Bool :=
  match client.phase with
  | .returned _ => false
  | _ => true

/-- What is installed is what the cleanup would undo; after the return, it is
nothing. -/
def Sound (settings : ClientSettings) (client : Client) : Prop :=
  if client.running then
    client.Untouched ∨ client.Configured settings.platform
  else client.system.Clean

/-- Something is installed that nothing will undo. -/
def Tainted (settings : ClientSettings) (client : Client) : Prop :=
  if client.running then client.Unrestorable settings.platform
  else ¬ client.system.Clean

variable {settings : ClientSettings} {client next : Client} {input : SetupInput}

theorem finishFullTunnel_ok {saved : SavedRoutes} {overridden enabled : System}
    (hdns : input.setupClientDns settings.platform client.system =
      .ok () overridden)
    (henable : input.enable settings.platform overridden = .ok () enabled) :
    finishFullTunnel settings input saved client =
      .ok () { client with
        system := enabled
        routesConfigured := true
        savedRoutes := some saved
        killswitchEnabled := true } := by
  simp [finishFullTunnel, bind, EStateM.bind, onSystem, hdns, henable, modify,
    modifyGet, MonadStateOf.modifyGet, EStateM.modifyGet]

theorem finishFullTunnel_enable_error {saved : SavedRoutes}
    {overridden failed : System} {error : ClientError}
    (hdns : input.setupClientDns settings.platform client.system =
      .ok () overridden)
    (henable : input.enable settings.platform overridden =
      .error error failed) :
    finishFullTunnel settings input saved client =
      .error error { client with
        system := failed
        routesConfigured := true
        savedRoutes := some saved } := by
  simp [finishFullTunnel, bind, EStateM.bind, onSystem, hdns, henable, modify,
    modifyGet, MonadStateOf.modifyGet, EStateM.modifyGet]

theorem finishFullTunnel_dns_error {saved : SavedRoutes} {failed : System}
    {error : ClientError}
    (hdns : input.setupClientDns settings.platform client.system =
      .error error failed) :
    finishFullTunnel settings input saved client =
      .error error { client with system := failed } := by
  simp [finishFullTunnel, bind, EStateM.bind, onSystem, hdns]

/-- What the second half of the setup can do, once the routes are there:
complete, fail with the routes in place, or override DNS without a backup. -/
theorem finishFullTunnel_cases (client : Client) (saved : SavedRoutes)
    (hroutes : client.system.routes = saved.routes)
    (hbackup : client.system.dnsBackup = false)
    (hrules : client.system.killSwitch = []) :
    (input.dnsOk = true ∧ input.backupOk settings.platform = true ∧
        input.enableOk settings.platform = true ∧
        ∃ next, finishFullTunnel settings input saved client = .ok () next ∧
          next.Configured settings.platform) ∨
      ((input.dnsOk && input.backupOk settings.platform &&
          input.enableOk settings.platform) = false ∧
        ((∃ error failed, finishFullTunnel settings input saved client =
            .error error failed ∧ failed.system.routes ≠ []) ∨
          ∃ next, finishFullTunnel settings input saved client = .ok () next ∧
            next.Unrestorable settings.platform)) := by
  have hleft : saved.routes ≠ [] := List.cons_ne_nil _ _
  rcases input.setupClientDns_cases settings.platform client.system with
    ⟨hdns, overridden, hrun, hsame, hoverride, hsameRules, hlinux⟩ |
      ⟨hdns, error, failed, hrun, hsame⟩
  · have hkept : overridden.routes = saved.routes := hsame.trans hroutes
    obtain ⟨rules, ⟨henable, henabled⟩ | ⟨henable, error, henabled⟩⟩ :=
      input.rulesOnly_enable settings.platform overridden
    · cases hrestore : input.backupOk settings.platform with
      | true =>
          refine Or.inl ⟨hdns, rfl, henable, _,
            finishFullTunnel_ok hrun henabled, ?_⟩
          refine ⟨rfl, ⟨saved, rfl, hkept⟩, rfl, ?_, ?_⟩
          · intro hplatform
            have hnow := hlinux hplatform
            rwa [hrestore] at hnow
          · intro hplatform
            rw [hplatform] at henabled
            injection henabled with _ hsystem
            have hunchanged : overridden.killSwitch = rules :=
              congrArg System.killSwitch hsystem
            exact hunchanged.symm.trans (hsameRules.trans hrules)
      | false =>
          have hplatform : settings.platform = .linux := by
            cases hplatform : settings.platform with
            | linux => rfl
            | _ =>
                rw [hplatform] at hrestore
                cases hrestore
          refine Or.inr ⟨by simp, Or.inr ⟨_,
            finishFullTunnel_ok hrun henabled, hplatform, rfl, hoverride, ?_⟩⟩
          have hnow := hlinux hplatform
          rw [hrestore, hbackup] at hnow
          exact hnow
    · refine Or.inr ⟨by simp [henable], Or.inl ⟨error, _,
        finishFullTunnel_enable_error hrun henabled, ?_⟩⟩
      change overridden.routes ≠ []
      rw [hkept]
      exact hleft
  · refine Or.inr ⟨by simp [hdns], Or.inl ⟨error, _,
      finishFullTunnel_dns_error hrun, ?_⟩⟩
    change failed.routes ≠ []
    rw [hsame, hroutes]
    exact hleft

/-- What the setup of an untouched client can do: fail before anything is
installed, complete, or leave something behind. -/
theorem setupFullTunnel_cases (settings : ClientSettings) (input : SetupInput)
    (h : client.Untouched) :
    (input.starts settings.serverRealIp = false ∧
        ∃ error, setupFullTunnel settings input client = .error error client) ∨
      (input.starts settings.serverRealIp = true ∧
        input.completes settings.platform = true ∧
        ∃ next, setupFullTunnel settings input client = .ok () next ∧
          next.Configured settings.platform) ∨
      (input.starts settings.serverRealIp = true ∧
        input.completes settings.platform = false ∧
        ((∃ error failed, setupFullTunnel settings input client =
            .error error failed ∧ failed.system.routes ≠ []) ∨
          ∃ next, setupFullTunnel settings input client = .ok () next ∧
            next.Unrestorable settings.platform)) := by
  obtain ⟨hroutes, _, hrules⟩ := h.clean
  rcases input.getDefaultGateway_cases client.system with
    ⟨hgateway, gateway, hrun⟩ | ⟨hgateway, error, hrun⟩
  · rcases input.setupClientRoutes_cases settings.serverRealIp gateway
        client.system with
      ⟨hhost, error, hadd⟩ | ⟨hhost, hhalves, hadd⟩ |
        ⟨hhost, hhalves, error, failed, hadd, hleft⟩
    · left
      refine ⟨by simp [SetupInput.starts, hhost], error, ?_⟩
      simp [setupFullTunnel, bind, EStateM.bind, onSystem, hrun, hadd]
    · right
      have hstarts : input.starts settings.serverRealIp = true := by
        simp [SetupInput.starts, hgateway, hhost]
      rw [hroutes, List.nil_append] at hadd
      let saved : SavedRoutes :=
        ⟨settings.serverRealIp, gateway, input.serverTunnelIp⟩
      let routed : Client :=
        { client with
          system := { client.system with routes := saved.routes } }
      have hsetup : setupFullTunnel settings input client =
          finishFullTunnel settings input saved routed := by
        simp [setupFullTunnel, bind, EStateM.bind, onSystem, hrun, hadd, saved, routed]
      have hcompletes : input.completes settings.platform =
          (input.dnsOk && input.backupOk settings.platform &&
            input.enableOk settings.platform) := by
        rw [SetupInput.completes, hhalves, Bool.true_and]
      rw [hsetup, hcompletes]
      rcases finishFullTunnel_cases routed saved rfl h.backup hrules with
        ⟨hdns, hbackup, henable, hdone⟩ | ⟨hfails, hdone⟩
      · exact Or.inl ⟨hstarts, by rw [hdns, hbackup, henable]; rfl, hdone⟩
      · exact Or.inr ⟨hstarts, hfails, hdone⟩
    · right
      right
      refine ⟨by simp [SetupInput.starts, hgateway, hhost],
        by simp [SetupInput.completes, hhalves],
        Or.inl ⟨error, { client with system := failed }, ?_, hleft⟩⟩
      simp [setupFullTunnel, bind, EStateM.bind, onSystem, hrun, hadd]
  · left
    refine ⟨by simp [SetupInput.starts, hgateway], error, ?_⟩
    simp [setupFullTunnel, bind, EStateM.bind, onSystem, hrun]

theorem onConnected_interface_error
    (h : input.interfaceOk settings.platform = false) :
    ∃ error, onConnected settings input client =
      .error error { client with attempt := 0 } := by
  rcases input.configureClientInterface_cases settings.platform client.system
    with ⟨hok, _⟩ | ⟨_, error, hrun⟩
  · rw [h] at hok
    cases hok
  · refine ⟨error, ?_⟩
    simp [onConnected, bind, EStateM.bind, onSystem, hrun, modify, modifyGet,
      MonadStateOf.modifyGet, EStateM.modifyGet]

theorem onConnected_interface_ok
    (h : input.interfaceOk settings.platform = true) :
    onConnected settings input client =
      if client.setsUp settings then
        setupFullTunnel settings input { client with attempt := 0 }
      else .ok () { client with attempt := 0 } := by
  rcases input.configureClientInterface_cases settings.platform client.system
    with ⟨_, hrun⟩ | ⟨hfails, _⟩
  · cases htest : settings.testMode <;>
      cases hconfigured : client.routesConfigured <;>
      cases hloopback : settings.loopback <;>
      simp [onConnected, setsUp, bind, EStateM.bind, onSystem, hrun, modify,
        modifyGet, MonadStateOf.modifyGet, EStateM.modifyGet, getThe, get,
        MonadStateOf.get, EStateM.get, pure, EStateM.pure, htest, hconfigured,
        hloopback]
  · rw [h] at hfails
    cases hfails

/-- The steps of the loop: a move between its phases, the way out through the
cleanup, or a connection. -/
theorem step_cases {event : ClientEvent}
    (h : client.step settings event = some next) :
    client.running = true ∧
      ((∃ phase attempt, next = { client with phase := phase, attempt := attempt } ∧
          next.running = true ∧ ∀ input, event ≠ .connected input) ∨
        (event = .shutdown ∧
          next = { client.cleanup settings with phase := .returned none }) ∨
        ∃ input, event = .connected input ∧
          next = settle (onConnected settings input client)) := by
  cases event with
  | connected input =>
      simp only [step] at h
      split at h
      · rename_i hphase
        exact ⟨by rw [running, hphase],
          Or.inr (Or.inr ⟨input, rfl, (Option.some.inj h).symm⟩)⟩
      · cases h
  | shutdown =>
      cases hphase : client.phase with
      | returned error =>
          rw [step, hphase] at h
          cases h
      | _ =>
          rw [step, hphase] at h
          exact ⟨by rw [running, hphase],
            Or.inr (Or.inl ⟨rfl, (Option.some.inj h).symm⟩)⟩
  | _ =>
      simp only [step] at h
      split at h
      · rename_i hphase
        obtain rfl := Option.some.inj h
        exact ⟨by rw [running, hphase], Or.inl ⟨_, _, rfl, rfl, nofun⟩⟩
      · cases h

theorem cleanup_of_untouched (h : client.Untouched) :
    (client.cleanup settings).system = client.system := by
  simp [cleanup, h.savedRoutes, h.killswitchEnabled]

theorem cleanup_of_configured (h : client.Configured settings.platform) :
    (client.cleanup settings).system.Clean := by
  obtain ⟨saved, hsaved, hroutes⟩ := h.savedRoutes
  have hsystem : (client.cleanup settings).system =
      ((client.system.disable settings.platform).cleanupClientDns
        settings.platform).cleanupClientRoutes saved settings.platform := by
    simp [cleanup, hsaved, h.killswitchEnabled]
  obtain ⟨hframe, hrules⟩ := (client.system.disable
    settings.platform).cleanupClientDns_frame settings.platform
  obtain ⟨hkept, hbackup, hdisabled⟩ :=
    client.system.disable_facts settings.platform
  rw [hsystem, System.cleanupClientRoutes_eq (hframe.trans (hkept.trans hroutes))]
  refine ⟨rfl, ?_, hrules.trans (hdisabled h.rules)⟩
  apply System.cleanupClientDns_dnsOverride
  intro hplatform
  exact hbackup.trans (h.backup hplatform)

/-- Without its backup the DNS override survives the cleanup. -/
theorem cleanup_of_unrestorable (h : client.Unrestorable settings.platform) :
    ¬ (client.cleanup settings).system.Clean := by
  intro hclean
  have hoverride : (client.cleanup settings).system.dnsOverride = true := by
    cases hsaved : client.savedRoutes <;>
      simp [cleanup, hsaved, h.linux, System.disable, System.cleanupClientDns,
        h.backup, System.cleanupClientRoutes, System.delRoute, h.dnsOverride]
  rw [hclean.2.1] at hoverride
  cases hoverride

theorem sound_disjoint (h : client.Sound settings) :
    ¬ client.Tainted settings := by
  intro htainted
  cases hrunning : client.running with
  | false =>
      simp only [Sound, Tainted, hrunning, Bool.false_eq_true, if_false] at h htainted
      exact htainted h
  | true =>
      simp only [Sound, Tainted, hrunning, if_true] at h htainted
      rcases h with huntouched | hconfigured
      · have hroutes := htainted.routesConfigured
        rw [huntouched.routesConfigured] at hroutes
        cases hroutes
      · have hbackup := hconfigured.backup htainted.linux
        rw [htainted.backup] at hbackup
        cases hbackup

theorem Untouched.move (h : client.Untouched) (phase : ClientPhase)
    (attempt : Nat) :
    Untouched { client with phase := phase, attempt := attempt } :=
  ⟨h.routesConfigured, h.savedRoutes, h.killswitchEnabled, h.clean, h.backup⟩

theorem Configured.move {platform : Platform} (h : client.Configured platform)
    (phase : ClientPhase) (attempt : Nat) :
    Configured platform { client with phase := phase, attempt := attempt } :=
  ⟨h.routesConfigured, h.savedRoutes, h.killswitchEnabled, h.backup, h.rules⟩

theorem Unrestorable.move {platform : Platform}
    (h : client.Unrestorable platform) (phase : ClientPhase) (attempt : Nat) :
    Unrestorable platform { client with phase := phase, attempt := attempt } :=
  ⟨h.linux, h.routesConfigured, h.dnsOverride, h.backup⟩

theorem Configured.not_clean {platform : Platform}
    (h : client.Configured platform) : ¬ client.system.Clean := by
  intro hclean
  obtain ⟨saved, _, hroutes⟩ := h.savedRoutes
  rw [hclean.1] at hroutes
  cases hroutes

theorem Unrestorable.not_clean {platform : Platform}
    (h : client.Unrestorable platform) : ¬ client.system.Clean := by
  intro hclean
  have hoverride := h.dnsOverride
  rw [hclean.2.1] at hoverride
  cases hoverride

/-- A connection of a client that is set up keeps it so, unless the interface
cannot be configured: then everything stays installed. -/
theorem settle_of_configured (h : client.Configured settings.platform) :
    (client.Undoable settings (.connected input) ∧
        (settle (onConnected settings input client)).Sound settings) ∨
      (¬ client.Undoable settings (.connected input) ∧
        (settle (onConnected settings input client)).Tainted settings) := by
  have hskip : client.setsUp settings = false := by
    simp [setsUp, h.routesConfigured]
  cases hok : input.interfaceOk settings.platform with
  | true =>
      left
      rw [onConnected_interface_ok hok, hskip]
      refine ⟨⟨fun _ => hok, ?_⟩, Or.inr (h.move .tunnelling 0)⟩
      intro _ hsetsUp
      rw [hskip] at hsetsUp
      cases hsetsUp
  | false =>
      right
      obtain ⟨error, hrun⟩ := onConnected_interface_error hok
      refine ⟨?_, ?_⟩
      · intro hundoable
        have hinterface := hundoable.1 h.routesConfigured
        rw [hok] at hinterface
        cases hinterface
      · rw [hrun]
        exact h.not_clean

theorem settle_of_untouched (h : client.Untouched) :
    (client.Undoable settings (.connected input) ∧
        (settle (onConnected settings input client)).Sound settings) ∨
      (¬ client.Undoable settings (.connected input) ∧
        (settle (onConnected settings input client)).Tainted settings) := by
  have hfresh : client.routesConfigured = true →
      input.interfaceOk settings.platform = true := by
    intro hroutes
    rw [h.routesConfigured] at hroutes
    cases hroutes
  cases hok : input.interfaceOk settings.platform with
  | false =>
      left
      obtain ⟨error, hrun⟩ := onConnected_interface_error hok
      rw [hrun]
      refine ⟨⟨hfresh, ?_⟩, h.clean⟩
      intro hinterface
      rw [hok] at hinterface
      cases hinterface
  | true =>
      rw [onConnected_interface_ok hok]
      cases hsetsUp : client.setsUp settings with
      | false =>
          left
          refine ⟨⟨hfresh, ?_⟩, Or.inl (h.move .tunnelling 0)⟩
          intro _ hsets
          rw [hsetsUp] at hsets
          cases hsets
      | true =>
          rw [if_pos rfl]
          rcases setupFullTunnel_cases settings input
              (h.move client.phase 0) with
            ⟨hstarts, error, hrun⟩ | ⟨_, hcompletes, next, hrun, hnext⟩ |
              ⟨hstarts, hcompletes, hleft⟩
          · left
            rw [hrun]
            refine ⟨⟨hfresh, ?_⟩, h.clean⟩
            intro _ _ hsetup
            rw [hstarts] at hsetup
            cases hsetup
          · left
            rw [hrun]
            exact ⟨⟨hfresh, fun _ _ _ => hcompletes⟩,
              Or.inr (hnext.move .tunnelling next.attempt)⟩
          · right
            refine ⟨?_, ?_⟩
            · intro hundoable
              have hsetup := hundoable.2 hok hsetsUp hstarts
              rw [hcompletes] at hsetup
              cases hsetup
            · rcases hleft with ⟨error, failed, hrun, hroutes⟩ |
                ⟨next, hrun, hnext⟩
              · rw [hrun]
                intro hclean
                exact hroutes hclean.1
              · rw [hrun]
                exact hnext.move .tunnelling next.attempt

/-- What one event does to a sound client: it stays sound exactly if the event
can be undone. -/
theorem step_sound {event : ClientEvent} (hsound : client.Sound settings)
    (hstep : client.step settings event = some next) :
    (client.Undoable settings event ∧ next.Sound settings) ∨
      (¬ client.Undoable settings event ∧ next.Tainted settings) := by
  obtain ⟨hrunning, hcases⟩ := step_cases hstep
  simp only [Sound, hrunning, if_true] at hsound
  rcases hcases with ⟨phase, attempt, rfl, hnext, hother⟩ | ⟨rfl, rfl⟩ |
    ⟨input, rfl, rfl⟩
  · left
    refine ⟨?_, ?_⟩
    · cases event with
      | connected input => exact absurd rfl (hother input)
      | _ => trivial
    · simp only [Sound, hnext, if_true]
      rcases hsound with huntouched | hconfigured
      · exact Or.inl (huntouched.move phase attempt)
      · exact Or.inr (hconfigured.move phase attempt)
  · left
    refine ⟨trivial, ?_⟩
    rcases hsound with huntouched | hconfigured
    · change (client.cleanup settings).system.Clean
      rw [cleanup_of_untouched huntouched]
      exact huntouched.clean
    · exact cleanup_of_configured hconfigured
  · rcases hsound with huntouched | hconfigured
    · exact settle_of_untouched huntouched
    · exact settle_of_configured hconfigured

/-- What is lost stays lost. -/
theorem step_tainted {event : ClientEvent} (htainted : client.Tainted settings)
    (hstep : client.step settings event = some next) :
    next.Tainted settings := by
  obtain ⟨hrunning, hcases⟩ := step_cases hstep
  simp only [Tainted, hrunning, if_true] at htainted
  rcases hcases with ⟨phase, attempt, rfl, hnext, _⟩ | ⟨_, rfl⟩ |
    ⟨input, _, rfl⟩
  · simp only [Tainted, hnext, if_true]
    exact htainted.move phase attempt
  · exact cleanup_of_unrestorable htainted
  · have hskip : client.setsUp settings = false := by
      simp [setsUp, htainted.routesConfigured]
    cases hok : input.interfaceOk settings.platform with
    | true =>
        rw [onConnected_interface_ok hok, hskip]
        exact htainted.move .tunnelling 0
    | false =>
        obtain ⟨error, hrun⟩ := onConnected_interface_error hok
        rw [hrun]
        exact htainted.not_clean

/-- A run of the main loop that returns leaves nothing installed exactly if all
its events can be undone: no interface command fails once the routes are
configured, and a setup that has added its first route goes through to the end,
on Linux with a backup of the DNS settings. -/
theorem run_client_cleans_up (settings : ClientSettings)
    (schedule : List ClientEvent) (final : Client) (error : Option ClientError)
    (hrun : Machine.run (step settings) start schedule = some final)
    (hreturned : final.phase = .returned error) :
    final.system.Clean ↔
      Machine.Meets (step settings) (Undoable settings) start schedule := by
  have hstart : start.Sound settings :=
    Or.inl ⟨rfl, rfl, rfl, ⟨rfl, rfl, rfl⟩, rfl⟩
  have hclean : final.Sound settings ↔ final.system.Clean := by
    simp [Sound, running, hreturned]
  rw [← hclean]
  apply Machine.good_iff_meets _ _ _ _ hstart hrun
  · exact Tainted settings
  · intro client event next hsound hundoable hstep
    rcases step_sound hsound hstep with ⟨_, hnext⟩ | ⟨hnot, _⟩
    · exact hnext
    · exact absurd hundoable hnot
  · intro client event next hsound hundoable hstep
    rcases step_sound hsound hstep with ⟨hundone, _⟩ | ⟨_, hnext⟩
    · exact absurd hundone hundoable
    · exact hnext
  · intro client event next htainted hstep
    exact step_tainted htainted hstep
  · intro client hsound
    exact sound_disjoint hsound

/-- A client on Linux of a server on the public internet. -/
def linuxSettings : ClientSettings := ⟨.linux, false, false, "203.0.113.5"⟩

/-- Every command succeeds. -/
def allSucceed : SetupInput := ⟨fun _ => .success, some "192.168.1.1", "10.0.1.1"⟩

/-- The interface still has its address, so that adding it once more fails. -/
def addressExists : SetupInput :=
  { allSucceed with
    result := fun command =>
      if command = .setAddress then .failure else .success }

/-- A client that loses its tunnel, connects again and is shut down leaves
nothing behind. -/
theorem run_client_cleans_up_after_reconnect :
    ∃ final, Machine.run (step linuxSettings) start
        [.connected allSucceed, .tunnelLost, .backoffElapsed,
          .connected allSucceed, .shutdown] = some final ∧
      final.system.Clean := by
  refine ⟨⟨⟨[], false, false, []⟩, .returned none, 0, true,
    some ⟨"203.0.113.5", "192.168.1.1", "10.0.1.1"⟩, true⟩, ?_, ?_⟩
  · decide
  · apply (run_client_cleans_up linuxSettings
      [.connected allSucceed, .tunnelLost, .backoffElapsed,
        .connected allSucceed, .shutdown] _ none (by decide) rfl).mpr
    decide

/-- A client that connects again while its interface keeps the address returns
with all of its routes and its DNS override in place. -/
theorem run_client_leaves_routes :
    ¬ ∀ (settings : ClientSettings) (schedule : List ClientEvent)
        (final : Client) (error : Option ClientError),
      Machine.run (step settings) start schedule = some final →
        final.phase = .returned error → final.system.Clean := by
  intro hall
  have hclean := hall linuxSettings
    [.connected allSucceed, .tunnelLost, .backoffElapsed,
      .connected addressExists]
    ⟨⟨SavedRoutes.routes ⟨"203.0.113.5", "192.168.1.1", "10.0.1.1"⟩, true, true,
      []⟩, .returned (some (.commandFailed .setAddress)), 0, true,
      some ⟨"203.0.113.5", "192.168.1.1", "10.0.1.1"⟩, true⟩
    _ (by decide) rfl
  cases hclean.1

end Client

end Redpill
