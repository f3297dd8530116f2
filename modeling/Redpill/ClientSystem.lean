/-
What the client changes on its machine (`route.rs`, `killswitch.rs`): routes,
the DNS override and the rules of the kill-switch.  Every command may succeed,
exit with an error or not run at all; an operation that fails keeps what it did
before.  Deletions succeed.
-/
import Redpill.Packet

namespace Redpill

inductive Platform where
  | linux
  | macos
  | windows
deriving Repr, DecidableEq

structure Route where
  destination : String
  gateway : String
deriving Repr, DecidableEq

/-- Saved route state for cleanup. -/
structure SavedRoutes where
  serverRealIp : String
  gateway : String
  serverTunnelIp : String
deriving Repr, DecidableEq

/-- What this run of the client has installed.  On Linux the DNS override is
undone from a backup file. -/
structure System where
  routes : List Route
  dnsOverride : Bool
  dnsBackup : Bool
  killSwitch : List String
deriving Repr, DecidableEq

/-- The commands that set things up, one after the other. -/
inductive Command where
  | setAddress
  | setMtu
  | showGateway
  | addRoute (destination : String)
  | writeBackup
  | setDns
  | writeRules
  | addRule (name : String)
deriving Repr, DecidableEq

inductive CommandResult where
  | success
  | failure
  | notRun
deriving Repr, DecidableEq

inductive ClientError where
  | commandFailed (command : Command)
  | noDefaultGateway
deriving Repr, DecidableEq

/-- What a connection attempt finds when it sets things up: the result of every
command, the gateway in the output of the routing table, and the address of the
server in the tunnel. -/
structure SetupInput where
  result : Command → CommandResult
  gateway : Option String
  serverTunnelIp : String

abbrev Operation := EStateM ClientError System

def lowHalf : String := "0.0.0.0/1"
def highHalf : String := "128.0.0.0/1"

namespace System

def empty : System := ⟨[], false, false, []⟩

/-- Nothing that this run installed is in place. -/
def Clean (system : System) : Prop :=
  system.routes = [] ∧ system.dnsOverride = false ∧ system.killSwitch = []

instance (system : System) : Decidable system.Clean :=
  inferInstanceAs (Decidable (_ ∧ _ ∧ _))

def addRoute (system : System) (route : Route) : System :=
  { system with routes := system.routes ++ [route] }

/-- Delete a route by destination, and by gateway where one is given. -/
def delRoute (system : System) (destination : String)
    (gateway : Option String) : System :=
  { system with
    routes := system.routes.eraseP fun route =>
      decide (route.destination = destination) &&
        gateway.all fun via => decide (route.gateway = via) }

end System

namespace SetupInput

/-- `run_cmd`: anything but success is an error. -/
def runCmd (input : SetupInput) (command : Command)
    (effect : System → System) : Operation Unit := fun system =>
  if input.result command = .success then .ok () (effect system)
  else .error (.commandFailed command) system

/-- On macOS one command sets address and MTU. -/
def configureClientInterface (input : SetupInput) :
    Platform → Operation Unit
  | .macos => input.runCmd .setAddress id
  | _ => do
      input.runCmd .setAddress id
      input.runCmd .setMtu id

/-- The commands of the lookup count as one, whose output may name no
gateway. -/
def getDefaultGateway (input : SetupInput) : Operation String := do
  input.runCmd .showGateway id
  match input.gateway with
  | some gateway => pure gateway
  | none => throw .noDefaultGateway

/-- Keep the server reachable through the gateway, then route both halves of
the address space through the tunnel. -/
def setupClientRoutes (input : SetupInput) (serverRealIp gateway : String) :
    Operation SavedRoutes := do
  input.runCmd (.addRoute serverRealIp)
    fun system => system.addRoute ⟨serverRealIp, gateway⟩
  input.runCmd (.addRoute lowHalf)
    fun system => system.addRoute ⟨lowHalf, input.serverTunnelIp⟩
  input.runCmd (.addRoute highHalf)
    fun system => system.addRoute ⟨highHalf, input.serverTunnelIp⟩
  pure ⟨serverRealIp, gateway, input.serverTunnelIp⟩

/-- On Linux a backup that cannot be written is ignored. -/
def setupClientDns (input : SetupInput) : Platform → Operation Unit
  | .linux => do
      modify fun system =>
        if input.result .writeBackup = .success then
          { system with dnsBackup := true }
        else system
      input.runCmd .setDns fun system => { system with dnsOverride := true }
  | _ => input.runCmd .setDns fun system => { system with dnsOverride := true }

/-- A rule of the Windows firewall: only a command that does not run at all is
an error. -/
def addRule (input : SetupInput) (name : String) : Operation Unit :=
  fun system =>
    match input.result (.addRule name) with
    | .success => .ok () { system with killSwitch := system.killSwitch ++ [name] }
    | .failure => .ok () system
    | .notRun => .error (.commandFailed (.addRule name)) system

/-- The kill-switch does nothing on Linux. -/
def enable (input : SetupInput) : Platform → Operation Unit
  | .linux => pure ()
  | .macos => do
      input.runCmd .writeRules id
      input.runCmd (.addRule "com.redpill") fun system =>
        { system with killSwitch := ["com.redpill"] }
  | .windows => do
      modify fun system => { system with killSwitch := [] }
      input.addRule "Redpill VPN Kill Switch - Block All"
      input.addRule "Redpill VPN Kill Switch - Allow Server"
      input.addRule "Redpill VPN Kill Switch - Allow Loopback"

end SetupInput

namespace System

/-- Delete the three routes.  The platforms differ in whether they name the
gateway. -/
def cleanupClientRoutes (system : System) (saved : SavedRoutes) :
    Platform → System
  | .linux =>
      ((system.delRoute saved.serverRealIp (some saved.gateway)).delRoute
        lowHalf none).delRoute highHalf none
  | .macos =>
      ((system.delRoute saved.serverRealIp (some saved.gateway)).delRoute
        lowHalf (some saved.serverTunnelIp)).delRoute
          highHalf (some saved.serverTunnelIp)
  | .windows =>
      ((system.delRoute saved.serverRealIp none).delRoute
        lowHalf none).delRoute highHalf none

/-- On Linux the original is restored from the backup, if there is one. -/
def cleanupClientDns (system : System) : Platform → System
  | .linux =>
      if system.dnsBackup then
        { system with dnsOverride := false, dnsBackup := false }
      else system
  | _ => { system with dnsOverride := false }

def disable (system : System) : Platform → System
  | .linux => system
  | _ => { system with killSwitch := [] }

end System

/-- The routes that a complete setup installs. -/
def SavedRoutes.routes (saved : SavedRoutes) : List Route :=
  [⟨saved.serverRealIp, saved.gateway⟩, ⟨lowHalf, saved.serverTunnelIp⟩,
    ⟨highHalf, saved.serverTunnelIp⟩]

theorem System.cleanupClientRoutes_eq {system : System} {saved : SavedRoutes}
    (h : system.routes = saved.routes) (platform : Platform) :
    system.cleanupClientRoutes saved platform = { system with routes := [] } := by
  cases platform <;>
    simp [cleanupClientRoutes, delRoute, h, SavedRoutes.routes]

/-- The DNS override is undone, unless it lacks its backup. -/
theorem System.cleanupClientDns_dnsOverride {system : System}
    {platform : Platform} (h : platform = .linux → system.dnsBackup = true) :
    (system.cleanupClientDns platform).dnsOverride = false := by
  cases platform with
  | linux => simp [cleanupClientDns, h rfl]
  | _ => rfl

theorem System.cleanupClientDns_frame (system : System) (platform : Platform) :
    (system.cleanupClientDns platform).routes = system.routes ∧
      (system.cleanupClientDns platform).killSwitch = system.killSwitch := by
  cases platform with
  | linux =>
      cases hbackup : system.dnsBackup with
      | true => simp [cleanupClientDns, hbackup]
      | false => simp [cleanupClientDns, hbackup]
  | _ => exact ⟨rfl, rfl⟩

theorem System.disable_facts (system : System) (platform : Platform) :
    (system.disable platform).routes = system.routes ∧
      (system.disable platform).dnsBackup = system.dnsBackup ∧
      ((platform = .linux → system.killSwitch = []) →
        (system.disable platform).killSwitch = []) := by
  cases platform with
  | linux => exact ⟨rfl, rfl, fun h => h rfl⟩
  | _ => exact ⟨rfl, rfl, fun _ => rfl⟩

namespace SetupInput

def succeeds (input : SetupInput) (command : Command) : Bool :=
  decide (input.result command = .success)

/-- The interface can be configured. -/
def interfaceOk (input : SetupInput) : Platform → Bool
  | .macos => input.succeeds .setAddress
  | _ => input.succeeds .setAddress && input.succeeds .setMtu

/-- A gateway is found. -/
def gatewayOk (input : SetupInput) : Bool :=
  input.succeeds .showGateway && input.gateway.isSome

/-- Both halves of the address space can be routed. -/
def halvesOk (input : SetupInput) : Bool :=
  input.succeeds (.addRoute lowHalf) && input.succeeds (.addRoute highHalf)

/-- The DNS override can be set. -/
def dnsOk (input : SetupInput) : Bool := input.succeeds .setDns

/-- The DNS override can be undone: on Linux the backup is written. -/
def backupOk (input : SetupInput) : Platform → Bool
  | .linux => input.succeeds .writeBackup
  | _ => true

/-- The kill-switch can be enabled. -/
def enableOk (input : SetupInput) : Platform → Bool
  | .linux => true
  | .macos => input.succeeds .writeRules && input.succeeds (.addRule "com.redpill")
  | .windows =>
      decide (input.result (.addRule "Redpill VPN Kill Switch - Block All") ≠
          .notRun) &&
        decide (input.result (.addRule "Redpill VPN Kill Switch - Allow Server") ≠
          .notRun) &&
        decide (input.result
          (.addRule "Redpill VPN Kill Switch - Allow Loopback") ≠ .notRun)

theorem runCmd_eq (input : SetupInput) (command : Command)
    (effect : System → System) (system : System) :
    input.runCmd command effect system =
      if input.succeeds command then .ok () (effect system)
      else .error (.commandFailed command) system := by
  simp [runCmd, succeeds]

theorem configureClientInterface_cases (input : SetupInput)
    (platform : Platform) (system : System) :
    (input.interfaceOk platform = true ∧
        input.configureClientInterface platform system = .ok () system) ∨
      (input.interfaceOk platform = false ∧
        ∃ error,
          input.configureClientInterface platform system =
            .error error system) := by
  cases platform with
  | macos =>
      cases haddress : input.succeeds .setAddress <;>
        simp [interfaceOk, configureClientInterface, runCmd_eq, haddress]
  | _ =>
      cases haddress : input.succeeds .setAddress <;>
        cases hmtu : input.succeeds .setMtu <;>
        simp [interfaceOk, configureClientInterface, bind, EStateM.bind,
          runCmd_eq, haddress, hmtu]

theorem getDefaultGateway_cases (input : SetupInput) (system : System) :
    (input.gatewayOk = true ∧
        ∃ gateway, input.getDefaultGateway system = .ok gateway system) ∨
      (input.gatewayOk = false ∧
        ∃ error, input.getDefaultGateway system = .error error system) := by
  cases hshow : input.succeeds .showGateway with
  | false =>
      simp [gatewayOk, getDefaultGateway, bind, EStateM.bind, runCmd_eq, hshow]
  | true =>
      cases hgateway : input.gateway with
      | none =>
          simp [gatewayOk, getDefaultGateway, bind, EStateM.bind, runCmd_eq,
            hshow, hgateway, throw, throwThe, MonadExceptOf.throw,
            EStateM.throw]
      | some gateway =>
          simp [gatewayOk, getDefaultGateway, bind, EStateM.bind, runCmd_eq,
            hshow, hgateway, pure, EStateM.pure]

/-- What setting up the routes can do: fail before the first one, install all
three, or fail with some of them installed. -/
theorem setupClientRoutes_cases (input : SetupInput)
    (serverRealIp gateway : String) (system : System) :
    (input.succeeds (.addRoute serverRealIp) = false ∧
        ∃ error, input.setupClientRoutes serverRealIp gateway system =
          .error error system) ∨
      (input.succeeds (.addRoute serverRealIp) = true ∧
        input.halvesOk = true ∧
        input.setupClientRoutes serverRealIp gateway system =
          .ok ⟨serverRealIp, gateway, input.serverTunnelIp⟩
            { system with
              routes := system.routes ++ SavedRoutes.routes
                ⟨serverRealIp, gateway, input.serverTunnelIp⟩ }) ∨
      (input.succeeds (.addRoute serverRealIp) = true ∧
        input.halvesOk = false ∧
        ∃ error failed, input.setupClientRoutes serverRealIp gateway system =
          .error error failed ∧ failed.routes ≠ []) := by
  cases hhost : input.succeeds (.addRoute serverRealIp) with
  | false =>
      left
      simp [setupClientRoutes, bind, EStateM.bind, runCmd_eq, hhost]
  | true =>
      right
      cases hlow : input.succeeds (.addRoute lowHalf) <;>
        cases hhigh : input.succeeds (.addRoute highHalf) <;>
        simp [setupClientRoutes, bind, EStateM.bind, runCmd_eq, hhost, hlow,
          hhigh, halvesOk, pure, EStateM.pure, System.addRoute,
          SavedRoutes.routes]

/-- The DNS override is set, with a backup if that could be written, or the
routes are left alone. -/
theorem setupClientDns_cases (input : SetupInput) (platform : Platform)
    (system : System) :
    (input.dnsOk = true ∧
        ∃ next, input.setupClientDns platform system = .ok () next ∧
          next.routes = system.routes ∧ next.dnsOverride = true ∧
          next.killSwitch = system.killSwitch ∧
          (platform = .linux → next.dnsBackup =
            (input.backupOk platform || system.dnsBackup))) ∨
      (input.dnsOk = false ∧
        ∃ error failed, input.setupClientDns platform system =
          .error error failed ∧ failed.routes = system.routes) := by
  cases hdns : input.succeeds .setDns <;> cases platform <;>
    cases hbackup : input.succeeds .writeBackup <;>
    simp_all [setupClientDns, dnsOk, backupOk, bind, EStateM.bind, runCmd_eq,
      modify, modifyGet, MonadStateOf.modifyGet, EStateM.modifyGet, succeeds]

/-- An operation that touches the rules of the kill-switch only, and succeeds
exactly if `ok`. -/
def RulesOnly (operation : Operation Unit) (ok : Bool) : Prop :=
  ∀ system, ∃ rules,
    (ok = true ∧
        operation system = .ok () { system with killSwitch := rules }) ∨
      (ok = false ∧ ∃ error,
        operation system = .error error { system with killSwitch := rules })

theorem RulesOnly.bind {first second : Operation Unit} {ok ok' : Bool}
    (hfirst : RulesOnly first ok) (hsecond : RulesOnly second ok') :
    RulesOnly (do first; second) (ok && ok') := by
  intro system
  obtain ⟨rules, ⟨hok, hrun⟩ | ⟨hok, error, hrun⟩⟩ := hfirst system
  · obtain ⟨rules', hnext⟩ := hsecond { system with killSwitch := rules }
    refine ⟨rules', ?_⟩
    simp only [hok, Bool.true_and, Bind.bind, EStateM.bind, hrun]
    exact hnext
  · refine ⟨rules, Or.inr ⟨by rw [hok, Bool.false_and], error, ?_⟩⟩
    simp only [Bind.bind, EStateM.bind, hrun]

theorem rulesOnly_addRule (input : SetupInput) (name : String) :
    RulesOnly (input.addRule name)
      (decide (input.result (.addRule name) ≠ .notRun)) := by
  intro system
  cases hresult : input.result (.addRule name) with
  | success =>
      exact ⟨system.killSwitch ++ [name],
        Or.inl ⟨rfl, by simp only [addRule, hresult]⟩⟩
  | failure =>
      exact ⟨system.killSwitch, Or.inl ⟨rfl, by simp only [addRule, hresult]⟩⟩
  | notRun =>
      exact ⟨system.killSwitch,
        Or.inr ⟨rfl, .commandFailed (.addRule name), by
          simp only [addRule, hresult]⟩⟩

theorem rulesOnly_runCmd (input : SetupInput) (command : Command)
    (effect : System → System)
    (heffect : ∀ system : System, ∃ rules,
      effect system = { system with killSwitch := rules }) :
    RulesOnly (input.runCmd command effect) (input.succeeds command) := by
  intro system
  rw [runCmd_eq]
  obtain ⟨rules, hrules⟩ := heffect system
  cases hsucceeds : input.succeeds command with
  | true => exact ⟨rules, Or.inl ⟨rfl, by rw [if_pos rfl, hrules]⟩⟩
  | false => exact ⟨system.killSwitch, Or.inr ⟨rfl, _, rfl⟩⟩

/-- Enabling the kill-switch touches its own rules only. -/
theorem rulesOnly_enable (input : SetupInput) (platform : Platform) :
    RulesOnly (input.enable platform) (input.enableOk platform) := by
  cases platform with
  | linux =>
      intro system
      exact ⟨system.killSwitch, Or.inl ⟨rfl, rfl⟩⟩
  | macos =>
      apply RulesOnly.bind
      · apply rulesOnly_runCmd
        intro system
        exact ⟨system.killSwitch, rfl⟩
      · apply rulesOnly_runCmd
        intro system
        exact ⟨["com.redpill"], rfl⟩
  | windows =>
      intro system
      rw [enableOk, Bool.and_assoc]
      exact (rulesOnly_addRule input _).bind ((rulesOnly_addRule input _).bind
        (rulesOnly_addRule input _)) { system with killSwitch := [] }

end SetupInput

end Redpill
