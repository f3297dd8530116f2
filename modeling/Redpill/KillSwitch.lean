/-
The kill-switch of a macOS client (`killswitch.rs`): rules in an anchor of the
packet filter, loaded at the first tunnel and flushed when the loop is left.
-/
import Redpill.ClientTeardown
import Redpill.PacketFilter

namespace Redpill

open PacketFilter

/-- A packet that is about to leave. -/
structure OutPacket where
  device : String
  dest : String
  /-- Destination port, of a TCP or UDP packet. -/
  port : Option Nat

/-- A rule for outgoing packets, as a line of the file gives it. -/
structure PfRule where
  pass : Bool
  quick : Bool
  device : Option String
  host : Option String
  port : Option Nat

namespace PfRule

def text (rule : PfRule) : String :=
  (if rule.pass then "pass out" else "block drop out") ++
    (if rule.quick then " quick" else "") ++
    (match rule.device with
      | some device => " on " ++ device
      | none => "") ++
    (match rule.host with
      | some host => " to " ++ host
      | none => " all") ++
    (match rule.port with
      | some port => " port " ++ toString port
      | none => "") ++ "\n"

def rule (rule : PfRule) : Rule OutPacket where
  pass := rule.pass
  quick := rule.quick
  applies packet :=
    rule.device.all (fun device => decide (packet.device = device)) &&
      rule.host.all (fun host => decide (packet.dest = host)) &&
      rule.port.all (fun port => decide (packet.port = some port))

end PfRule

/-- `enable_with_extras`: what may leave, before everything is blocked. -/
def allowRules (tunName serverIp : String) (extraHosts : List String) :
    List PfRule :=
  [⟨true, true, some tunName, none, none⟩,
    ⟨true, true, none, some serverIp, none⟩,
    ⟨true, true, some "lo0", none, none⟩] ++
    extraHosts.map fun host => ⟨true, true, none, some host, some 443⟩

def killSwitchRules (tunName serverIp : String) (extraHosts : List String) :
    List PfRule :=
  allowRules tunName serverIp extraHosts ++ [⟨false, false, none, none, none⟩]

/-- The file that `pfctl` loads. -/
def killSwitchFile (tunName serverIp : String) (extraHosts : List String) :
    String :=
  String.join ((killSwitchRules tunName serverIp extraHosts).map PfRule.text)

example : killSwitchFile "utun4" "203.0.113.5" ["198.51.100.7"] =
    "pass out quick on utun4 all\npass out quick to 203.0.113.5\n" ++
      "pass out quick on lo0 all\npass out quick to 198.51.100.7 port 443\n" ++
      "block drop out all\n" := by
  decide

/-- The main rules of the machine, with the place where the anchor is
evaluated. -/
structure MainRules where
  before : List (Rule OutPacket)
  after : List (Rule OutPacket)

namespace MainRules

/-- The rules leave the packet to the anchor. -/
def Indifferent (main : MainRules) (packet : OutPacket) : Prop :=
  (∀ rule ∈ main.before, rule.quick = true → rule.applies packet = false) ∧
    ∀ rule ∈ main.after, rule.applies packet = false

/-- The verdict with these rules in the anchor. -/
def verdict (main : MainRules) (anchor : List PfRule) (packet : OutPacket) :
    Bool :=
  passes (main.before ++ anchor.map PfRule.rule ++ main.after) packet

end MainRules

/-- What the kill-switch lets out. -/
def Allowed (tunName serverIp : String) (extraHosts : List String)
    (packet : OutPacket) : Prop :=
  packet.device = tunName ∨ packet.dest = serverIp ∨ packet.device = "lo0" ∨
    packet.dest ∈ extraHosts ∧ packet.port = some 443

theorem any_allowRules {tunName serverIp : String} {extraHosts : List String}
    {packet : OutPacket} :
    ((allowRules tunName serverIp extraHosts).map PfRule.rule).any
        (fun rule => rule.applies packet) = true ↔
      Allowed tunName serverIp extraHosts packet := by
  simp [allowRules, PfRule.rule, Allowed, List.any_map]

/-- The block at the end of the anchor is not quick, so the rules that follow
it have a say. -/
theorem verdict_killSwitchRules {main : MainRules} {packet : OutPacket}
    (hmain : main.Indifferent packet) (tunName serverIp : String)
    (extraHosts : List String) :
    main.verdict (killSwitchRules tunName serverIp extraHosts) packet = true ↔
      Allowed tunName serverIp extraHosts packet := by
  have hbefore : (evaluate main.before packet .initial).final = false :=
    evaluate_not_final hmain.1 rfl
  have hquick : ∀ rule ∈
      (allowRules tunName serverIp extraHosts).map PfRule.rule,
      rule.quick = true ∧ rule.pass = true := by
    intro rule hrule
    obtain ⟨allow, hallow, rfl⟩ := List.mem_map.mp hrule
    simp only [allowRules, List.mem_append, List.mem_cons, List.not_mem_nil,
      or_false, List.mem_map] at hallow
    rcases hallow with (rfl | rfl | rfl) | ⟨host, _, rfl⟩ <;> exact ⟨rfl, rfl⟩
  rw [MainRules.verdict, passes, evaluate_append,
    evaluate_of_no_match hmain.2, evaluate_append, killSwitchRules,
    List.map_append, evaluate_append, evaluate_quick hquick hbefore]
  by_cases hallowed : Allowed tunName serverIp extraHosts packet
  · rw [if_pos (any_allowRules.mpr hallowed), evaluate_of_final _ _ rfl]
    simp [hallowed]
  · rw [if_neg (fun hany => hallowed (any_allowRules.mp hany))]
    rw [List.map_singleton, evaluate_cons]
    simp [consider, PfRule.rule, hbefore, hallowed]

namespace Client

/-- The rules in the anchor: `enable` passes no extra hosts. -/
def anchorRules (client : Client) (tunName serverIp : String) : List PfRule :=
  if "com.redpill" ∈ client.system.killSwitch then
    killSwitchRules tunName serverIp []
  else
    []

/-- On macOS, a loop that runs has loaded the rules with its first tunnel and
keeps them. -/
structure Guarded (client : Client) : Prop where
  configured : client.phase = .tunnelling → client.routesConfigured = true
  loaded : client.routesConfigured = true →
    client.system.killSwitch = ["com.redpill"]

/-- A sequence succeeds exactly if its parts do. -/
theorem bind_eq_ok {ε σ α β : Type} {first : EStateM ε σ α}
    {second : α → EStateM ε σ β} {state final : σ} {value : β} :
    (first >>= second) state = .ok value final ↔
      ∃ middle state', first state = .ok middle state' ∧
        second middle state' = .ok value final := by
  simp only [bind, EStateM.bind]
  cases first state with
  | ok middle state' => simp
  | error error state' => simp

theorem onSystem_eq_ok {α : Type} {operation : Operation α} {value : α}
    {client next : Client}
    (hok : onSystem operation client = .ok value next) :
    ∃ system, operation client.system = .ok value system ∧
      next = { client with system := system } := by
  rw [onSystem] at hok
  cases hrun : operation client.system with
  | ok value' system =>
      rw [hrun] at hok
      injection hok with hvalue hnext
      rw [hvalue]
      exact ⟨system, rfl, hnext.symm⟩
  | error error system =>
      rw [hrun] at hok
      cases hok

theorem enable_macos {input : SetupInput} {system next : System}
    (hok : input.enable .macos system = .ok () next) :
    next.killSwitch = ["com.redpill"] := by
  obtain ⟨_, written, _, hload⟩ := bind_eq_ok.mp hok
  rw [SetupInput.runCmd_eq] at hload
  split at hload
  · injection hload with _ hnext
    rw [← hnext]
  · cases hload

theorem setupFullTunnel_macos {settings : ClientSettings} {input : SetupInput}
    (hmacos : settings.platform = .macos) {client next : Client}
    (hok : setupFullTunnel settings input client = .ok () next) :
    next.routesConfigured = true ∧
      next.system.killSwitch = ["com.redpill"] := by
  obtain ⟨gateway, found, _, hok⟩ := bind_eq_ok.mp hok
  obtain ⟨saved, routed, _, hok⟩ := bind_eq_ok.mp hok
  obtain ⟨_, overridden, _, hok⟩ := bind_eq_ok.mp hok
  obtain ⟨_, configured, hconfigured, hok⟩ := bind_eq_ok.mp hok
  obtain ⟨_, enabled, henable, hlast⟩ := bind_eq_ok.mp hok
  injection hconfigured with _ hconfigured
  injection hlast with _ hnext
  rw [hmacos] at henable
  obtain ⟨system, henabled, rfl⟩ := onSystem_eq_ok henable
  rw [← hnext, ← hconfigured]
  exact ⟨rfl, enable_macos henabled⟩

/-- What a connection of a macOS client that is not tested leaves behind. -/
theorem onConnected_macos {settings : ClientSettings} {input : SetupInput}
    (hmacos : settings.platform = .macos) (htest : settings.testMode = false)
    (hloopback : settings.loopback = false) {client next : Client}
    (hok : onConnected settings input client = .ok () next) :
    next.routesConfigured = true ∧
      (client.routesConfigured = true → next.system = client.system) ∧
      (client.routesConfigured = false →
        next.system.killSwitch = ["com.redpill"]) := by
  cases hinterface : input.interfaceOk settings.platform with
  | false =>
      obtain ⟨error, hfails⟩ : ∃ error, onConnected settings input client =
          .error error { client with attempt := 0 } :=
        onConnected_interface_error hinterface
      rw [hfails] at hok
      cases hok
  | true =>
      rw [onConnected_interface_ok hinterface] at hok
      cases hconfigured : client.routesConfigured with
      | true =>
          simp only [setsUp, hconfigured, htest, hloopback, Bool.not_true,
            Bool.and_false, Bool.false_and, Bool.false_eq_true,
            if_false] at hok
          injection hok with _ hnext
          rw [← hnext]
          exact ⟨rfl, fun _ => rfl, by simp⟩
      | false =>
          simp only [setsUp, hconfigured, htest, hloopback, Bool.not_false,
            Bool.and_true, if_true] at hok
          obtain ⟨hroutes, hrules⟩ := setupFullTunnel_macos hmacos hok
          exact ⟨hroutes, by simp, fun _ => hrules⟩

variable {settings : ClientSettings} {client next : Client}

theorem Guarded.start : Client.start.Guarded where
  configured := by
    intro hphase
    cases hphase
  loaded := by
    intro hconfigured
    cases hconfigured

/-- A step that leaves the loop running keeps the rules. -/
theorem Guarded.step (hmacos : settings.platform = .macos)
    (htest : settings.testMode = false) (hloopback : settings.loopback = false)
    {event : ClientEvent} (h : client.Guarded)
    (hstep : client.step settings event = some next)
    (hrunning : next.running = true) :
    next.Guarded ∧
      (client.routesConfigured = true → next.routesConfigured = true) := by
  cases event with
  | connected input =>
      simp only [Client.step, Option.ite_none_right_eq_some] at hstep
      obtain ⟨_, hnext⟩ := hstep
      obtain rfl := Option.some.inj hnext
      cases hrun : onConnected settings input client with
      | error error failed =>
          rw [hrun] at hrunning
          cases hrunning
      | ok value connected =>
          obtain ⟨hroutes, hkept, hloaded⟩ :=
            onConnected_macos hmacos htest hloopback hrun
          refine ⟨⟨fun _ => hroutes, fun _ => ?_⟩, fun _ => hroutes⟩
          cases hconfigured : client.routesConfigured with
          | true =>
              rw [settle, hkept hconfigured]
              exact h.loaded hconfigured
          | false => exact hloaded hconfigured
  | shutdown =>
      simp only [Client.step] at hstep
      split at hstep
      · cases hstep
      · rw [← Option.some.inj hstep] at hrunning
        cases hrunning
  | _ =>
      simp only [Client.step, Option.ite_none_right_eq_some] at hstep
      obtain ⟨_, hnext⟩ := hstep
      rw [← Option.some.inj hnext]
      refine ⟨⟨?_, h.loaded⟩, id⟩
      intro hphase
      cases hphase

/-- The loop has returned, or its rules are in order. -/
def Kept (client : Client) : Prop :=
  client.running = true → client.Guarded

/-- The loop has returned, or its rules are loaded. -/
def Closed (client : Client) : Prop :=
  client.running = true → client.Guarded ∧ client.routesConfigured = true

theorem Kept.step (hmacos : settings.platform = .macos)
    (htest : settings.testMode = false) (hloopback : settings.loopback = false)
    {event : ClientEvent} (h : client.Kept)
    (hstep : client.step settings event = some next) : next.Kept := by
  intro hrunning
  have hguarded := h (step_cases hstep).1
  exact (hguarded.step hmacos htest hloopback hstep hrunning).1

theorem Closed.step (hmacos : settings.platform = .macos)
    (htest : settings.testMode = false) (hloopback : settings.loopback = false)
    {event : ClientEvent} (h : client.Closed)
    (hstep : client.step settings event = some next) : next.Closed := by
  intro hrunning
  obtain ⟨hguarded, hconfigured⟩ := h (step_cases hstep).1
  obtain ⟨hnext, hkept⟩ := hguarded.step hmacos htest hloopback hstep hrunning
  exact ⟨hnext, hkept hconfigured⟩

end Client

def macosSettings : ClientSettings := ⟨.macos, false, false, "203.0.113.5"⟩

/-- A macOS client with its first tunnel. -/
def macosTunnel : Client :=
  (Machine.run (Client.step macosSettings) Client.start
    [.connected Client.allSucceed]).getD Client.start

end Redpill
