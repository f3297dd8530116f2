/-
The client's loop in time (`client.rs`): rounds of probes, tunnels that the
health monitor or an error ends, and the waits between the rounds.  Times are
in ms.
-/
import Redpill.ClientTeardown
import Redpill.HealthMonitor
import Redpill.TransportManager

namespace Redpill

def reconnectMinDelay : Nat := 1000

def reconnectMaxDelay : Nat := 30000

/-- The wait before an attempt, before the jitter: doubled each time, with a
saturating power, up to the maximum. -/
def cappedDelay (attempt : Nat) : Nat :=
  min (reconnectMinDelay * min (2 ^ (attempt - 1)) (2 ^ 32 - 1))
    reconnectMaxDelay

/-- `reconnect_delay`.  The f64 product with 0.2 is exact for the six values
that the capped delay can take. -/
def reconnectDelay (attempt random : Nat) : Nat :=
  let millis := cappedDelay attempt
  let jitter := millis / 5
  millis + random % (jitter * 2 + 1) - jitter

theorem reconnectMinDelay_le_cappedDelay (attempt : Nat) :
    reconnectMinDelay ≤ cappedDelay attempt := by
  have hpow : 1 ≤ 2 ^ (attempt - 1) := Nat.one_le_two_pow
  simp only [cappedDelay, reconnectMinDelay, reconnectMaxDelay]
  omega

theorem cappedDelay_le (attempt : Nat) :
    cappedDelay attempt ≤ reconnectMaxDelay :=
  Nat.min_le_right _ _

/-- The jitter is a fifth, up or down. -/
theorem reconnectDelay_bounds (attempt random : Nat) :
    cappedDelay attempt - cappedDelay attempt / 5 ≤
        reconnectDelay attempt random ∧
      reconnectDelay attempt random ≤
        cappedDelay attempt + cappedDelay attempt / 5 := by
  have hrandom : random % (cappedDelay attempt / 5 * 2 + 1) <
      cappedDelay attempt / 5 * 2 + 1 := Nat.mod_lt _ (by omega)
  simp only [reconnectDelay]
  omega

/-- From the sixth attempt on the wait is the longest one. -/
theorem cappedDelay_of_le {attempt : Nat} (hattempt : 6 ≤ attempt) :
    cappedDelay attempt = reconnectMaxDelay := by
  have hpow : 2 ^ 5 ≤ 2 ^ (attempt - 1) :=
    Nat.pow_le_pow_right (by decide) (by omega)
  simp only [cappedDelay, reconnectMinDelay, reconnectMaxDelay]
  omega

structure TimedClient where
  client : Client
  /-- Transport of the tunnel that runs, or ran last. -/
  mode : Option TransportMode
  now : Nat
  /-- Rounds of probes made so far. -/
  rounds : Nat

/-- What happens next, with what the network does in the meantime. -/
inductive TimedEvent where
  | connect (attempt : TransportMode → Attempt) (input : SetupInput)
  | lost (after : Nat)
  | health (rtt : Nat → Nat) (udp : Nat → UdpProbe) (ticks : Nat)
  | backoff (random : Nat)
  | shutdown (after : Nat)

/-- The settings of a run: those of the loop, the connectors, and the
comparison of round trips. -/
structure TimedSettings where
  client : ClientSettings
  connectors : List TransportMode
  exceeds : Nat → Nat → Bool

/-- The monitor that `run_tunnel` makes: there is a QUIC connection exactly on
the QUIC transports. -/
def HealthMonitor.ofTunnel (mode : TransportMode) : HealthMonitor :=
  ⟨mode.isQuic, mode, true⟩

namespace TimedClient

def start : TimedClient := ⟨Client.start, none, 0, 0⟩

/-- The loop's own step, after `elapsed` ms. -/
def advance (settings : TimedSettings) (timed : TimedClient)
    (event : ClientEvent) (elapsed : Nat) : Option TimedClient :=
  (timed.client.step settings.client event).map fun client =>
    { timed with client := client, now := timed.now + elapsed }

def step (settings : TimedSettings) (timed : TimedClient) :
    TimedEvent → Option TimedClient
  | .connect attempt input =>
      let round := { timed with rounds := timed.rounds + 1 }
      match probeAndConnect settings.connectors attempt with
      | (.ok mode, elapsed) =>
          advance settings { round with mode := some mode } (.connected input)
            elapsed
      | (.error _, elapsed) =>
          advance settings round .connectFailed elapsed
  | .lost after => advance settings timed .tunnelLost after
  | .health rtt udp ticks =>
      match timed.mode with
      | none => none
      | some mode =>
          match (HealthMonitor.ofTunnel mode).watch settings.exceeds rtt udp
              ticks with
          | none => none
          | some (_, elapsed) =>
              advance settings timed .healthReconnect elapsed
  | .backoff random =>
      advance settings timed .backoffElapsed
        (reconnectDelay timed.client.attempt random)
  | .shutdown after => advance settings timed .shutdown after

end TimedClient

/-- Where a step of the loop leads. -/
inductive Client.Move (client next : Client) : ClientEvent → Prop
  | connected {input : SetupInput} (hphase : client.phase = .connecting)
      (hnext : next.phase = .tunnelling ∨ ∃ error,
        next.phase = .returned (some error)) :
      Move client next (.connected input)
  | connectFailed (hphase : client.phase = .connecting)
      (hnext : next.phase = .backoff) (hattempt :
        next.attempt = client.attempt + 1) : Move client next .connectFailed
  | tunnelLost (hphase : client.phase = .tunnelling)
      (hnext : next.phase = .backoff) : Move client next .tunnelLost
  | healthReconnect (hphase : client.phase = .tunnelling)
      (hnext : next.phase = .connecting) : Move client next .healthReconnect
  | backoffElapsed (hphase : client.phase = .backoff)
      (hnext : next.phase = .connecting)
      (hattempt : next.attempt = client.attempt) :
      Move client next .backoffElapsed
  | shutdown (hnext : next.phase = .returned none) :
      Move client next .shutdown

theorem Client.settle_phase
    (result : EStateM.Result ClientError Client Unit) :
    (Client.settle result).phase = .tunnelling ∨
      ∃ error, (Client.settle result).phase = .returned (some error) := by
  cases result with
  | ok value client => exact Or.inl rfl
  | error error client => exact Or.inr ⟨error, rfl⟩

theorem Client.move_of_step {settings : ClientSettings} {client next : Client}
    {event : ClientEvent} (hstep : client.step settings event = some next) :
    Client.Move client next event := by
  cases event with
  | connected input =>
      simp only [Client.step, Option.ite_none_right_eq_some] at hstep
      obtain ⟨hphase, hnext⟩ := hstep
      rw [← Option.some.inj hnext]
      exact .connected hphase (Client.settle_phase _)
  | connectFailed =>
      simp only [Client.step, Option.ite_none_right_eq_some] at hstep
      obtain ⟨hphase, hnext⟩ := hstep
      rw [← Option.some.inj hnext]
      exact .connectFailed hphase rfl rfl
  | tunnelLost =>
      simp only [Client.step, Option.ite_none_right_eq_some] at hstep
      obtain ⟨hphase, hnext⟩ := hstep
      rw [← Option.some.inj hnext]
      exact .tunnelLost hphase rfl
  | healthReconnect =>
      simp only [Client.step, Option.ite_none_right_eq_some] at hstep
      obtain ⟨hphase, hnext⟩ := hstep
      rw [← Option.some.inj hnext]
      exact .healthReconnect hphase rfl
  | backoffElapsed =>
      simp only [Client.step, Option.ite_none_right_eq_some] at hstep
      obtain ⟨hphase, hnext⟩ := hstep
      rw [← Option.some.inj hnext]
      exact .backoffElapsed hphase rfl rfl
  | shutdown =>
      cases hphase : client.phase with
      | returned error => simp [Client.step, hphase] at hstep
      | _ =>
          simp only [Client.step, hphase, Option.some.injEq] at hstep
          rw [← hstep]
          exact .shutdown rfl

namespace TimedClient

/-- A step of the timed loop is one of the loop, and takes its time. -/
theorem advance_eq_some {settings : TimedSettings} {timed next : TimedClient}
    {event : ClientEvent} {elapsed : Nat} :
    timed.advance settings event elapsed = some next ↔
      ∃ client, timed.client.step settings.client event = some client ∧
        next = { timed with client := client, now := timed.now + elapsed } := by
  rw [advance, Option.map_eq_some_iff]
  constructor
  · rintro ⟨client, hclient, rfl⟩
    exact ⟨client, hclient, rfl⟩
  · rintro ⟨client, hclient, rfl⟩
    exact ⟨client, hclient, rfl⟩

/-- The steps of the timed loop. -/
inductive Move (settings : TimedSettings) (timed next : TimedClient) :
    TimedEvent → Prop
  | connected {attempt : TransportMode → Attempt} {input : SetupInput}
      {mode : TransportMode}
      (hround : (probeAndConnect settings.connectors attempt).1 = .ok mode)
      (hphase : timed.client.phase = .connecting)
      (hnext : next.client.phase = .tunnelling ∨ ∃ error,
        next.client.phase = .returned (some error))
      (hmode : next.mode = some mode)
      (hnow : next.now =
        timed.now + (probeAndConnect settings.connectors attempt).2)
      (hrounds : next.rounds = timed.rounds + 1) :
      Move settings timed next (.connect attempt input)
  | connectFailed {attempt : TransportMode → Attempt} {input : SetupInput}
      {error : String}
      (hround : (probeAndConnect settings.connectors attempt).1 =
        .error error)
      (hphase : timed.client.phase = .connecting)
      (hnext : next.client.phase = .backoff)
      (hattempt : next.client.attempt = timed.client.attempt + 1)
      (hnow : timed.now ≤ next.now)
      (hrounds : next.rounds = timed.rounds + 1) :
      Move settings timed next (.connect attempt input)
  | lost {after : Nat} (hphase : timed.client.phase = .tunnelling)
      (hnext : next.client.phase = .backoff) (hnow : timed.now ≤ next.now)
      (hrounds : next.rounds = timed.rounds) :
      Move settings timed next (.lost after)
  | health {rtt : Nat → Nat} {udp : Nat → UdpProbe} {ticks : Nat}
      {mode : TransportMode} {reason : ReconnectReason} {elapsed : Nat}
      (hmode : timed.mode = some mode)
      (hwatch : (HealthMonitor.ofTunnel mode).watch settings.exceeds rtt udp
        ticks = some (reason, elapsed))
      (hphase : timed.client.phase = .tunnelling)
      (hnext : next.client.phase = .connecting)
      (hkept : next.mode = timed.mode)
      (hnow : next.now = timed.now + elapsed)
      (hrounds : next.rounds = timed.rounds) :
      Move settings timed next (.health rtt udp ticks)
  | backoff {random : Nat} (hphase : timed.client.phase = .backoff)
      (hnext : next.client.phase = .connecting)
      (hattempt : next.client.attempt = timed.client.attempt)
      (hnow : next.now =
        timed.now + reconnectDelay timed.client.attempt random)
      (hrounds : next.rounds = timed.rounds) :
      Move settings timed next (.backoff random)
  | shutdown {after : Nat} (hnext : next.client.phase = .returned none)
      (hnow : timed.now ≤ next.now) (hrounds : next.rounds = timed.rounds) :
      Move settings timed next (.shutdown after)

theorem move_of_connect {settings : TimedSettings} {timed next : TimedClient}
    {attempt : TransportMode → Attempt} {input : SetupInput}
    (hstep : timed.step settings (.connect attempt input) = some next) :
    Move settings timed next (.connect attempt input) := by
  simp only [step] at hstep
  cases hround : probeAndConnect settings.connectors attempt with
  | mk result elapsed =>
      rw [hround] at hstep
      cases result with
      | ok mode =>
          obtain ⟨client, hclient, rfl⟩ := advance_eq_some.mp hstep
          cases Client.move_of_step hclient with
          | connected hphase hnext =>
              exact .connected (by rw [hround]) hphase hnext rfl
                (by rw [hround]) rfl
      | error error =>
          obtain ⟨client, hclient, rfl⟩ := advance_eq_some.mp hstep
          cases Client.move_of_step hclient with
          | connectFailed hphase hnext hattempt =>
              exact .connectFailed (by rw [hround]) hphase hnext hattempt
                (Nat.le_add_right _ _) rfl

theorem move_of_step {settings : TimedSettings} {timed next : TimedClient}
    {event : TimedEvent} (hstep : timed.step settings event = some next) :
    Move settings timed next event := by
  cases event with
  | connect attempt input => exact move_of_connect hstep
  | lost after =>
      obtain ⟨client, hclient, rfl⟩ := advance_eq_some.mp hstep
      cases Client.move_of_step hclient with
      | tunnelLost hphase hnext =>
          exact .lost hphase hnext (Nat.le_add_right _ _) rfl
  | health rtt udp ticks =>
      simp only [step] at hstep
      cases hmode : timed.mode with
      | none => simp [hmode] at hstep
      | some mode =>
          cases hwatch : (HealthMonitor.ofTunnel mode).watch settings.exceeds
              rtt udp ticks with
          | none => simp [hmode, hwatch] at hstep
          | some outcome =>
              rw [hmode] at hstep
              simp only [hwatch] at hstep
              obtain ⟨client, hclient, rfl⟩ := advance_eq_some.mp hstep
              cases Client.move_of_step hclient with
              | healthReconnect hphase hnext =>
                  exact .health hmode hwatch hphase hnext rfl rfl rfl
  | backoff random =>
      obtain ⟨client, hclient, rfl⟩ := advance_eq_some.mp hstep
      cases Client.move_of_step hclient with
      | backoffElapsed hphase hnext hattempt =>
          exact .backoff hphase hnext hattempt rfl rfl
  | shutdown after =>
      obtain ⟨client, hclient, rfl⟩ := advance_eq_some.mp hstep
      cases Client.move_of_step hclient with
      | shutdown hnext => exact .shutdown hnext (Nat.le_add_right _ _) rfl

/-- A tunnel that the monitor ends has lasted a minute at least. -/
theorem watch_time_ge {exceeds : Nat → Nat → Bool} {rtt : Nat → Nat}
    {udp : Nat → UdpProbe} {mode : TransportMode} {ticks time : Nat}
    {reason : ReconnectReason}
    (hwatch : (HealthMonitor.ofTunnel mode).watch exceeds rtt udp ticks =
      some (reason, time)) : 60000 ≤ time := by
  have hquic : ∀ {tick : Nat}, IsFirst (Sustained exceeds rtt) tick →
      60000 ≤ quicCheckInterval * tick := by
    intro tick hfirst
    have htwo : 2 ≤ tick := hfirst.2.1.1
    simp only [quicCheckInterval]
    omega
  have hfallback : ∀ {tick : Nat}, IsFirst (LooksReachable udp) tick →
      60000 ≤ upgradeProbeInterval * tick +
        (probeUdpReachable (udp tick)).2 := by
    intro tick hfirst
    have hone : 1 ≤ tick := hfirst.1
    simp only [upgradeProbeInterval]
    omega
  cases mode with
  | quicRaw =>
      obtain ⟨_, tick, rfl, hfirst⟩ := exists_watchQuic_iff.mp ⟨ticks, hwatch⟩
      exact hquic hfirst
  | quicCamouflaged =>
      obtain ⟨_, tick, rfl, hfirst⟩ := exists_watchQuic_iff.mp ⟨ticks, hwatch⟩
      exact hquic hfirst
  | tcpReality =>
      obtain ⟨_, tick, rfl, hfirst⟩ :=
        exists_watchFallback_iff.mp ⟨ticks, hwatch⟩
      exact hfallback hfirst
  | webSocketCdn =>
      obtain ⟨_, tick, rfl, hfirst⟩ :=
        exists_watchFallback_iff.mp ⟨ticks, hwatch⟩
      exact hfallback hfirst

theorem reconnectDelay_ge (attempt random : Nat) :
    800 ≤ reconnectDelay attempt random := by
  have hmin := reconnectMinDelay_le_cappedDelay attempt
  have hbounds := (reconnectDelay_bounds attempt random).1
  simp only [reconnectMinDelay] at hmin
  omega

/-- Every round but the first was preceded by a wait of 800 ms; the loop that
is about to probe has already waited for this round. -/
def Paced (timed : TimedClient) : Prop :=
  800 * timed.rounds ≤
    timed.now + if timed.client.phase = .connecting then 0 else 800

theorem Paced.step {settings : TimedSettings} {timed next : TimedClient}
    {event : TimedEvent} (h : timed.Paced)
    (hstep : timed.step settings event = some next) : next.Paced := by
  have hweak : 800 * timed.rounds ≤ timed.now + 800 := by
    refine Nat.le_trans h ?_
    split <;> omega
  rw [Paced] at h ⊢
  cases move_of_step hstep with
  | connected hround hphase hnext hmode hnow hrounds =>
      rw [if_pos hphase] at h
      have hleft : ¬ next.client.phase = .connecting := by
        rcases hnext with hnext | ⟨error, hnext⟩ <;> simp [hnext]
      rw [if_neg hleft]
      omega
  | connectFailed hround hphase hnext hattempt hnow hrounds =>
      rw [if_pos hphase] at h
      rw [if_neg (by simp [hnext])]
      omega
  | lost hphase hnext hnow hrounds =>
      rw [if_neg (by simp [hnext])]
      omega
  | health hmode hwatch hphase hnext hkept hnow hrounds =>
      have hlong := watch_time_ge hwatch
      rw [if_pos hnext]
      omega
  | @backoff random hphase hnext hattempt hnow hrounds =>
      have hwait := reconnectDelay_ge timed.client.attempt random
      rw [if_pos hnext]
      omega
  | shutdown hnext hnow hrounds =>
      rw [if_neg (by simp [hnext])]
      omega

/-- The least time that this many failed rounds wait in all. -/
def waited : Nat → Nat
  | 0 => 0
  | rounds + 1 =>
      waited rounds + (cappedDelay (rounds + 1) - cappedDelay (rounds + 1) / 5)

theorem waited_ge (rounds : Nat) : 24000 * rounds ≤ waited rounds + 95200 := by
  induction rounds with
  | zero => exact Nat.zero_le _
  | succ rounds ih =>
      by_cases hearly : rounds < 5
      · interval_cases rounds <;> decide
      · rw [waited, cappedDelay_of_le (by omega)]
        simp only [reconnectMaxDelay]
        omega

/-- No connector connects in this round. -/
def RoundFails (settings : TimedSettings) : TimedEvent → Prop
  | .connect attempt _ => ∀ mode ∈ settings.connectors,
      ¬ (attempt mode).InTime
  | _ => True

theorem probeAndConnect_of_fails {connectors : List TransportMode}
    {attempt : TransportMode → Attempt}
    (hfails : ∀ mode ∈ connectors, ¬ (attempt mode).InTime)
    (mode : TransportMode) :
    (probeAndConnect connectors attempt).1 ≠ .ok mode := by
  rcases probeFrom_cases attempt connectors none 0 with
    ⟨before, found, after, rfl, _, hfound, _⟩ | ⟨_, error, hresult, _⟩
  · exact absurd hfound (hfails found (by simp))
  · rw [probeAndConnect, hresult]
    simp

/-- A loop that has never connected: the attempts are the rounds, and it has
waited after each of them, the last one apart if it still waits. -/
def NeverConnected (timed : TimedClient) : Prop :=
  match timed.client.phase with
  | .connecting =>
      timed.client.attempt = timed.rounds ∧ waited timed.rounds ≤ timed.now
  | .backoff =>
      timed.client.attempt = timed.rounds ∧
        waited (timed.rounds - 1) ≤ timed.now
  | .tunnelling => False
  | .returned _ => waited (timed.rounds - 1) ≤ timed.now

theorem waited_mono (rounds : Nat) : waited (rounds - 1) ≤ waited rounds := by
  cases rounds with
  | zero => exact Nat.le_refl _
  | succ rounds => exact Nat.le_add_right _ _

theorem NeverConnected.waited_le {timed : TimedClient}
    (h : timed.NeverConnected) : waited (timed.rounds - 1) ≤ timed.now := by
  rw [NeverConnected] at h
  split at h
  · exact (waited_mono _).trans h.2
  · exact h.2
  · exact h.elim
  · exact h

theorem NeverConnected.step {settings : TimedSettings}
    {timed next : TimedClient} {event : TimedEvent} (h : timed.NeverConnected)
    (hfails : RoundFails settings event)
    (hstep : timed.step settings event = some next) :
    next.NeverConnected := by
  have hwaited := h.waited_le
  cases move_of_step hstep with
  | connected hround hphase hnext hmode hnow hrounds =>
      exact absurd hround (probeAndConnect_of_fails hfails _)
  | connectFailed hround hphase hnext hattempt hnow hrounds =>
      simp only [NeverConnected, hphase] at h
      simp only [NeverConnected, hnext, hattempt, hrounds, h.1,
        Nat.add_sub_cancel, true_and]
      exact h.2.trans hnow
  | lost hphase hnext hnow hrounds => simp [NeverConnected, hphase] at h
  | health hmode hwatch hphase hnext hkept hnow hrounds =>
      simp [NeverConnected, hphase] at h
  | @backoff random hphase hnext hattempt hnow hrounds =>
      simp only [NeverConnected, hphase] at h
      have hdelay := (reconnectDelay_bounds timed.client.attempt random).1
      simp only [NeverConnected, hnext, hattempt, hrounds, h.1, true_and]
      rw [h.1] at hdelay hnow
      cases hcount : timed.rounds with
      | zero => exact Nat.zero_le _
      | succ rounds =>
          rw [hcount, Nat.add_sub_cancel] at hwaited
          rw [hcount] at hdelay hnow
          rw [waited]
          omega
  | shutdown hnext hnow hrounds =>
      simp only [NeverConnected, hnext, hrounds]
      exact hwaited.trans hnow

end TimedClient

/-- A Linux client in the automatic mode, whose round trips never rise. -/
def automaticLinux : TimedSettings :=
  ⟨Client.linuxSettings, buildTransportManager "auto" none, fun _ _ => false⟩

namespace TimedClient

/-- A network that lets TCP through and drops UDP without a word. -/
def UdpSilent : TimedEvent → Prop
  | .connect attempt _ =>
      ¬ (attempt .quicRaw).InTime ∧ ¬ (attempt .quicCamouflaged).InTime ∧
        (attempt .tcpReality).InTime
  | .health _ udp _ => ∀ tick, udp tick = ⟨0, true, .silent⟩
  | .lost _ => False
  | .backoff _ => True
  | .shutdown _ => False

/-- On such a network a round ends with TCP Reality, within thirty seconds. -/
theorem probeAndConnect_udpSilent {attempt : TransportMode → Attempt}
    (rest : List TransportMode) (hraw : ¬ (attempt .quicRaw).InTime)
    (hcamouflaged : ¬ (attempt .quicCamouflaged).InTime)
    (htcp : (attempt .tcpReality).InTime) :
    ∃ elapsed, elapsed ≤ 30000 ∧
      probeAndConnect ([.quicRaw, .quicCamouflaged, .tcpReality] ++ rest)
        attempt = (.ok .tcpReality, elapsed) := by
  have herror : ∀ mode, ¬ (attempt mode).InTime →
      ∃ error, (attempt mode).error mode = some error := by
    intro mode hmode
    cases hresult : (attempt mode).error mode with
    | none => exact absurd (Attempt.error_eq_none_iff.mp hresult) hmode
    | some error => exact ⟨error, rfl⟩
  obtain ⟨first, hfirst⟩ := herror .quicRaw hraw
  obtain ⟨second, hsecond⟩ := herror .quicCamouflaged hcamouflaged
  have hthird : (attempt .tcpReality).error .tcpReality = none :=
    Attempt.error_eq_none_iff.mpr htcp
  refine ⟨0 + (attempt .quicRaw).elapsed + (attempt .quicCamouflaged).elapsed +
    (attempt .tcpReality).elapsed, ?_, ?_⟩
  · have htime : ∀ mode, (attempt mode).elapsed ≤ 10000 := fun mode =>
      (attempt mode).elapsed_le
    have hone := htime .quicRaw
    have htwo := htime .quicCamouflaged
    have hthree := htime .tcpReality
    omega
  · simp [probeAndConnect, probeFrom, hfirst, hsecond, hthird]

/-- A silent probe looks reachable, so the first one ends the watch. -/
theorem watch_udpSilent {exceeds : Nat → Nat → Bool} {rtt : Nat → Nat}
    {udp : Nat → UdpProbe} (hsilent : ∀ tick, udp tick = ⟨0, true, .silent⟩)
    (ticks : Nat) :
    (HealthMonitor.ofTunnel .tcpReality).watch exceeds rtt udp (ticks + 1) =
      some (.upgrade, 301000) := by
  simp [HealthMonitor.watch, HealthMonitor.ofTunnel, TransportMode.isQuic,
    watchFallback, hsilent, probeUdpReachable, UdpAnswer.received,
    udpReplyTimeout, udpProbeTimeout, upgradeProbeInterval]

/-- Every tunnel is a fallback, and none outlives the first probe. -/
def Unsettled (timed : TimedClient) : Prop :=
  match timed.client.phase with
  | .connecting => timed.now ≤ 331000 * timed.rounds
  | .tunnelling => timed.mode = some .tcpReality ∧
      timed.now + 301000 ≤ 331000 * timed.rounds
  | .backoff => False
  | .returned _ => timed.now ≤ 331000 * timed.rounds

theorem Unsettled.step {settings : TimedSettings} {url : Option String}
    (hauto : settings.connectors = buildTransportManager "auto" url)
    {timed next : TimedClient} {event : TimedEvent} (h : timed.Unsettled)
    (hsilent : UdpSilent event)
    (hstep : timed.step settings event = some next) : next.Unsettled := by
  have hround : ∀ {attempt : TransportMode → Attempt} {input : SetupInput},
      UdpSilent (.connect attempt input) → ∃ elapsed, elapsed ≤ 30000 ∧
        probeAndConnect settings.connectors attempt =
          (.ok .tcpReality, elapsed) := by
    intro attempt input hnetwork
    rw [hauto]
    exact probeAndConnect_udpSilent _ hnetwork.1 hnetwork.2.1 hnetwork.2.2
  cases move_of_step hstep with
  | connected hresult hphase hnext hmode hnow hrounds =>
      obtain ⟨elapsed, hfast, hprobe⟩ := hround hsilent
      rw [hprobe] at hresult hnow
      obtain rfl := Except.ok.inj hresult
      simp only [Unsettled, hphase] at h
      rcases hnext with hnext | ⟨error, hnext⟩
      · simp only [Unsettled, hnext, hmode, true_and]
        omega
      · simp only [Unsettled, hnext]
        omega
  | connectFailed hresult hphase hnext hattempt hnow hrounds =>
      obtain ⟨elapsed, hfast, hprobe⟩ := hround hsilent
      rw [hprobe] at hresult
      cases hresult
  | lost hphase hnext hnow hrounds => exact hsilent.elim
  | @health rtt udp ticks mode reason elapsed hmode hwatch hphase hnext hkept
      hnow hrounds =>
      simp only [Unsettled, hphase] at h
      obtain rfl : mode = .tcpReality :=
        Option.some.inj (hmode.symm.trans h.1)
      have htime : elapsed = 301000 := by
        cases ticks with
        | zero => simp [HealthMonitor.watch, HealthMonitor.ofTunnel,
            TransportMode.isQuic, watchFallback] at hwatch
        | succ ticks =>
            rw [watch_udpSilent hsilent] at hwatch
            exact (Prod.mk.inj (Option.some.inj hwatch)).2.symm
      simp only [Unsettled, hnext]
      omega
  | backoff hphase hnext hattempt hnow hrounds =>
      simp [Unsettled, hphase] at h
  | shutdown hnext hnow hrounds => exact hsilent.elim

end TimedClient

end Redpill
