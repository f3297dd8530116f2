/-
The health monitor of a connection (`transport/health.rs`).  A QUIC connection
is given up after two checks in a row with a round trip far above the first
one; a fallback is given up as soon as a UDP probe suggests that QUIC may work.
The comparison of round trips is done in floating point and stays a parameter.
-/
import Redpill.DaemonStatus

namespace Redpill

inductive ReconnectReason where
  | degraded
  | upgrade
deriving Repr, DecidableEq

/-- Intervals and timeouts in ms. -/
def quicCheckInterval : Nat := 30000

def upgradeProbeInterval : Nat := 300000

def degradedThreshold : Nat := 2

def udpProbeTimeout : Nat := 3000

def udpReplyTimeout : Nat := 1000

/-- What comes back for the probe's packet. -/
inductive UdpAnswer where
  | reply (millis : Nat)
  | unreachable (millis : Nat)
  | silent
deriving Repr, DecidableEq

/-- One probe: how long it takes to bind, connect and send, whether that
succeeds, and the answer. -/
structure UdpProbe where
  setup : Nat
  sent : Bool
  answer : UdpAnswer
deriving Repr, DecidableEq

/-- The inner `recv` with its timeout: no answer counts as reachable. -/
def UdpAnswer.received : UdpAnswer → Bool × Nat
  | .reply millis =>
      if millis ≤ udpReplyTimeout then (true, millis)
      else (true, udpReplyTimeout)
  | .unreachable millis =>
      if millis ≤ udpReplyTimeout then (false, millis)
      else (true, udpReplyTimeout)
  | .silent => (true, udpReplyTimeout)

/-- Whether the probe is taken for reachable, and when that is known. -/
def probeUdpReachable (probe : UdpProbe) : Bool × Nat :=
  let inner :=
    if probe.sent then
      (probe.answer.received.1, probe.setup + probe.answer.received.2)
    else (false, probe.setup)
  if inner.2 ≤ udpProbeTimeout then inner else (false, udpProbeTimeout)

section Watch

variable (exceeds : Nat → Nat → Bool) (rtt : Nat → Nat) (udp : Nat → UdpProbe)

/-- The loop of `watch_quic` over the next `ticks` ticks; `rtt tick` is the
round trip at a tick, that at tick 0 the baseline. -/
def watchQuic : (ticks tick consecutiveDegraded : Nat) → Option Nat
  | 0, _, _ => none
  | ticks + 1, tick, consecutiveDegraded =>
      if exceeds (rtt tick) (rtt 0) then
        if degradedThreshold ≤ consecutiveDegraded + 1 then some tick
        else watchQuic ticks (tick + 1) (consecutiveDegraded + 1)
      else watchQuic ticks (tick + 1) 0

/-- The loop of `watch_fallback` over the next `ticks` ticks; `udp tick` is
the probe made at a tick.  It returns the time at which the probe is over. -/
def watchFallback : (ticks tick : Nat) → Option Nat
  | 0, _ => none
  | ticks + 1, tick =>
      if (probeUdpReachable (udp tick)).1 then
        some (upgradeProbeInterval * tick + (probeUdpReachable (udp tick)).2)
      else watchFallback ticks (tick + 1)

/-- The monitor of a connection: `quic_conn` and `server_addr` matter only in
whether they are there. -/
structure HealthMonitor where
  quicConn : Bool
  mode : TransportMode
  serverAddr : Bool
deriving Repr, DecidableEq

/-- `watch`, observed for a number of ticks after the first, which comes at
once: the reason and the ms after which it returns. -/
def HealthMonitor.watch (monitor : HealthMonitor) (ticks : Nat) :
    Option (ReconnectReason × Nat) :=
  match monitor.quicConn, monitor.mode with
  | true, .quicRaw =>
      (watchQuic exceeds rtt ticks 1 0).map fun tick =>
        (.degraded, quicCheckInterval * tick)
  | true, .quicCamouflaged =>
      (watchQuic exceeds rtt ticks 1 0).map fun tick =>
        (.degraded, quicCheckInterval * tick)
  | false, .tcpReality =>
      if monitor.serverAddr then
        (watchFallback udp ticks 1).map fun time => (.upgrade, time)
      else none
  | false, .webSocketCdn =>
      if monitor.serverAddr then
        (watchFallback udp ticks 1).map fun time => (.upgrade, time)
      else none
  | true, .tcpReality => none
  | true, .webSocketCdn => none
  | false, .quicRaw => none
  | false, .quicCamouflaged => none

/-- The round trip is far above the baseline at two ticks in a row, of which
this is the second. -/
def Sustained (tick : Nat) : Prop :=
  2 ≤ tick ∧ exceeds (rtt tick) (rtt 0) = true ∧
    exceeds (rtt (tick - 1)) (rtt 0) = true

instance (tick : Nat) : Decidable (Sustained exceeds rtt tick) :=
  inferInstanceAs (Decidable (_ ∧ _ ∧ _))

/-- The probe made at a tick is taken for reachable. -/
def LooksReachable (tick : Nat) : Prop :=
  (probeUdpReachable (udp tick)).1 = true

instance (tick : Nat) : Decidable (LooksReachable udp tick) :=
  inferInstanceAs (Decidable (_ = true))

end Watch

/-- The first tick with a property among the next `ticks`. -/
def firstFrom (found : Nat → Prop) [DecidablePred found] :
    (ticks tick : Nat) → Option Nat
  | 0, _ => none
  | ticks + 1, tick =>
      if found tick then some tick else firstFrom found ticks (tick + 1)

theorem firstFrom_eq_some {found : Nat → Prop} [DecidablePred found]
    {ticks tick final : Nat} :
    firstFrom found ticks tick = some final ↔
      tick ≤ final ∧ final < tick + ticks ∧ found final ∧
        ∀ earlier, tick ≤ earlier → earlier < final → ¬ found earlier := by
  induction ticks generalizing tick with
  | zero =>
      simp only [firstFrom, reduceCtorEq, false_iff]
      omega
  | succ ticks ih =>
      rw [firstFrom]
      by_cases hfound : found tick
      · rw [if_pos hfound, Option.some.injEq]
        constructor
        · rintro rfl
          exact ⟨Nat.le_refl _, by omega, hfound, by omega⟩
        · intro ⟨hle, _, _, hfirst⟩
          by_contra hne
          exact hfirst tick (Nat.le_refl _) (by omega) hfound
      · rw [if_neg hfound, ih]
        constructor
        · intro ⟨hle, hlt, hfinal, hfirst⟩
          refine ⟨by omega, by omega, hfinal, ?_⟩
          intro earlier hfrom huntil
          by_cases heq : earlier = tick
          · exact heq ▸ hfound
          · exact hfirst earlier (by omega) huntil
        · intro ⟨hle, hlt, hfinal, hfirst⟩
          have hne : final ≠ tick := fun heq => hfound (heq ▸ hfinal)
          refine ⟨by omega, by omega, hfinal, ?_⟩
          intro earlier hfrom huntil
          exact hfirst earlier (by omega) huntil

section Watch

variable {exceeds : Nat → Nat → Bool} {rtt : Nat → Nat} {udp : Nat → UdpProbe}

/-- The counter of the loop remembers the tick before: it is 1 if that one was
above the threshold, and else 0. -/
theorem watchQuic_eq_firstFrom (ticks : Nat) {tick consecutive : Nat}
    (hcounter : consecutive =
      if 2 ≤ tick ∧ exceeds (rtt (tick - 1)) (rtt 0) = true then 1 else 0)
    (hpos : 1 ≤ tick) :
    watchQuic exceeds rtt ticks tick consecutive =
      firstFrom (Sustained exceeds rtt) ticks tick := by
  induction ticks generalizing tick consecutive with
  | zero => rfl
  | succ ticks ih =>
      rw [watchQuic, firstFrom]
      by_cases hnow : exceeds (rtt tick) (rtt 0) = true
      · rw [if_pos hnow]
        by_cases hbefore : 2 ≤ tick ∧ exceeds (rtt (tick - 1)) (rtt 0) = true
        · rw [if_pos hbefore] at hcounter
          rw [if_pos (show Sustained exceeds rtt tick from
            ⟨hbefore.1, hnow, hbefore.2⟩), hcounter]
          rfl
        · rw [if_neg hbefore] at hcounter
          rw [if_neg (show ¬ Sustained exceeds rtt tick from
            fun h => hbefore ⟨h.1, h.2.2⟩), hcounter]
          apply ih
          · rw [Nat.add_sub_cancel, if_pos ⟨by omega, hnow⟩]
          · omega
      · rw [if_neg hnow, if_neg (show ¬ Sustained exceeds rtt tick from
          fun h => hnow h.2.1)]
        apply ih
        · rw [Nat.add_sub_cancel, if_neg fun h => hnow h.2]
        · omega

theorem watchFallback_eq_firstFrom (ticks tick : Nat) :
    watchFallback udp ticks tick =
      (firstFrom (LooksReachable udp) ticks tick).map fun tick =>
        upgradeProbeInterval * tick + (probeUdpReachable (udp tick)).2 := by
  induction ticks generalizing tick with
  | zero => rfl
  | succ ticks ih =>
      rw [watchFallback, firstFrom]
      by_cases hreachable : (probeUdpReachable (udp tick)).1 = true
      · rw [if_pos hreachable, if_pos (show LooksReachable udp tick from hreachable),
          Option.map_some]
      · rw [if_neg hreachable,
          if_neg (show ¬ LooksReachable udp tick from hreachable), ih]

theorem probeUdpReachable_time (probe : UdpProbe) :
    (probeUdpReachable probe).2 ≤ udpProbeTimeout := by
  have hcut : ∀ inner : Bool × Nat, (if inner.2 ≤ udpProbeTimeout then inner
      else (false, udpProbeTimeout)).2 ≤ udpProbeTimeout := by
    intro inner
    split
    · assumption
    · exact Nat.le_refl _
  exact hcut _

/-- The first tick of all with a property. -/
def IsFirst (found : Nat → Prop) (tick : Nat) : Prop :=
  1 ≤ tick ∧ found tick ∧ ∀ earlier, 1 ≤ earlier → earlier < tick →
    ¬ found earlier

theorem exists_firstFrom_iff {found : Nat → Prop} [DecidablePred found]
    {final : Nat} :
    (∃ ticks, firstFrom found ticks 1 = some final) ↔
      IsFirst found final := by
  constructor
  · intro ⟨ticks, hfirst⟩
    obtain ⟨hpos, _, hfound, hearlier⟩ := firstFrom_eq_some.mp hfirst
    exact ⟨hpos, hfound, hearlier⟩
  · intro ⟨hpos, hfound, hearlier⟩
    exact ⟨final, firstFrom_eq_some.mpr ⟨hpos, by omega, hfound, hearlier⟩⟩

theorem exists_watchQuic_iff {reason : ReconnectReason} {time : Nat} :
    (∃ ticks, (watchQuic exceeds rtt ticks 1 0).map (fun tick =>
      (ReconnectReason.degraded, quicCheckInterval * tick)) =
        some (reason, time)) ↔
      reason = .degraded ∧ ∃ tick, time = quicCheckInterval * tick ∧
        IsFirst (Sustained exceeds rtt) tick := by
  have hloop : ∀ ticks, watchQuic exceeds rtt ticks 1 0 =
      firstFrom (Sustained exceeds rtt) ticks 1 :=
    fun ticks => watchQuic_eq_firstFrom ticks (by simp) (Nat.le_refl _)
  simp only [hloop, Option.map_eq_some_iff, Prod.mk.injEq]
  constructor
  · rintro ⟨ticks, tick, hfirst, rfl, rfl⟩
    exact ⟨rfl, tick, rfl, exists_firstFrom_iff.mp ⟨ticks, hfirst⟩⟩
  · rintro ⟨rfl, tick, rfl, hfirst⟩
    obtain ⟨ticks, hticks⟩ := exists_firstFrom_iff.mpr hfirst
    exact ⟨ticks, tick, hticks, rfl, rfl⟩

theorem exists_watchFallback_iff {reason : ReconnectReason} {time : Nat} :
    (∃ ticks, (watchFallback udp ticks 1).map (fun time =>
      (ReconnectReason.upgrade, time)) = some (reason, time)) ↔
      reason = .upgrade ∧ ∃ tick,
        time = upgradeProbeInterval * tick + (probeUdpReachable (udp tick)).2 ∧
          IsFirst (LooksReachable udp) tick := by
  simp only [watchFallback_eq_firstFrom, Option.map_eq_some_iff,
    Prod.mk.injEq]
  constructor
  · rintro ⟨ticks, _, ⟨tick, hfirst, rfl⟩, rfl, rfl⟩
    exact ⟨rfl, tick, rfl, exists_firstFrom_iff.mp ⟨ticks, hfirst⟩⟩
  · rintro ⟨rfl, tick, rfl, hfirst⟩
    obtain ⟨ticks, hticks⟩ := exists_firstFrom_iff.mpr hfirst
    exact ⟨ticks, _, ⟨tick, hticks, rfl⟩, rfl, rfl⟩

end Watch

def TransportMode.isQuic : TransportMode → Bool
  | .quicRaw => true
  | .quicCamouflaged => true
  | .tcpReality => false
  | .webSocketCdn => false

/-- Exactly when the monitor asks for a reconnection, for every history of
round trips and probes: on QUIC at the first check that is, like the one
before it, above the threshold; on a fallback after the first probe that looks
reachable; and never if the connection handle does not fit the mode. -/
theorem health_watch_exact (exceeds : Nat → Nat → Bool) (rtt : Nat → Nat)
    (udp : Nat → UdpProbe) (monitor : HealthMonitor)
    (reason : ReconnectReason) (time : Nat) :
    (∃ ticks, monitor.watch exceeds rtt udp ticks = some (reason, time)) ↔
      monitor.quicConn = monitor.mode.isQuic ∧
        ((reason = .degraded ∧ monitor.mode.isQuic = true ∧
            ∃ tick, time = quicCheckInterval * tick ∧
              IsFirst (Sustained exceeds rtt) tick) ∨
          (reason = .upgrade ∧ monitor.mode.isQuic = false ∧
            monitor.serverAddr = true ∧
            ∃ tick, time = upgradeProbeInterval * tick +
                (probeUdpReachable (udp tick)).2 ∧
              IsFirst (LooksReachable udp) tick)) := by
  obtain ⟨quicConn, mode, serverAddr⟩ := monitor
  cases quicConn with
  | true =>
      cases mode with
      | quicRaw =>
          refine exists_watchQuic_iff.trans ?_
          simp [TransportMode.isQuic]
      | quicCamouflaged =>
          refine exists_watchQuic_iff.trans ?_
          simp [TransportMode.isQuic]
      | tcpReality => simp [HealthMonitor.watch, TransportMode.isQuic]
      | webSocketCdn => simp [HealthMonitor.watch, TransportMode.isQuic]
  | false =>
      cases mode with
      | quicRaw => simp [HealthMonitor.watch, TransportMode.isQuic]
      | quicCamouflaged => simp [HealthMonitor.watch, TransportMode.isQuic]
      | tcpReality =>
          cases serverAddr with
          | false => simp [HealthMonitor.watch, TransportMode.isQuic]
          | true =>
              refine exists_watchFallback_iff.trans ?_
              simp [TransportMode.isQuic]
      | webSocketCdn =>
          cases serverAddr with
          | false => simp [HealthMonitor.watch, TransportMode.isQuic]
          | true =>
              refine exists_watchFallback_iff.trans ?_
              simp [TransportMode.isQuic]

/-- Above the threshold at the checks 1, 3 and 4: the last two in a row end
the watch, two minutes after it began. -/
theorem health_watch_exact_recovered :
    ∃ ticks, (⟨true, .quicRaw, true⟩ : HealthMonitor).watch
      (fun current baseline => decide (3 * baseline < current))
      (fun tick => if tick = 1 ∨ 3 ≤ tick then 400 else 100)
      (fun _ => ⟨0, true, .silent⟩) ticks = some (.degraded, 120000) := by
  refine (health_watch_exact _ _ _ _ _ _).mpr
    ⟨rfl, Or.inl ⟨rfl, rfl, 4, rfl, by decide, by decide, ?_⟩⟩
  intro earlier hpos hless
  interval_cases earlier <;> decide

end Redpill
