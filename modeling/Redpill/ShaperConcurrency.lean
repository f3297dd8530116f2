/-
The shaper under concurrent calls (`shaper.rs`).  The server shares one shaper
between the TUN reader, all sessions and the RTT task of every connection.
Each atomic operation of `check` and `update_rtt` is a step of its own; loads
may be stale, weak exchanges may fail for no reason, and time passes between
any two steps.
-/
import Redpill.Atomic
import Redpill.Machine
import Redpill.Population
import Redpill.ShaperInvariant

namespace Redpill

open Atomic

structure AtomicShaper where
  tokens : Cell Nat
  rate : Cell Nat
  burst : Cell Nat
  lastRefill : Cell Nat
  droppedBytes : Cell Nat
  droppedPackets : Cell Nat
  baseRtt : Cell Nat
  currentRate : Cell Nat
  minRate : Nat
  maxRate : Nat
deriving Repr, DecidableEq

namespace AtomicShaper

def new (maxBandwidthMbps : Nat) : AtomicShaper :=
  let shaper := AdaptiveShaper.new maxBandwidthMbps
  let bucket := shaper.rateLimiter.bucket
  { tokens := Cell.new bucket.tokens
    rate := Cell.new bucket.rate
    burst := Cell.new bucket.burst
    lastRefill := Cell.new bucket.lastRefill
    droppedBytes := Cell.new 0
    droppedPackets := Cell.new 0
    baseRtt := Cell.new shaper.baseRtt
    currentRate := Cell.new shaper.currentRate
    minRate := shaper.minRate
    maxRate := shaper.maxRate }

/-- The newest values, as the sequential model has them. -/
def snapshot (shaper : AtomicShaper) : AdaptiveShaper where
  rateLimiter :=
    { bucket := ⟨shaper.tokens.value, shaper.rate.value, shaper.burst.value,
        shaper.lastRefill.value⟩
      droppedBytes := shaper.droppedBytes.value
      droppedPackets := shaper.droppedPackets.value }
  baseRtt := shaper.baseRtt.value
  currentRate := shaper.currentRate.value
  minRate := shaper.minRate
  maxRate := shaper.maxRate

/-- The rate that follows from the rate a thread has loaded. -/
def adaptedRate (shaper : AtomicShaper) (current qdelay : Nat) : Nat :=
  ({ shaper.snapshot with currentRate := current } :
    AdaptiveShaper).adaptedRate qdelay

end AtomicShaper

/-- Where a call of `check` is. -/
inductive CheckPhase where
  | loadRate
  -- `refill`
  | readClock
  | loadLast (clock : Nat)
  | claiming (clock last : Nat)
  | loadRefillRate (elapsed : Nat)
  | loadBurst (elapsed rate : Nat)
  | loadRefillTokens (add ceiling : Nat)
  | refilling (add ceiling seen : Nat)
  -- the rest of `check`
  | loadTokens
  | paying (seen : Nat)
  | dropBytes
  | dropPackets
  | returned (admitted : Bool)
deriving Repr, DecidableEq

/-- Where a call of `update_rtt` is. -/
inductive RttPhase where
  | lowering (loop : Lowering Nat)
  | reloadBase
  | loadCurrent (qdelay : Nat)
  | storeCurrent (rate : Nat)
  -- `set_rate`
  | storeRate (rate : Nat)
  | storeBurst (rate : Nat)
  | clamping (ceiling : Nat) (loop : Lowering Nat)
  | returned
deriving Repr, DecidableEq

/-- One atomic operation of `check(bytes)` at time `now`. -/
def CheckPhase.step (now bytes : Nat) (shaper : AtomicShaper) :
    CheckPhase → Choice → Option (AtomicShaper × CheckPhase)
  | .loadRate, .read age =>
      (shaper.rate.load age).map fun rate =>
        (shaper, if rate = 0 then .returned true else .readClock)
  | .readClock, .write => some (shaper, .loadLast now)
  | .loadLast clock, .read age =>
      (shaper.lastRefill.load age).map fun last =>
        (shaper,
          if clock - last < 100 then .loadTokens else .claiming clock last)
  | .claiming clock last, choice =>
      (shaper.lastRefill.exchange last clock choice).map fun exchanged =>
        ({ shaper with lastRefill := exchanged.1 },
          match exchanged.2 with
          | none => .loadRefillRate (clock - last)
          | some _ => .loadTokens)
  | .loadRefillRate elapsed, .read age =>
      (shaper.rate.load age).map fun rate => (shaper, .loadBurst elapsed rate)
  | .loadBurst elapsed rate, .read age =>
      (shaper.burst.load age).map fun burst =>
        (shaper, .loadRefillTokens (u64Mul rate elapsed / 1000)
          (u64Mul burst 1000))
  | .loadRefillTokens add ceiling, .read age =>
      (shaper.tokens.load age).map fun seen =>
        (shaper, .refilling add ceiling seen)
  | .refilling add ceiling seen, choice =>
      let new := min (u64Add seen add) ceiling
      if new = seen then some (shaper, .loadTokens)
      else
        (shaper.tokens.exchangeWeak seen new choice).map fun exchanged =>
          ({ shaper with tokens := exchanged.1 },
            match exchanged.2 with
            | none => .loadTokens
            | some seen => .refilling add ceiling seen)
  | .loadTokens, .read age =>
      (shaper.tokens.load age).map fun seen => (shaper, .paying seen)
  | .paying seen, choice =>
      let cost := u64Mul bytes 1000
      if seen < cost then some (shaper, .dropBytes)
      else
        (shaper.tokens.exchangeWeak seen (seen - cost) choice).map
          fun exchanged =>
            ({ shaper with tokens := exchanged.1 },
              match exchanged.2 with
              | none => .returned true
              | some seen => .paying seen)
  | .dropBytes, .write =>
      let dropped := u64Add shaper.droppedBytes.value bytes
      some ({ shaper with droppedBytes := shaper.droppedBytes.store dropped },
        .dropPackets)
  | .dropPackets, .write =>
      let dropped := u64Add shaper.droppedPackets.value 1
      some ({ shaper with
          droppedPackets := shaper.droppedPackets.store dropped },
        .returned false)
  | .loadRate, .write => none
  | .readClock, .read _ => none
  | .loadLast _, .write => none
  | .loadRefillRate _, .write => none
  | .loadBurst _ _, .write => none
  | .loadRefillTokens _ _, .write => none
  | .loadTokens, .write => none
  | .dropBytes, .read _ => none
  | .dropPackets, .read _ => none
  | .returned _, _ => none

/-- The phase after a step of the loop on the base RTT. -/
def RttPhase.afterLowering : Lowering Nat → RttPhase
  | .loading => .lowering .loading
  | .testing seen => .lowering (.testing seen)
  | .finished => .reloadBase

/-- The phase after a step of the loop that clamps the tokens. -/
def RttPhase.afterClamping (ceiling : Nat) : Lowering Nat → RttPhase
  | .loading => .clamping ceiling .loading
  | .testing seen => .clamping ceiling (.testing seen)
  | .finished => .returned

/-- The burst that `set_rate` stores for a rate. -/
def burstFor (rate : Nat) : Nat := if 0 < rate then rate / 10 else 0

/-- One atomic operation of `update_rtt` with a sample in μs. -/
def RttPhase.step (rttUs : Nat) (shaper : AtomicShaper) :
    RttPhase → Choice → Option (AtomicShaper × RttPhase)
  | .lowering loop, choice =>
      (loop.step (· < ·) rttUs shaper.baseRtt choice).map fun after =>
        ({ shaper with baseRtt := after.1 }, .afterLowering after.2)
  | .reloadBase, .read age =>
      (shaper.baseRtt.load age).map fun base =>
        (shaper,
          if base = u64Max then .returned else .loadCurrent (rttUs - base))
  | .loadCurrent qdelay, .read age =>
      (shaper.currentRate.load age).map fun current =>
        (shaper,
          if shaper.adaptedRate current qdelay = current then .returned
          else .storeCurrent (shaper.adaptedRate current qdelay))
  | .storeCurrent rate, .write =>
      some ({ shaper with currentRate := shaper.currentRate.store rate },
        .storeRate rate)
  | .storeRate rate, .write =>
      some ({ shaper with rate := shaper.rate.store rate }, .storeBurst rate)
  | .storeBurst rate, .write =>
      some ({ shaper with burst := shaper.burst.store (burstFor rate) },
        .clamping (u64Mul (burstFor rate) 1000) .loading)
  | .clamping ceiling loop, choice =>
      (loop.step (· < ·) ceiling shaper.tokens choice).map fun after =>
        ({ shaper with tokens := after.1 }, .afterClamping ceiling after.2)
  | .reloadBase, .write => none
  | .loadCurrent _, .write => none
  | .storeCurrent _, .read _ => none
  | .storeRate _, .read _ => none
  | .storeBurst _, .read _ => none
  | .returned, _ => none

/-- A call, with its argument and where it is. -/
inductive ShaperThread where
  | check (bytes : Nat) (phase : CheckPhase)
  | updateRtt (rttUs : Nat) (phase : RttPhase)
deriving Repr, DecidableEq

namespace ShaperThread

def startCheck (bytes : Nat) : ShaperThread := .check bytes .loadRate

/-- A sample given to a shaper without a cap is ignored. -/
def startUpdateRtt (shaper : AtomicShaper) (rtt : Nat) : ShaperThread :=
  .updateRtt (rtt % 2 ^ 64)
    (if shaper.maxRate = 0 then .returned else .lowering .loading)

def step (now : Nat) (shaper : AtomicShaper) (choice : Choice) :
    ShaperThread → Option (AtomicShaper × ShaperThread)
  | .check bytes phase =>
      (phase.step now bytes shaper choice).map fun after =>
        (after.1, .check bytes after.2)
  | .updateRtt rttUs phase =>
      (phase.step rttUs shaper choice).map fun after =>
        (after.1, .updateRtt rttUs after.2)

end ShaperThread

/-- Any number of calls on one shaper; the clock is in μs since it was made. -/
structure ShaperRace where
  now : Nat
  shaper : AtomicShaper
  threads : List ShaperThread
deriving Repr, DecidableEq

inductive RaceLabel where
  | tick (elapsed : Nat)
  | check (bytes : Nat)
  | updateRtt (rtt : Nat)
  | step (index : Nat) (choice : Choice)
deriving Repr, DecidableEq

namespace ShaperRace

def start (maxBandwidthMbps : Nat) : ShaperRace :=
  ⟨0, AtomicShaper.new maxBandwidthMbps, []⟩

def step (race : ShaperRace) : RaceLabel → Option ShaperRace
  | .tick elapsed => some { race with now := race.now + elapsed }
  | .check bytes =>
      some { race with
        threads := race.threads ++ [ShaperThread.startCheck bytes] }
  | .updateRtt rtt =>
      some { race with
        threads := race.threads ++
          [ShaperThread.startUpdateRtt race.shaper rtt] }
  | .step index choice =>
      match race.threads[index]? with
      | none => none
      | some thread =>
          (thread.step race.now race.shaper choice).map fun after =>
            { race with
              shaper := after.1
              threads := race.threads.set index after.2 }

end ShaperRace

/-- What an operation of `check` can do. -/
inductive CheckPhase.Step (now bytes : Nat) (shaper : AtomicShaper) :
    CheckPhase → AtomicShaper × CheckPhase → Prop
  | unlimited (hheld : shaper.rate.Held 0) :
      Step now bytes shaper .loadRate (shaper, .returned true)
  | limited : Step now bytes shaper .loadRate (shaper, .readClock)
  | clock : Step now bytes shaper .readClock (shaper, .loadLast now)
  | recent {clock : Nat} :
      Step now bytes shaper (.loadLast clock) (shaper, .loadTokens)
  | due {clock last : Nat} (hdue : ¬ clock - last < 100) :
      Step now bytes shaper (.loadLast clock) (shaper, .claiming clock last)
  | claimed {clock last : Nat} (hlast : shaper.lastRefill.value = last) :
      Step now bytes shaper (.claiming clock last)
        ({ shaper with lastRefill := shaper.lastRefill.store clock },
          .loadRefillRate (clock - last))
  | lost {clock last : Nat} :
      Step now bytes shaper (.claiming clock last) (shaper, .loadTokens)
  | refillRate {elapsed rate : Nat} (hheld : shaper.rate.Held rate) :
      Step now bytes shaper (.loadRefillRate elapsed)
        (shaper, .loadBurst elapsed rate)
  | burst {elapsed rate burst : Nat} (hheld : shaper.burst.Held burst) :
      Step now bytes shaper (.loadBurst elapsed rate)
        (shaper, .loadRefillTokens (u64Mul rate elapsed / 1000)
          (u64Mul burst 1000))
  | refillTokens {add ceiling seen : Nat} :
      Step now bytes shaper (.loadRefillTokens add ceiling)
        (shaper, .refilling add ceiling seen)
  | refillRetry {add ceiling seen other : Nat} :
      Step now bytes shaper (.refilling add ceiling seen)
        (shaper, .refilling add ceiling other)
  | refillNothing {add ceiling seen : Nat} :
      Step now bytes shaper (.refilling add ceiling seen)
        (shaper, .loadTokens)
  | refilled {add ceiling seen : Nat} (hvalue : shaper.tokens.value = seen) :
      Step now bytes shaper (.refilling add ceiling seen)
        ({ shaper with
            tokens := shaper.tokens.store (min (u64Add seen add) ceiling) },
          .loadTokens)
  | tokens {seen : Nat} :
      Step now bytes shaper .loadTokens (shaper, .paying seen)
  | short {seen : Nat} :
      Step now bytes shaper (.paying seen) (shaper, .dropBytes)
  | payRetry {seen other : Nat} :
      Step now bytes shaper (.paying seen) (shaper, .paying other)
  | paid {seen : Nat} (hvalue : shaper.tokens.value = seen)
      (hcost : u64Mul bytes 1000 ≤ seen) :
      Step now bytes shaper (.paying seen)
        ({ shaper with
            tokens := shaper.tokens.store (seen - u64Mul bytes 1000) },
          .returned true)
  | droppedBytes {cell : Cell Nat} :
      Step now bytes shaper .dropBytes
        ({ shaper with droppedBytes := cell }, .dropPackets)
  | droppedPackets {cell : Cell Nat} :
      Step now bytes shaper .dropPackets
        ({ shaper with droppedPackets := cell }, .returned false)

theorem CheckPhase.Step.of_claiming {now bytes : Nat} {shaper : AtomicShaper}
    {clock last : Nat} {choice : Choice} {next : AtomicShaper × CheckPhase}
    (hstep : (CheckPhase.claiming clock last).step now bytes shaper choice =
      some next) :
    CheckPhase.Step now bytes shaper (.claiming clock last) next := by
  simp only [CheckPhase.step, Option.map_eq_some_iff, Prod.exists] at hstep
  obtain ⟨cell, failed, hexchange, rfl⟩ := hstep
  rcases Cell.exchange_cases hexchange with
    ⟨hvalue, rfl, rfl⟩ | ⟨rfl, seen, _, rfl⟩
  · exact .claimed hvalue
  · exact .lost

theorem CheckPhase.Step.of_refilling {now bytes : Nat} {shaper : AtomicShaper}
    {add ceiling seen : Nat} {choice : Choice}
    {next : AtomicShaper × CheckPhase}
    (hstep : (CheckPhase.refilling add ceiling seen).step now bytes shaper
      choice = some next) :
    CheckPhase.Step now bytes shaper (.refilling add ceiling seen) next := by
  simp only [CheckPhase.step] at hstep
  split at hstep
  · rw [Option.some.injEq] at hstep
    exact hstep ▸ .refillNothing
  · simp only [Option.map_eq_some_iff, Prod.exists] at hstep
    obtain ⟨cell, failed, hexchange, rfl⟩ := hstep
    rcases Cell.exchangeWeak_cases hexchange with
      ⟨hvalue, rfl, rfl⟩ | ⟨rfl, other, _, rfl⟩
    · exact .refilled hvalue
    · exact .refillRetry

theorem CheckPhase.Step.of_paying {now bytes : Nat} {shaper : AtomicShaper}
    {seen : Nat} {choice : Choice} {next : AtomicShaper × CheckPhase}
    (hstep : (CheckPhase.paying seen).step now bytes shaper choice =
      some next) :
    CheckPhase.Step now bytes shaper (.paying seen) next := by
  simp only [CheckPhase.step] at hstep
  split at hstep
  · rw [Option.some.injEq] at hstep
    exact hstep ▸ .short
  · rename_i hcost
    simp only [Option.map_eq_some_iff, Prod.exists] at hstep
    obtain ⟨cell, failed, hexchange, rfl⟩ := hstep
    rcases Cell.exchangeWeak_cases hexchange with
      ⟨hvalue, rfl, rfl⟩ | ⟨rfl, other, _, rfl⟩
    · exact .paid hvalue (Nat.le_of_not_lt hcost)
    · exact .payRetry

theorem CheckPhase.step_cases {now bytes : Nat} {shaper : AtomicShaper}
    {phase : CheckPhase} {choice : Choice} {next : AtomicShaper × CheckPhase}
    (hstep : phase.step now bytes shaper choice = some next) :
    CheckPhase.Step now bytes shaper phase next := by
  cases phase with
  | loadRate =>
      cases choice with
      | write => simp [step] at hstep
      | read age =>
          simp only [step, Option.map_eq_some_iff] at hstep
          obtain ⟨rate, hload, rfl⟩ := hstep
          split
          · rename_i hzero
            exact .unlimited (hzero ▸ Cell.held_of_load hload)
          · exact .limited
  | readClock =>
      cases choice with
      | write =>
          simp only [step, Option.some.injEq] at hstep
          exact hstep ▸ .clock
      | read age => simp [step] at hstep
  | loadLast clock =>
      cases choice with
      | write => simp [step] at hstep
      | read age =>
          simp only [step, Option.map_eq_some_iff] at hstep
          obtain ⟨last, hload, rfl⟩ := hstep
          split
          · exact .recent
          · rename_i hdue
            exact .due hdue
  | claiming clock last => exact .of_claiming hstep
  | loadRefillRate elapsed =>
      cases choice with
      | write => simp [step] at hstep
      | read age =>
          simp only [step, Option.map_eq_some_iff] at hstep
          obtain ⟨rate, hload, rfl⟩ := hstep
          exact .refillRate (Cell.held_of_load hload)
  | loadBurst elapsed rate =>
      cases choice with
      | write => simp [step] at hstep
      | read age =>
          simp only [step, Option.map_eq_some_iff] at hstep
          obtain ⟨burst, hload, rfl⟩ := hstep
          exact .burst (Cell.held_of_load hload)
  | loadRefillTokens add ceiling =>
      cases choice with
      | write => simp [step] at hstep
      | read age =>
          simp only [step, Option.map_eq_some_iff] at hstep
          obtain ⟨seen, hload, rfl⟩ := hstep
          exact .refillTokens
  | refilling add ceiling seen => exact .of_refilling hstep
  | loadTokens =>
      cases choice with
      | write => simp [step] at hstep
      | read age =>
          simp only [step, Option.map_eq_some_iff] at hstep
          obtain ⟨seen, hload, rfl⟩ := hstep
          exact .tokens
  | paying seen => exact .of_paying hstep
  | dropBytes =>
      cases choice with
      | write =>
          simp only [step, Option.some.injEq] at hstep
          exact hstep ▸ .droppedBytes
      | read age => simp [step] at hstep
  | dropPackets =>
      cases choice with
      | write =>
          simp only [step, Option.some.injEq] at hstep
          exact hstep ▸ .droppedPackets
      | read age => simp [step] at hstep
  | returned admitted => simp [step] at hstep

/-- What an operation of `update_rtt` can do. -/
inductive RttPhase.Step (rttUs : Nat) (shaper : AtomicShaper) :
    RttPhase → AtomicShaper × RttPhase → Prop
  | lowered {loop after : Lowering Nat} {cell : Cell Nat} {choice : Choice}
      (hloop : loop.step (· < ·) rttUs shaper.baseRtt choice =
        some (cell, after)) :
      Step rttUs shaper (.lowering loop)
        ({ shaper with baseRtt := cell }, .afterLowering after)
  | noBase : Step rttUs shaper .reloadBase (shaper, .returned)
  | based {base : Nat} :
      Step rttUs shaper .reloadBase (shaper, .loadCurrent (rttUs - base))
  | kept {qdelay : Nat} :
      Step rttUs shaper (.loadCurrent qdelay) (shaper, .returned)
  | adapted {current qdelay : Nat} (hheld : shaper.currentRate.Held current) :
      Step rttUs shaper (.loadCurrent qdelay)
        (shaper, .storeCurrent (shaper.adaptedRate current qdelay))
  | storedCurrent {rate : Nat} :
      Step rttUs shaper (.storeCurrent rate)
        ({ shaper with currentRate := shaper.currentRate.store rate },
          .storeRate rate)
  | storedRate {rate : Nat} :
      Step rttUs shaper (.storeRate rate)
        ({ shaper with rate := shaper.rate.store rate }, .storeBurst rate)
  | storedBurst {rate : Nat} :
      Step rttUs shaper (.storeBurst rate)
        ({ shaper with burst := shaper.burst.store (burstFor rate) },
          .clamping (u64Mul (burstFor rate) 1000) .loading)
  | clamped {ceiling : Nat} {loop after : Lowering Nat} {cell : Cell Nat}
      {choice : Choice}
      (hloop : loop.step (· < ·) ceiling shaper.tokens choice =
        some (cell, after)) :
      Step rttUs shaper (.clamping ceiling loop)
        ({ shaper with tokens := cell }, .afterClamping ceiling after)

theorem RttPhase.step_cases {rttUs : Nat} {shaper : AtomicShaper}
    {phase : RttPhase} {choice : Choice} {next : AtomicShaper × RttPhase}
    (hstep : phase.step rttUs shaper choice = some next) :
    RttPhase.Step rttUs shaper phase next := by
  cases phase with
  | lowering loop =>
      simp only [step, Option.map_eq_some_iff, Prod.exists] at hstep
      obtain ⟨cell, after, hloop, rfl⟩ := hstep
      exact .lowered hloop
  | reloadBase =>
      cases choice with
      | write => simp [step] at hstep
      | read age =>
          simp only [step, Option.map_eq_some_iff] at hstep
          obtain ⟨base, hload, rfl⟩ := hstep
          split
          · exact .noBase
          · exact .based
  | loadCurrent qdelay =>
      cases choice with
      | write => simp [step] at hstep
      | read age =>
          simp only [step, Option.map_eq_some_iff] at hstep
          obtain ⟨current, hload, rfl⟩ := hstep
          split
          · exact .kept
          · exact .adapted (Cell.held_of_load hload)
  | storeCurrent rate =>
      cases choice with
      | write =>
          simp only [step, Option.some.injEq] at hstep
          exact hstep ▸ .storedCurrent
      | read age => simp [step] at hstep
  | storeRate rate =>
      cases choice with
      | write =>
          simp only [step, Option.some.injEq] at hstep
          exact hstep ▸ .storedRate
      | read age => simp [step] at hstep
  | storeBurst rate =>
      cases choice with
      | write =>
          simp only [step, Option.some.injEq] at hstep
          exact hstep ▸ .storedBurst
      | read age => simp [step] at hstep
  | clamping ceiling loop =>
      simp only [step, Option.map_eq_some_iff, Prod.exists] at hstep
      obtain ⟨cell, after, hloop, rfl⟩ := hstep
      exact .clamped hloop
  | returned => simp [step] at hstep

end Redpill
