/-
The shaper's calls when they do not overlap.  A call that runs alone, on fresh
values, returns, and does to the shaper exactly what the sequential model does
in one go, however often a weak exchange fails on the way.
-/
import Redpill.ShaperConcurrency

namespace Redpill

open Atomic

/-- A read returns the newest value. -/
def IsFresh : Choice → Prop
  | .write => True
  | .read age => age = 0

/-- The end of a check: pay, or count the packet as dropped. -/
def AdaptiveShaper.pay (shaper : AdaptiveShaper) (bytes : Nat) :
    Bool × AdaptiveShaper :=
  let limiter := shaper.rateLimiter
  let cost := u64Mul bytes 1000
  if limiter.bucket.tokens < cost then
    (false, { shaper with
      rateLimiter :=
        { limiter with
          droppedBytes := u64Add limiter.droppedBytes bytes
          droppedPackets := u64Add limiter.droppedPackets 1 } })
  else
    (true, { shaper with
      rateLimiter :=
        { limiter with
          bucket :=
            { limiter.bucket with tokens := limiter.bucket.tokens - cost } } })

/-- The shaper with its tokens replaced. -/
def AdaptiveShaper.withTokens (shaper : AdaptiveShaper) (tokens : Nat) :
    AdaptiveShaper :=
  { shaper with
    rateLimiter :=
      { shaper.rateLimiter with
        bucket := { shaper.rateLimiter.bucket with tokens := tokens } } }

/-- What is left of a check, done in one go. -/
def CheckPhase.outcome (now bytes : Nat) (shaper : AtomicShaper) :
    CheckPhase → Bool × AdaptiveShaper
  | .loadRate => shaper.snapshot.check bytes now
  | .readClock => shaper.snapshot.check bytes now
  | .loadLast clock =>
      let bucket := shaper.snapshot.rateLimiter.bucket.refill clock
      AdaptiveShaper.pay { shaper.snapshot with
        rateLimiter := { shaper.snapshot.rateLimiter with bucket := bucket } }
        bytes
  | .claiming clock _ =>
      let bucket := shaper.snapshot.rateLimiter.bucket.refill clock
      AdaptiveShaper.pay { shaper.snapshot with
        rateLimiter := { shaper.snapshot.rateLimiter with bucket := bucket } }
        bytes
  | .loadRefillRate elapsed =>
      (shaper.snapshot.withTokens (min
        (u64Add shaper.tokens.value (u64Mul shaper.rate.value elapsed / 1000))
        (u64Mul shaper.burst.value 1000))).pay bytes
  | .loadBurst elapsed rate =>
      (shaper.snapshot.withTokens (min
        (u64Add shaper.tokens.value (u64Mul rate elapsed / 1000))
        (u64Mul shaper.burst.value 1000))).pay bytes
  | .loadRefillTokens add ceiling =>
      (shaper.snapshot.withTokens
        (min (u64Add shaper.tokens.value add) ceiling)).pay bytes
  | .refilling add ceiling _ =>
      (shaper.snapshot.withTokens
        (min (u64Add shaper.tokens.value add) ceiling)).pay bytes
  | .loadTokens => shaper.snapshot.pay bytes
  | .paying _ => shaper.snapshot.pay bytes
  | .dropBytes => (false, { shaper.snapshot with
      rateLimiter :=
        { shaper.snapshot.rateLimiter with
          droppedBytes := u64Add shaper.droppedBytes.value bytes
          droppedPackets := u64Add shaper.droppedPackets.value 1 } })
  | .dropPackets => (false, { shaper.snapshot with
      rateLimiter :=
        { shaper.snapshot.rateLimiter with
          droppedPackets := u64Add shaper.droppedPackets.value 1 } })
  | .returned admitted => (admitted, shaper.snapshot)

/-- A check that runs alone still knows the newest values. -/
def CheckPhase.UpToDate (shaper : AtomicShaper) : CheckPhase → Prop
  | .readClock => shaper.rate.value ≠ 0
  | .claiming clock last =>
      last = shaper.lastRefill.value ∧ ¬ clock - last < 100
  | .refilling _ _ seen => seen = shaper.tokens.value
  | .paying seen => seen = shaper.tokens.value
  | _ => True

theorem fresh_load {α : Type} {cell : Cell α} {age : Nat} {value : α}
    (hfresh : IsFresh (.read age)) (hload : cell.load age = some value) :
    value = cell.value := by
  rw [show age = 0 from hfresh] at hload
  exact (Option.some.inj hload).symm

theorem fresh_exchange {α : Type} [DecidableEq α] {cell next : Cell α}
    {expected new : α} {choice : Choice} {failed : Option α}
    (hfresh : IsFresh choice)
    (h : cell.exchangeWeak expected new choice = some (next, failed)) :
    (next = cell.store new ∧ failed = none) ∨
      (next = cell ∧ failed = some cell.value) := by
  cases choice with
  | write =>
      rw [Cell.exchangeWeak, Option.ite_none_right_eq_some,
        Option.some.injEq, Prod.mk.injEq] at h
      exact Or.inl ⟨h.2.1.symm, h.2.2.symm⟩
  | read age =>
      simp only [Cell.exchangeWeak, Option.map_eq_some_iff,
        Prod.mk.injEq] at h
      obtain ⟨seen, hload, rfl, rfl⟩ := h
      rw [fresh_load hfresh hload]
      exact Or.inr ⟨rfl, rfl⟩

/-- A check on a shaper with a rate refills the bucket and pays. -/
theorem AdaptiveShaper.check_eq_pay {shaper : AdaptiveShaper}
    (hrate : shaper.rateLimiter.bucket.rate ≠ 0) (bytes now : Nat) :
    shaper.check bytes now =
      AdaptiveShaper.pay { shaper with
        rateLimiter := { shaper.rateLimiter with
          bucket := shaper.rateLimiter.bucket.refill now } } bytes := by
  simp only [check, RateLimiter.check, TokenBucket.check, hrate, ↓reduceIte,
    pay]
  by_cases hshort : (shaper.rateLimiter.bucket.refill now).tokens <
      u64Mul bytes 1000
  · simp [hshort]
  · simp [hshort]

theorem AdaptiveShaper.check_unlimited {shaper : AdaptiveShaper}
    (hrate : shaper.rateLimiter.bucket.rate = 0) (bytes now : Nat) :
    shaper.check bytes now = (true, shaper) := by
  simp [check, RateLimiter.check, TokenBucket.check, hrate]

namespace CheckPhase

variable {now bytes : Nat} {shaper : AtomicShaper} {choice : Choice}
  {next : AtomicShaper × CheckPhase}

/-- The claim of a check that runs alone succeeds. -/
theorem claiming_alone {clock last : Nat} (hfresh : IsFresh choice)
    (hup : (CheckPhase.claiming clock last).UpToDate shaper)
    (hstep : (CheckPhase.claiming clock last).step now bytes shaper choice =
      some next) :
    next.2.UpToDate next.1 ∧ next.2.outcome now bytes next.1 =
      (CheckPhase.claiming clock last).outcome now bytes shaper := by
  obtain ⟨rfl, hdue⟩ := hup
  simp only [step, Option.map_eq_some_iff, Prod.exists] at hstep
  obtain ⟨cell, failed, hexchange, rfl⟩ := hstep
  obtain ⟨hweak, hstrong⟩ := Option.filter_eq_some_iff.mp hexchange
  rcases fresh_exchange hfresh hweak with ⟨rfl, rfl⟩ | ⟨rfl, rfl⟩
  · refine ⟨trivial, ?_⟩
    simp only [outcome, TokenBucket.refill, AtomicShaper.snapshot, Cell.store,
      hdue, ↓reduceIte, AdaptiveShaper.withTokens]
  · simp at hstrong

theorem refilling_alone {add ceiling seen : Nat} (hfresh : IsFresh choice)
    (hup : (CheckPhase.refilling add ceiling seen).UpToDate shaper)
    (hstep : (CheckPhase.refilling add ceiling seen).step now bytes shaper
      choice = some next) :
    next.2.UpToDate next.1 ∧ next.2.outcome now bytes next.1 =
      (CheckPhase.refilling add ceiling seen).outcome now bytes shaper := by
  obtain rfl : seen = shaper.tokens.value := hup
  simp only [step] at hstep
  split at hstep
  · rename_i hfull
    rw [Option.some.injEq] at hstep
    subst hstep
    refine ⟨trivial, ?_⟩
    simp only [outcome, hfull, AdaptiveShaper.withTokens,
      AtomicShaper.snapshot]
  · simp only [Option.map_eq_some_iff, Prod.exists] at hstep
    obtain ⟨cell, failed, hexchange, rfl⟩ := hstep
    rcases fresh_exchange hfresh hexchange with ⟨rfl, rfl⟩ | ⟨rfl, rfl⟩
    · exact ⟨trivial, rfl⟩
    · exact ⟨rfl, rfl⟩

theorem paying_alone {seen : Nat} (hfresh : IsFresh choice)
    (hup : (CheckPhase.paying seen).UpToDate shaper)
    (hstep : (CheckPhase.paying seen).step now bytes shaper choice =
      some next) :
    next.2.UpToDate next.1 ∧ next.2.outcome now bytes next.1 =
      (CheckPhase.paying seen).outcome now bytes shaper := by
  obtain rfl : seen = shaper.tokens.value := hup
  simp only [step] at hstep
  split at hstep
  · rename_i hshort
    rw [Option.some.injEq] at hstep
    subst hstep
    refine ⟨trivial, ?_⟩
    simp only [outcome, AdaptiveShaper.pay, AtomicShaper.snapshot, hshort,
      ↓reduceIte]
  · rename_i hpaid
    simp only [Option.map_eq_some_iff, Prod.exists] at hstep
    obtain ⟨cell, failed, hexchange, rfl⟩ := hstep
    rcases fresh_exchange hfresh hexchange with ⟨rfl, rfl⟩ | ⟨rfl, rfl⟩
    · refine ⟨trivial, ?_⟩
      simp only [outcome, AdaptiveShaper.pay, AtomicShaper.snapshot, hpaid,
        ↓reduceIte, Cell.store]
    · exact ⟨rfl, rfl⟩

/-- An operation of a check that runs alone leaves the rest of it to do. -/
theorem step_alone {phase : CheckPhase} (hfresh : IsFresh choice)
    (hup : phase.UpToDate shaper)
    (hstep : phase.step now bytes shaper choice = some next) :
    next.2.UpToDate next.1 ∧
      next.2.outcome now bytes next.1 = phase.outcome now bytes shaper := by
  cases phase with
  | claiming clock last => exact claiming_alone hfresh hup hstep
  | refilling add ceiling seen => exact refilling_alone hfresh hup hstep
  | paying seen => exact paying_alone hfresh hup hstep
  | loadRate =>
      cases choice with
      | write => simp [step] at hstep
      | read age =>
          simp only [step, Option.map_eq_some_iff] at hstep
          obtain ⟨rate, hload, rfl⟩ := hstep
          obtain rfl := fresh_load hfresh hload
          by_cases hzero : shaper.rate.value = 0
          · rw [if_pos hzero]
            exact ⟨trivial, (AdaptiveShaper.check_unlimited hzero _ _).symm⟩
          · rw [if_neg hzero]
            exact ⟨hzero, rfl⟩
  | readClock =>
      cases choice with
      | write =>
          simp only [step, Option.some.injEq] at hstep
          subst hstep
          have hrate : shaper.snapshot.rateLimiter.bucket.rate ≠ 0 := hup
          exact ⟨trivial, (AdaptiveShaper.check_eq_pay hrate _ _).symm⟩
      | read age => simp [step] at hstep
  | loadLast clock =>
      cases choice with
      | write => simp [step] at hstep
      | read age =>
          simp only [step, Option.map_eq_some_iff] at hstep
          obtain ⟨last, hload, rfl⟩ := hstep
          obtain rfl := fresh_load hfresh hload
          by_cases hrecent : clock - shaper.lastRefill.value < 100
          · rw [if_pos hrecent]
            refine ⟨trivial, ?_⟩
            simp only [outcome, TokenBucket.refill, AtomicShaper.snapshot,
              hrecent, ↓reduceIte]
          · rw [if_neg hrecent]
            exact ⟨⟨rfl, hrecent⟩, rfl⟩
  | loadRefillRate elapsed =>
      cases choice with
      | write => simp [step] at hstep
      | read age =>
          simp only [step, Option.map_eq_some_iff] at hstep
          obtain ⟨rate, hload, rfl⟩ := hstep
          obtain rfl := fresh_load hfresh hload
          exact ⟨trivial, rfl⟩
  | loadBurst elapsed rate =>
      cases choice with
      | write => simp [step] at hstep
      | read age =>
          simp only [step, Option.map_eq_some_iff] at hstep
          obtain ⟨burst, hload, rfl⟩ := hstep
          obtain rfl := fresh_load hfresh hload
          exact ⟨trivial, rfl⟩
  | loadRefillTokens add ceiling =>
      cases choice with
      | write => simp [step] at hstep
      | read age =>
          simp only [step, Option.map_eq_some_iff] at hstep
          obtain ⟨seen, hload, rfl⟩ := hstep
          exact ⟨fresh_load hfresh hload, rfl⟩
  | loadTokens =>
      cases choice with
      | write => simp [step] at hstep
      | read age =>
          simp only [step, Option.map_eq_some_iff] at hstep
          obtain ⟨seen, hload, rfl⟩ := hstep
          exact ⟨fresh_load hfresh hload, rfl⟩
  | dropBytes =>
      cases choice with
      | write =>
          simp only [step, Option.some.injEq] at hstep
          subst hstep
          exact ⟨trivial, rfl⟩
      | read age => simp [step] at hstep
  | dropPackets =>
      cases choice with
      | write =>
          simp only [step, Option.some.injEq] at hstep
          subst hstep
          exact ⟨trivial, rfl⟩
      | read age => simp [step] at hstep
  | returned admitted => simp [step] at hstep

/-- How far a check that runs alone is from returning. -/
def rank : CheckPhase → Nat
  | .loadRate => 12
  | .readClock => 11
  | .loadLast _ => 10
  | .claiming _ _ => 9
  | .loadRefillRate _ => 8
  | .loadBurst _ _ => 7
  | .loadRefillTokens _ _ => 6
  | .refilling _ _ _ => 5
  | .loadTokens => 4
  | .paying _ => 3
  | .dropBytes => 2
  | .dropPackets => 1
  | .returned _ => 0

/-- A check that runs alone is never stuck. -/
theorem exists_step (now bytes : Nat) {phase : CheckPhase}
    (hup : phase.UpToDate shaper)
    (hrank : phase.rank ≠ 0) :
    ∃ choice next, IsFresh choice ∧
      phase.step now bytes shaper choice = some next ∧
      next.2.rank < phase.rank := by
  cases phase with
  | loadRate =>
      refine ⟨.read 0, _, rfl, rfl, ?_⟩
      dsimp only
      split <;> simp [rank]
  | readClock => exact ⟨.write, _, trivial, rfl, by simp [rank]⟩
  | loadLast clock =>
      refine ⟨.read 0, _, rfl, rfl, ?_⟩
      dsimp only
      split <;> simp [rank]
  | claiming clock last =>
      obtain ⟨rfl, hdue⟩ := hup
      let claimed := { shaper with
        lastRefill := shaper.lastRefill.store clock }
      refine ⟨.write, (claimed,
        .loadRefillRate (clock - shaper.lastRefill.value)), trivial, ?_,
        by simp [rank]⟩
      simp [step, Cell.exchange, Cell.exchangeWeak, claimed]
  | loadRefillRate elapsed => exact ⟨.read 0, _, rfl, rfl, by simp [rank]⟩
  | loadBurst elapsed rate => exact ⟨.read 0, _, rfl, rfl, by simp [rank]⟩
  | loadRefillTokens add ceiling =>
      exact ⟨.read 0, _, rfl, rfl, by simp [rank]⟩
  | refilling add ceiling seen =>
      obtain rfl : seen = shaper.tokens.value := hup
      by_cases hfull : min (u64Add shaper.tokens.value add) ceiling =
          shaper.tokens.value
      · exact ⟨.write, (shaper, .loadTokens), trivial, by simp [step, hfull],
          by simp [rank]⟩
      · let deposited := { shaper with
          tokens := shaper.tokens.store
            (min (u64Add shaper.tokens.value add) ceiling) }
        refine ⟨.write, (deposited, .loadTokens), trivial, ?_,
          by simp [rank]⟩
        simp [step, hfull, Cell.exchangeWeak, deposited]
  | loadTokens => exact ⟨.read 0, _, rfl, rfl, by simp [rank]⟩
  | paying seen =>
      obtain rfl : seen = shaper.tokens.value := hup
      by_cases hshort : shaper.tokens.value < u64Mul bytes 1000
      · exact ⟨.write, (shaper, .dropBytes), trivial, by simp [step, hshort],
          by simp [rank]⟩
      · let paid := { shaper with
          tokens := shaper.tokens.store
            (shaper.tokens.value - u64Mul bytes 1000) }
        refine ⟨.write, (paid, .returned true), trivial, ?_,
          by simp [rank]⟩
        simp [step, hshort, Cell.exchangeWeak, paid]
  | dropBytes => exact ⟨.write, _, trivial, rfl, by simp [rank]⟩
  | dropPackets => exact ⟨.write, _, trivial, rfl, by simp [rank]⟩
  | returned admitted => exact absurd rfl hrank

end CheckPhase

/-- A loop that runs alone still knows the newest value. -/
def IsCurrent {α : Type} (cell : Cell α) : Lowering α → Prop
  | .loading => True
  | .testing seen => seen = cell.value
  | .finished => True

/-- A loop that runs alone ends with the smaller of the two values. -/
theorem lowering_alone {target : Nat} {cell next : Cell Nat}
    {loop after : Lowering Nat} {choice : Choice} (hfresh : IsFresh choice)
    (hcurrent : IsCurrent cell loop)
    (hstep : loop.step (· < ·) target cell choice = some (next, after)) :
    (next = cell ∧ after = .testing cell.value) ∨
      (after = .finished ∧ next.value = min cell.value target) := by
  cases loop with
  | loading =>
      cases choice with
      | write => simp [Lowering.step] at hstep
      | read age =>
          simp only [Lowering.step, Option.map_eq_some_iff,
            Prod.mk.injEq] at hstep
          obtain ⟨seen, hload, rfl, rfl⟩ := hstep
          exact Or.inl ⟨rfl, by rw [fresh_load hfresh hload]⟩
  | testing seen =>
      obtain rfl : seen = cell.value := hcurrent
      by_cases hlower : target < cell.value
      · simp only [Lowering.step, hlower, ↓reduceIte, Option.map_eq_some_iff,
          Prod.mk.injEq, Prod.exists] at hstep
        obtain ⟨_, failed, hexchange, rfl, rfl⟩ := hstep
        rcases fresh_exchange hfresh hexchange with ⟨rfl, rfl⟩ | ⟨rfl, rfl⟩
        · exact Or.inr ⟨rfl, (Nat.min_eq_right (Nat.le_of_lt hlower)).symm⟩
        · exact Or.inl ⟨rfl, rfl⟩
      · simp only [Lowering.step, hlower, ↓reduceIte, Option.some.injEq,
          Prod.mk.injEq] at hstep
        obtain ⟨rfl, rfl⟩ := hstep
        exact Or.inr
          ⟨rfl, (Nat.min_eq_left (Nat.le_of_not_lt hlower)).symm⟩
  | finished => simp [Lowering.step] at hstep

namespace RttPhase

/-- What is left of a sample, done in one go. -/
def outcome (rttUs : Nat) (shaper : AtomicShaper) : RttPhase → AdaptiveShaper
  | .lowering _ => shaper.snapshot.updateRtt rttUs
  | .reloadBase => shaper.snapshot.updateRtt rttUs
  | .loadCurrent _ => shaper.snapshot.updateRtt rttUs
  | .storeCurrent rate =>
      { shaper.snapshot with
        currentRate := rate
        rateLimiter := shaper.snapshot.rateLimiter.setRate rate }
  | .storeRate rate =>
      { shaper.snapshot with
        rateLimiter := shaper.snapshot.rateLimiter.setRate rate }
  | .storeBurst rate =>
      AdaptiveShaper.withTokens
        { shaper.snapshot with
          rateLimiter :=
            { shaper.snapshot.rateLimiter with
              bucket :=
                { shaper.snapshot.rateLimiter.bucket with
                  burst := burstFor rate } } }
        (min shaper.tokens.value (u64Mul (burstFor rate) 1000))
  | .clamping ceiling _ =>
      shaper.snapshot.withTokens (min shaper.tokens.value ceiling)
  | .returned => shaper.snapshot

/-- A sample that runs alone still knows the newest values. -/
def UpToDate (rttUs : Nat) (shaper : AtomicShaper) : RttPhase → Prop
  | .lowering loop => loop ≠ .finished ∧ IsCurrent shaper.baseRtt loop
  | .reloadBase => shaper.baseRtt.value ≤ rttUs
  | .loadCurrent qdelay =>
      shaper.baseRtt.value ≤ rttUs ∧ shaper.baseRtt.value ≠ u64Max ∧
        qdelay = rttUs - shaper.baseRtt.value
  | .clamping _ loop => loop ≠ .finished ∧ IsCurrent shaper.tokens loop
  | _ => True

variable {rttUs : Nat} {shaper : AtomicShaper} {choice : Choice}
  {next : AtomicShaper × RttPhase}

/-- The sequential sample, once the base is not above it. -/
theorem updateRtt_eq {shaper : AdaptiveShaper} (hmax : shaper.maxRate ≠ 0)
    (hrtt : rttUs < 2 ^ 64) :
    shaper.updateRtt rttUs =
      let based := { shaper with baseRtt := min shaper.baseRtt rttUs }
      if based.baseRtt = u64Max then based
      else if based.adaptedRate (rttUs - based.baseRtt) = based.currentRate
        then based
      else
        { based with
          currentRate := based.adaptedRate (rttUs - based.baseRtt)
          rateLimiter := based.rateLimiter.setRate
            (based.adaptedRate (rttUs - based.baseRtt)) } := by
  rw [AdaptiveShaper.updateRtt, if_neg hmax, Nat.mod_eq_of_lt hrtt]

theorem updateRtt_of_le {shaper : AdaptiveShaper} (hmax : shaper.maxRate ≠ 0)
    (hrtt : rttUs < 2 ^ 64) (hle : shaper.baseRtt ≤ rttUs) :
    shaper.updateRtt rttUs =
      if shaper.baseRtt = u64Max then shaper
      else if shaper.adaptedRate (rttUs - shaper.baseRtt) = shaper.currentRate
        then shaper
      else
        { shaper with
          currentRate := shaper.adaptedRate (rttUs - shaper.baseRtt)
          rateLimiter := shaper.rateLimiter.setRate
            (shaper.adaptedRate (rttUs - shaper.baseRtt)) } := by
  rw [updateRtt_eq hmax hrtt, Nat.min_eq_left hle]

theorem lowering_step_alone {loop : Lowering Nat}
    (hmax : shaper.maxRate ≠ 0) (hrtt : rttUs < 2 ^ 64)
    (hfresh : IsFresh choice)
    (hup : (RttPhase.lowering loop).UpToDate rttUs shaper)
    (hstep : (RttPhase.lowering loop).step rttUs shaper choice = some next) :
    next.2.UpToDate rttUs next.1 ∧ next.2.outcome rttUs next.1 =
      (RttPhase.lowering loop).outcome rttUs shaper := by
  simp only [step, Option.map_eq_some_iff, Prod.exists] at hstep
  obtain ⟨cell, after, hloop, rfl⟩ := hstep
  rcases lowering_alone hfresh hup.2 hloop with ⟨rfl, rfl⟩ | ⟨rfl, hvalue⟩
  · exact ⟨⟨by simp, rfl⟩, rfl⟩
  · refine ⟨?_, ?_⟩
    · simp only [UpToDate, afterLowering, hvalue]
      exact Nat.min_le_right _ _
    · have hmax' : shaper.snapshot.maxRate ≠ 0 := hmax
      have hsame : min (min shaper.baseRtt.value rttUs) rttUs =
          min shaper.baseRtt.value rttUs := by omega
      simp only [outcome, afterLowering]
      rw [updateRtt_eq hmax' hrtt, updateRtt_eq hmax hrtt]
      simp only [AtomicShaper.snapshot, hvalue, hsame]
      rfl

theorem reloadBase_step_alone (hmax : shaper.maxRate ≠ 0)
    (hrtt : rttUs < 2 ^ 64) (hfresh : IsFresh choice)
    (hup : RttPhase.reloadBase.UpToDate rttUs shaper)
    (hstep : RttPhase.reloadBase.step rttUs shaper choice = some next) :
    next.2.UpToDate rttUs next.1 ∧ next.2.outcome rttUs next.1 =
      RttPhase.reloadBase.outcome rttUs shaper := by
  cases choice with
  | write => simp [step] at hstep
  | read age =>
      simp only [step, Option.map_eq_some_iff] at hstep
      obtain ⟨base, hload, rfl⟩ := hstep
      obtain rfl := fresh_load hfresh hload
      by_cases hnone : shaper.baseRtt.value = u64Max
      · rw [if_pos hnone]
        refine ⟨trivial, ?_⟩
        have hbased : shaper.snapshot.baseRtt ≤ rttUs := hup
        have hupdated := updateRtt_of_le hmax hrtt hbased
        exact (hupdated.trans (if_pos hnone)).symm
      · rw [if_neg hnone]
        exact ⟨⟨hup, hnone, rfl⟩, rfl⟩

theorem loadCurrent_step_alone {qdelay : Nat} (hmax : shaper.maxRate ≠ 0)
    (hrtt : rttUs < 2 ^ 64) (hfresh : IsFresh choice)
    (hup : (RttPhase.loadCurrent qdelay).UpToDate rttUs shaper)
    (hstep : (RttPhase.loadCurrent qdelay).step rttUs shaper choice =
      some next) :
    next.2.UpToDate rttUs next.1 ∧ next.2.outcome rttUs next.1 =
      (RttPhase.loadCurrent qdelay).outcome rttUs shaper := by
  obtain ⟨hle, hsome, rfl⟩ := hup
  cases choice with
  | write => simp [step] at hstep
  | read age =>
      simp only [step, Option.map_eq_some_iff] at hstep
      obtain ⟨current, hload, rfl⟩ := hstep
      obtain rfl := fresh_load hfresh hload
      have hbased : shaper.snapshot.baseRtt ≤ rttUs := hle
      have hupdated := updateRtt_of_le hmax hrtt hbased
      rw [if_neg (show shaper.snapshot.baseRtt ≠ u64Max from hsome)]
        at hupdated
      by_cases hkept : shaper.adaptedRate shaper.currentRate.value
          (rttUs - shaper.baseRtt.value) = shaper.currentRate.value
      · rw [if_pos hkept]
        exact ⟨trivial, (hupdated.trans (if_pos hkept)).symm⟩
      · rw [if_neg hkept]
        exact ⟨trivial, (hupdated.trans (if_neg hkept)).symm⟩

/-- An operation of a sample that runs alone leaves the rest of it to do. -/
theorem step_alone {phase : RttPhase} (hmax : shaper.maxRate ≠ 0)
    (hrtt : rttUs < 2 ^ 64) (hfresh : IsFresh choice)
    (hup : phase.UpToDate rttUs shaper)
    (hstep : phase.step rttUs shaper choice = some next) :
    next.2.UpToDate rttUs next.1 ∧
      next.2.outcome rttUs next.1 = phase.outcome rttUs shaper := by
  cases phase with
  | lowering loop => exact lowering_step_alone hmax hrtt hfresh hup hstep
  | reloadBase => exact reloadBase_step_alone hmax hrtt hfresh hup hstep
  | loadCurrent qdelay =>
      exact loadCurrent_step_alone hmax hrtt hfresh hup hstep
  | storeCurrent rate =>
      cases choice with
      | write =>
          simp only [step, Option.some.injEq] at hstep
          subst hstep
          exact ⟨trivial, rfl⟩
      | read age => simp [step] at hstep
  | storeRate rate =>
      cases choice with
      | write =>
          simp only [step, Option.some.injEq] at hstep
          subst hstep
          exact ⟨trivial, rfl⟩
      | read age => simp [step] at hstep
  | storeBurst rate =>
      cases choice with
      | write =>
          simp only [step, Option.some.injEq] at hstep
          subst hstep
          exact ⟨⟨by simp, trivial⟩, rfl⟩
      | read age => simp [step] at hstep
  | clamping ceiling loop =>
      simp only [step, Option.map_eq_some_iff, Prod.exists] at hstep
      obtain ⟨cell, after, hloop, rfl⟩ := hstep
      rcases lowering_alone hfresh hup.2 hloop with
        ⟨rfl, rfl⟩ | ⟨rfl, hvalue⟩
      · exact ⟨⟨by simp, rfl⟩, rfl⟩
      · refine ⟨trivial, ?_⟩
        simp only [outcome, afterClamping, AtomicShaper.snapshot,
          AdaptiveShaper.withTokens, hvalue]
  | returned => simp [step] at hstep

/-- How far a loop that runs alone is from its end. -/
def loopRank : Lowering Nat → Nat
  | .loading => 2
  | .testing _ => 1
  | .finished => 0

/-- How far a sample that runs alone is from returning. -/
def rank : RttPhase → Nat
  | .lowering loop => 9 + loopRank loop
  | .reloadBase => 8
  | .loadCurrent _ => 7
  | .storeCurrent _ => 6
  | .storeRate _ => 5
  | .storeBurst _ => 4
  | .clamping _ loop => 1 + loopRank loop
  | .returned => 0

end RttPhase

/-- A loop that runs alone is never stuck. -/
theorem lowering_exists_step {cell : Cell Nat} {loop : Lowering Nat}
    (target : Nat) (hloop : loop ≠ .finished)
    (hcurrent : IsCurrent cell loop) :
    ∃ choice next, IsFresh choice ∧
      loop.step (· < ·) target cell choice = some next ∧
      RttPhase.loopRank next.2 < RttPhase.loopRank loop := by
  cases loop with
  | loading => exact ⟨.read 0, _, rfl, rfl, by simp [RttPhase.loopRank]⟩
  | testing seen =>
      obtain rfl : seen = cell.value := hcurrent
      by_cases hlower : target < cell.value
      · exact ⟨.write, (cell.store target, .finished), trivial,
          by simp [Lowering.step, hlower, Cell.exchangeWeak, Lowering.after],
          by simp [RttPhase.loopRank]⟩
      · exact ⟨.write, (cell, .finished), trivial,
          by simp [Lowering.step, hlower], by simp [RttPhase.loopRank]⟩
  | finished => exact absurd rfl hloop

theorem RttPhase.exists_step {rttUs : Nat} {shaper : AtomicShaper}
    {phase : RttPhase} (hup : phase.UpToDate rttUs shaper)
    (hrank : phase.rank ≠ 0) :
    ∃ choice next, IsFresh choice ∧
      phase.step rttUs shaper choice = some next ∧
      next.2.rank < phase.rank := by
  cases phase with
  | lowering loop =>
      obtain ⟨choice, ⟨cell, after⟩, hfresh, hloop, hless⟩ :=
        lowering_exists_step rttUs hup.1 hup.2
      refine ⟨choice, ({ shaper with baseRtt := cell }, afterLowering after),
        hfresh, by simp [step, hloop], ?_⟩
      cases after <;> simp [afterLowering, rank, loopRank] at hless ⊢ <;> omega
  | reloadBase =>
      refine ⟨.read 0, _, rfl, rfl, ?_⟩
      dsimp only
      split <;> simp [rank]
  | loadCurrent qdelay =>
      refine ⟨.read 0, _, rfl, rfl, ?_⟩
      dsimp only
      split <;> simp [rank]
  | storeCurrent rate => exact ⟨.write, _, trivial, rfl, by simp [rank]⟩
  | storeRate rate => exact ⟨.write, _, trivial, rfl, by simp [rank]⟩
  | storeBurst rate =>
      exact ⟨.write, _, trivial, rfl, by simp [rank, loopRank]⟩
  | clamping ceiling loop =>
      obtain ⟨choice, ⟨cell, after⟩, hfresh, hloop, hless⟩ :=
        lowering_exists_step ceiling hup.1 hup.2
      refine ⟨choice,
        ({ shaper with tokens := cell }, afterClamping ceiling after),
        hfresh, by simp [step, hloop], ?_⟩
      cases after <;> simp [afterClamping, rank, loopRank] at hless ⊢ <;> omega
  | returned => exact absurd rfl hrank

/-- A call on the shaper, and nothing else. -/
def aloneStep (now : Nat) (state : AtomicShaper × ShaperThread)
    (choice : Choice) : Option (AtomicShaper × ShaperThread) :=
  state.2.step now state.1 choice

/-- A call that runs alone, on fresh values, from one state to another. -/
def RunsAlone (now : Nat) (start final : AtomicShaper × ShaperThread) : Prop :=
  ∃ choices : List Choice, (∀ choice ∈ choices, IsFresh choice) ∧
    Machine.run (aloneStep now) start choices = some final

/-- How far a call that runs alone is from returning. -/
def ShaperThread.rank : ShaperThread → Nat
  | .check _ phase => phase.rank
  | .updateRtt _ phase => phase.rank

/-- A check in flight, alone, from which `result` will come. -/
inductive CheckAlone (now bytes : Nat) (result : Bool × AdaptiveShaper) :
    AtomicShaper × ShaperThread → Prop
  | mk {shaper : AtomicShaper} {phase : CheckPhase}
      (hup : phase.UpToDate shaper)
      (houtcome : phase.outcome now bytes shaper = result) :
      CheckAlone now bytes result (shaper, .check bytes phase)

/-- A sample in flight, alone, from which `result` will come. -/
inductive RttAlone (rttUs : Nat) (result : AdaptiveShaper) :
    AtomicShaper × ShaperThread → Prop
  | mk {shaper : AtomicShaper} {phase : RttPhase}
      (hmax : shaper.maxRate ≠ 0) (hup : phase.UpToDate rttUs shaper)
      (houtcome : phase.outcome rttUs shaper = result) :
      RttAlone rttUs result (shaper, .updateRtt rttUs phase)

theorem RttPhase.Step.maxRate_eq {rttUs : Nat} {shaper : AtomicShaper}
    {phase : RttPhase} {next : AtomicShaper × RttPhase}
    (hstep : RttPhase.Step rttUs shaper phase next) :
    next.1.maxRate = shaper.maxRate := by
  cases hstep <;> rfl

section Alone

variable {now : Nat} {state next : AtomicShaper × ShaperThread}
  {choice : Choice}

theorem CheckAlone.step {bytes : Nat} {result : Bool × AdaptiveShaper}
    (h : CheckAlone now bytes result state) (hfresh : IsFresh choice)
    (hstep : aloneStep now state choice = some next) :
    CheckAlone now bytes result next := by
  obtain ⟨hup, houtcome⟩ := h
  simp only [aloneStep, ShaperThread.step, Option.map_eq_some_iff,
    Prod.exists] at hstep
  obtain ⟨after, later, hphase, rfl⟩ := hstep
  obtain ⟨hafter, hsame⟩ := CheckPhase.step_alone hfresh hup hphase
  exact ⟨hafter, hsame.trans houtcome⟩

theorem RttAlone.step {rttUs : Nat} {result : AdaptiveShaper}
    (hrtt : rttUs < 2 ^ 64) (h : RttAlone rttUs result state)
    (hfresh : IsFresh choice)
    (hstep : aloneStep now state choice = some next) :
    RttAlone rttUs result next := by
  obtain ⟨hmax, hup, houtcome⟩ := h
  simp only [aloneStep, ShaperThread.step, Option.map_eq_some_iff,
    Prod.exists] at hstep
  obtain ⟨after, later, hphase, rfl⟩ := hstep
  obtain ⟨hafter, hsame⟩ := RttPhase.step_alone hmax hrtt hfresh hup hphase
  have hkept := (RttPhase.step_cases hphase).maxRate_eq
  exact ⟨hkept ▸ hmax, hafter, hsame.trans houtcome⟩

theorem CheckAlone.exists_step {bytes : Nat} {result : Bool × AdaptiveShaper}
    (h : CheckAlone now bytes result state) (hrank : ¬ state.2.rank = 0) :
    ∃ choice next, IsFresh choice ∧ aloneStep now state choice = some next ∧
      CheckAlone now bytes result next ∧ next.2.rank < state.2.rank := by
  obtain ⟨choice, after, hfresh, hphase, hless⟩ : ∃ choice after,
      IsFresh choice ∧ aloneStep now state choice = some after ∧
        after.2.rank < state.2.rank := by
    obtain ⟨hup, houtcome⟩ := h
    obtain ⟨choice, after, hfresh, hphase, hless⟩ :=
      CheckPhase.exists_step now bytes hup hrank
    exact ⟨choice, (after.1, .check bytes after.2), hfresh,
      by simp [aloneStep, ShaperThread.step, hphase], hless⟩
  exact ⟨choice, after, hfresh, hphase, h.step hfresh hphase, hless⟩

theorem RttAlone.exists_step {rttUs : Nat} {result : AdaptiveShaper}
    (hrtt : rttUs < 2 ^ 64) (h : RttAlone rttUs result state)
    (hrank : ¬ state.2.rank = 0) :
    ∃ choice next, IsFresh choice ∧ aloneStep now state choice = some next ∧
      RttAlone rttUs result next ∧ next.2.rank < state.2.rank := by
  obtain ⟨choice, after, hfresh, hphase, hless⟩ : ∃ choice after,
      IsFresh choice ∧ aloneStep now state choice = some after ∧
        after.2.rank < state.2.rank := by
    obtain ⟨hmax, hup, houtcome⟩ := h
    obtain ⟨choice, after, hfresh, hphase, hless⟩ :=
      RttPhase.exists_step hup hrank
    exact ⟨choice, (after.1, .updateRtt rttUs after.2), hfresh,
      by simp [aloneStep, ShaperThread.step, hphase], hless⟩
  exact ⟨choice, after, hfresh, hphase, h.step hrtt hfresh hphase, hless⟩

end Alone

/-- A check that runs alone returns, and as the sequential check does. -/
theorem check_alone (shaper : AtomicShaper) (bytes now : Nat) :
    (∃ final admitted, RunsAlone now (shaper, .startCheck bytes)
      (final, .check bytes (.returned admitted))) ∧
    ∀ final admitted, RunsAlone now (shaper, .startCheck bytes)
        (final, .check bytes (.returned admitted)) →
      (admitted, final.snapshot) = shaper.snapshot.check bytes now := by
  have hstart : CheckAlone now bytes (shaper.snapshot.check bytes now)
      (shaper, .startCheck bytes) := ⟨trivial, rfl⟩
  constructor
  · obtain ⟨choices, final, hfresh, hrun, hfinal, hdone⟩ :=
      Machine.exists_run_of_rank
        (fun state : AtomicShaper × ShaperThread => state.2.rank)
        (fun _ hstate hrank => CheckAlone.exists_step hstate hrank) hstart
    cases hfinal with
    | @mk after phase hup houtcome =>
        cases phase with
        | returned admitted =>
            exact ⟨after, admitted, choices, hfresh, hrun⟩
        | _ => simp [ShaperThread.rank, CheckPhase.rank] at hdone
  · rintro final admitted ⟨choices, hfresh, hrun⟩
    have hfinal := Machine.run_invariant_of_meets
      (fun _ _ _ hstate hchoice hstep => CheckAlone.step hstate hchoice hstep)
      hstart ((Machine.meets_labels_iff hrun).mpr hfresh) hrun
    cases hfinal with
    | mk hup houtcome => exact houtcome

/-- A sample that is taken alone returns, and as the sequential one does. -/
theorem updateRtt_alone (shaper : AtomicShaper) (rtt now : Nat) :
    (∃ final, RunsAlone now (shaper, .startUpdateRtt shaper rtt)
      (final, .updateRtt (rtt % 2 ^ 64) .returned)) ∧
    ∀ final, RunsAlone now (shaper, .startUpdateRtt shaper rtt)
        (final, .updateRtt (rtt % 2 ^ 64) .returned) →
      final.snapshot = shaper.snapshot.updateRtt rtt := by
  have hrtt : rtt % 2 ^ 64 < 2 ^ 64 := Nat.mod_lt _ (by decide)
  by_cases hmax : shaper.maxRate = 0
  · -- without a cap the call returns at once, and no further step is possible
    have hsame : shaper.snapshot.updateRtt rtt = shaper.snapshot :=
      if_pos hmax
    rw [ShaperThread.startUpdateRtt, if_pos hmax, hsame]
    refine ⟨⟨shaper, [], List.forall_mem_nil _, rfl⟩, ?_⟩
    rintro final ⟨choices, hfresh, hrun⟩
    cases choices with
    | nil =>
        simp only [Machine.run_nil, Option.some.injEq, Prod.mk.injEq,
          and_true] at hrun
        rw [hrun]
    | cons choice rest =>
        simp [Machine.run_cons, aloneStep, ShaperThread.step,
          RttPhase.step] at hrun
  · have hsame : shaper.snapshot.updateRtt (rtt % 2 ^ 64) =
        shaper.snapshot.updateRtt rtt := by
      simp [AdaptiveShaper.updateRtt]
    have hstart : RttAlone (rtt % 2 ^ 64) (shaper.snapshot.updateRtt rtt)
        (shaper, .startUpdateRtt shaper rtt) := by
      rw [ShaperThread.startUpdateRtt, if_neg hmax]
      exact ⟨hmax, ⟨by simp, trivial⟩, hsame⟩
    constructor
    · obtain ⟨choices, final, hfresh, hrun, hfinal, hdone⟩ :=
        Machine.exists_run_of_rank
          (fun state : AtomicShaper × ShaperThread => state.2.rank)
          (fun _ hstate hrank => RttAlone.exists_step hrtt hstate hrank)
          hstart
      cases hfinal with
      | @mk after phase _ hup houtcome =>
          cases phase with
          | returned => exact ⟨after, choices, hfresh, hrun⟩
          | _ => simp [ShaperThread.rank, RttPhase.rank] at hdone
    · rintro final ⟨choices, hfresh, hrun⟩
      have hfinal := Machine.run_invariant_of_meets
        (fun _ _ _ hstate hchoice hstep =>
          RttAlone.step hrtt hstate hchoice hstep)
        hstart ((Machine.meets_labels_iff hrun).mpr hfresh) hrun
      cases hfinal with
      | mk _ hup houtcome => exact houtcome

end Redpill
