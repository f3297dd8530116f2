/-
What holds of the adaptive shaper after any calls (`shaper.rs`): its rate lies
between the minimum and the cap, the bucket runs at that rate, the base is the
smallest RTT seen, every sample moves the rate in the direction of its queuing
delay, and a bucket that is left alone for 100 ms is full again.
-/
import Redpill.ShaperArithmetic

namespace Redpill

/-- The RTT samples among the calls. -/
def rttsSeen (calls : List (Nat × ShaperCall)) : List Nat :=
  calls.filterMap fun call =>
    match call.2 with
    | .check _ => none
    | .updateRtt rtt => some rtt

/-- The time of the last check, `last` if there is none. -/
def lastCheck (last : Nat) : List (Nat × ShaperCall) → Nat
  | [] => last
  | (now, .check _) :: rest => lastCheck now rest
  | (_, .updateRtt _) :: rest => lastCheck last rest

namespace AdaptiveShaper

variable {M : Nat} {shaper : AdaptiveShaper}

/-- The bucket runs at the rate of the shaper, and as long as there is no base
RTT that rate is the cap. -/
structure Tuned (M : Nat) (shaper : AdaptiveShaper) : Prop where
  within : shaper.Within M
  rate : shaper.rateLimiter.bucket.rate = shaper.currentRate
  burst : shaper.rateLimiter.bucket.burst = shaper.currentRate / 10
  baseRtt_le : shaper.baseRtt ≤ u64Max
  atCap : shaper.baseRtt = u64Max → shaper.currentRate = M

theorem tuned_new {mbps : Nat} (hpos : 1 ≤ mbps)
    (hfits : mbps * 1000000 < 2 ^ 64) : (new mbps).Tuned (capOf mbps) := by
  have hrate : u64Mul mbps 1000000 / 8 = capOf mbps := by
    rw [AdaptiveShaper.capOf, if_pos (show 0 < mbps from hpos)]
  have hcap := capOf_eq hpos hfits
  have hcap_pos : 0 < capOf mbps := by omega
  refine ⟨new_within hpos hfits, hrate, ?_, Nat.le_refl _, fun _ => rfl⟩
  simp only [new, RateLimiter.new, TokenBucket.new, hrate, hcap_pos, if_true]

/-- A check keeps rate and burst of the bucket. -/
theorem Tuned.check (h : shaper.Tuned M) (bytes now : Nat) :
    (shaper.check bytes now).2.Tuned M := by
  have hbucket := shaper.check_bucket bytes now
  obtain ⟨cost, hcost⟩ :=
    TokenBucket.check_snd h.within.bucket.limited bytes now
  rw [hcost] at hbucket
  have hrefilled := h.within.bucket.refill now
  have hkept := shaper.rateLimiter.bucket.refill_kept now
  refine ⟨⟨h.within.maxRate, h.within.minRate, h.within.minRate_le,
    h.within.le_maxRate, ?_⟩, ?_, ?_, h.baseRtt_le, h.atCap⟩
  · rw [hbucket]
    exact hrefilled.spend
  · rw [hbucket]
    exact hkept.1.trans h.rate
  · rw [hbucket]
    exact hkept.2.trans h.burst

/-- What a sample does: it lowers the base to itself, and unless there is still
no base, shaper and bucket go to the adapted rate. -/
theorem updateRtt_cases (hmax : shaper.maxRate ≠ 0) (rtt : Nat) :
    (shaper.updateRtt rtt).baseRtt = min shaper.baseRtt (rtt % 2 ^ 64) ∧
      ((min shaper.baseRtt (rtt % 2 ^ 64) = u64Max ∧
          shaper.updateRtt rtt =
            { shaper with baseRtt := min shaper.baseRtt (rtt % 2 ^ 64) }) ∨
        (min shaper.baseRtt (rtt % 2 ^ 64) ≠ u64Max ∧
          (shaper.updateRtt rtt).currentRate = shaper.adaptedRate
            (rtt % 2 ^ 64 - min shaper.baseRtt (rtt % 2 ^ 64)) ∧
          ((shaper.updateRtt rtt).currentRate = shaper.currentRate ∧
              (shaper.updateRtt rtt).rateLimiter = shaper.rateLimiter ∨
            (shaper.updateRtt rtt).rateLimiter =
              shaper.rateLimiter.setRate
                (shaper.updateRtt rtt).currentRate))) := by
  unfold updateRtt
  rw [if_neg hmax]
  simp only
  split
  · rename_i hnone
    exact ⟨rfl, Or.inl ⟨hnone, rfl⟩⟩
  · rename_i hbase
    split
    · rename_i hsame
      exact ⟨rfl, Or.inr ⟨hbase, hsame.symm, Or.inl ⟨rfl, rfl⟩⟩⟩
    · exact ⟨rfl, Or.inr ⟨hbase, rfl, Or.inr rfl⟩⟩

theorem Tuned.maxRate_ne (h : shaper.Tuned M) : shaper.maxRate ≠ 0 := by
  have hmax := h.within.maxRate
  have hlow := h.within.minRate_le
  have hhigh := h.within.le_maxRate
  omega

theorem Tuned.updateRtt (h : shaper.Tuned M) (hM : M < 2 ^ 63) (rtt : Nat) :
    (shaper.updateRtt rtt).Tuned M := by
  have hwithin := (h.within.updateRtt hM rtt).1
  obtain ⟨hbase, hcases⟩ := updateRtt_cases h.maxRate_ne rtt
  have hle : (shaper.updateRtt rtt).baseRtt ≤ shaper.baseRtt := by
    rw [hbase]
    exact Nat.min_le_left _ _
  have hbase_le := Nat.le_trans hle h.baseRtt_le
  rcases hcases with ⟨_, hsame⟩ | ⟨hsampled, _, hrate⟩
  · refine ⟨hwithin, ?_, ?_, hbase_le, ?_⟩
    · rw [hsame]
      exact h.rate
    · rw [hsame]
      exact h.burst
    · intro hnone
      rw [hsame]
      exact h.atCap (Nat.le_antisymm h.baseRtt_le (hnone ▸ hle))
  · refine ⟨hwithin, ?_, ?_, hbase_le, ?_⟩
    · rcases hrate with ⟨hcurrent, hlimiter⟩ | hlimiter
      · rw [hlimiter, hcurrent]
        exact h.rate
      · rw [hlimiter]
        rfl
    · rcases hrate with ⟨hcurrent, hlimiter⟩ | hlimiter
      · rw [hlimiter, hcurrent]
        exact h.burst
      · have hpos : 0 < (shaper.updateRtt rtt).currentRate := by
          have hlow := hwithin.minRate_le
          omega
        rw [hlimiter]
        simp only [RateLimiter.setRate, TokenBucket.setRate, hpos, if_true]
    · intro hnone
      rw [hbase] at hnone
      exact absurd hnone hsampled

/-- Every sample moves the rate in the direction of its queuing delay, and only
the cap and the minimum stop it. -/
def Adapts (shaper : AdaptiveShaper) (rtt : Nat) : Prop :=
  let delay := rtt - min shaper.baseRtt rtt
  let next := (shaper.updateRtt rtt).currentRate
  (delay < 5000 →
    shaper.currentRate < next ∨
      shaper.currentRate = shaper.maxRate ∧ next = shaper.maxRate) ∧
  (25000 < delay →
    next < shaper.currentRate ∨
      shaper.currentRate = 125000 ∧ next = 125000) ∧
  (5000 ≤ delay ∧ delay ≤ 25000 → next = shaper.currentRate)

theorem Tuned.adapts (h : shaper.Tuned M) (hM : M < 2 ^ 63) {rtt : Nat}
    (hrtt : rtt < 2 ^ 64) : shaper.Adapts rtt := by
  have hlow := h.within.minRate_le
  have hhigh := h.within.le_maxRate
  have hmax := h.within.maxRate
  have hcases := (updateRtt_cases h.maxRate_ne rtt).2
  rw [Nat.mod_eq_of_lt hrtt] at hcases
  unfold Adapts
  simp only
  rcases hcases with ⟨hnone, hsame⟩ | ⟨_, hrate, _⟩
  · -- no base yet: the delay is zero and the rate is still the cap
    have hbase := h.baseRtt_le
    have hcap := h.atCap (by omega)
    have hnext : (shaper.updateRtt rtt).currentRate = shaper.currentRate := by
      rw [hsame]
    simp only [u64Max] at hnone hbase
    omega
  · have hsum : u64Add shaper.currentRate (shaper.currentRate / 20) =
        shaper.currentRate + shaper.currentRate / 20 :=
      Nat.mod_eq_of_lt (by omega)
    simp only [adaptedRate, qdelayLow, qdelayHigh, h.within.minRate, hmax,
      hsum] at hrate
    rw [hrate, hmax]
    refine ⟨?_, ?_, ?_⟩
    · intro hdelay
      rw [if_pos hdelay]
      omega
    · intro hdelay
      rw [if_neg (by omega), if_pos hdelay]
      omega
    · intro hdelay
      rw [if_neg (by omega), if_neg (by omega)]

end AdaptiveShaper

/-- Whatever the checked reading of a refill after 100 ms computes, it is a
full bucket. -/
theorem Arith.refill_full {bucket refilled : TokenBucket} {now : Nat}
    (hburst : bucket.burst = bucket.rate / 10)
    (hidle : bucket.lastRefill + 100000 ≤ now)
    (hrefill : Arith.checked.refill bucket now = some refilled) :
    refilled.tokens = bucket.burst * 1000 := by
  rw [Arith.refill, if_neg (by omega)] at hrefill
  obtain ⟨product, hproduct, hrefill⟩ := Option.bind_eq_some_iff.mp hrefill
  obtain ⟨ceiling, hceiling, hrefill⟩ := Option.bind_eq_some_iff.mp hrefill
  obtain ⟨sum, hsum, hrefill⟩ := Option.bind_eq_some_iff.mp hrefill
  simp only [Arith.checked, Option.ite_none_right_eq_some,
    Option.some.injEq] at hproduct hceiling hsum
  obtain rfl := Option.some.inj hrefill
  have hcredit : bucket.rate * 100000 ≤ product := by
    rw [← hproduct.2]
    exact Nat.mul_le_mul_left _ (by omega)
  simp only
  omega

/-- After 100 ms without a refill, any packet up to one burst is admitted. -/
theorem AdaptiveShaper.Tuned.recovers {M bytes now : Nat}
    {shaper : AdaptiveShaper} (h : shaper.Tuned M)
    (hidle : shaper.rateLimiter.bucket.lastRefill + 100000 ≤ now)
    (hfits : (Arith.checked.checkShaper shaper bytes now).isSome = true)
    (hbytes : bytes ≤ shaper.currentRate / 10) :
    (shaper.check bytes now).1 = true := by
  obtain ⟨result, hresult⟩ := Option.isSome_iff_exists.mp hfits
  have hcode := Arith.checked_refines_wrapping.checkShaper shaper bytes now
    result hresult
  rw [Arith.checkShaper_wrapping, Option.some.injEq] at hcode
  rw [hcode]
  have hlimited := h.within.bucket.limited
  obtain ⟨limited, hlimiter, hshaper⟩ := Option.bind_eq_some_iff.mp hresult
  obtain ⟨checked, hchecked, hlimited'⟩ :=
    Option.bind_eq_some_iff.mp hlimiter
  rw [Arith.checkBucket, if_neg (Nat.ne_of_gt hlimited)] at hchecked
  obtain ⟨refilled, hrefill, hchecked⟩ := Option.bind_eq_some_iff.mp hchecked
  obtain ⟨cost, hcost, hchecked⟩ := Option.bind_eq_some_iff.mp hchecked
  have hfull := Arith.refill_full (h.burst.trans (by rw [h.rate])) hidle hrefill
  simp only [Arith.checked, Option.ite_none_right_eq_some,
    Option.some.injEq] at hcost
  have hburst := h.burst
  rw [if_neg (by omega)] at hchecked
  obtain rfl := Option.some.inj hchecked
  obtain rfl := Option.some.inj hlimited'
  obtain rfl := Option.some.inj hshaper
  rfl

/-- The shaper at clock `now`, when `base` is the smallest RTT and `last` the
time of the last check.  The last refill is at most 100 μs older than that
check. -/
structure ShaperRun.Kept (M base last now : Nat) (run : ShaperRun) : Prop where
  tuned : run.shaper.Tuned M
  baseRtt : run.shaper.baseRtt = base
  past : run.shaper.rateLimiter.bucket.lastRefill ≤ last
  recent : last < run.shaper.rateLimiter.bucket.lastRefill + 100
  last_le : last ≤ now

theorem ShaperRun.kept_start {mbps : Nat} (hpos : 1 ≤ mbps)
    (hfits : mbps * 1000000 < 2 ^ 64) :
    (ShaperRun.start mbps).Kept (AdaptiveShaper.capOf mbps) u64Max 0 0 :=
  ⟨AdaptiveShaper.tuned_new hpos hfits, rfl, Nat.le_refl 0,
    (by decide : 0 < 0 + 100), Nat.le_refl 0⟩

theorem ShaperRun.Kept.check {M base last before now : Nat} {run : ShaperRun}
    (h : run.Kept M base last before) (hclock : before ≤ now) (bytes : Nat) :
    (run.step now (.check bytes)).Kept M base now now := by
  obtain ⟨cost, hcost⟩ :=
    TokenBucket.check_snd h.tuned.within.bucket.limited bytes now
  have hbucket : (run.step now (.check bytes)).shaper.rateLimiter.bucket =
      { run.shaper.rateLimiter.bucket.refill now with
        tokens :=
          (run.shaper.rateLimiter.bucket.refill now).tokens - cost } := by
    rw [← hcost]
    exact run.shaper.check_bucket bytes now
  have hpast := h.past
  have hlast := h.last_le
  refine ⟨h.tuned.check bytes now, h.baseRtt, ?_, ?_, Nat.le_refl _⟩
  · rw [hbucket]
    exact refill_lastRefill_le (by omega)
  · rw [hbucket]
    exact (refill_recent h.tuned.within.bucket (Nat.le_refl now)).1

theorem ShaperRun.Kept.updateRtt {M base last before now : Nat}
    {run : ShaperRun} (h : run.Kept M base last before) (hM : M < 2 ^ 63)
    (hclock : before ≤ now) (rtt : Nat) :
    (run.step now (.updateRtt rtt)).Kept M (min base (rtt % 2 ^ 64)) last
      now := by
  have hrefill := (h.tuned.within.updateRtt hM rtt).2.1
  have hbase := (AdaptiveShaper.updateRtt_cases h.tuned.maxRate_ne rtt).1
  rw [h.baseRtt] at hbase
  refine ⟨h.tuned.updateRtt hM rtt, hbase, ?_, ?_,
    Nat.le_trans h.last_le hclock⟩
  · rw [ShaperRun.step, hrefill]
    exact h.past
  · rw [ShaperRun.step, hrefill]
    exact h.recent

theorem ShaperRun.Kept.runAll {M base last now : Nat} {run : ShaperRun}
    (h : run.Kept M base last now) (hM : M < 2 ^ 63)
    {calls : List (Nat × ShaperCall)} (hclock : ClockFrom now calls)
    (hrtts : ∀ rtt ∈ rttsSeen calls, rtt < 2 ^ 64) :
    ∃ final, (run.runAll calls).Kept M ((rttsSeen calls).foldl min base)
      (lastCheck last calls) final := by
  induction calls generalizing run base last now with
  | nil => exact ⟨now, h⟩
  | cons head rest ih =>
      obtain ⟨time, call⟩ := head
      cases call with
      | check bytes => exact ih (h.check hclock.1 bytes) hclock.2 hrtts
      | updateRtt rtt =>
          have hseen : rttsSeen ((time, .updateRtt rtt) :: rest) =
              rtt :: rttsSeen rest := rfl
          rw [hseen, List.forall_mem_cons] at hrtts
          have hstep := h.updateRtt hM hclock.1 rtt
          rw [Nat.mod_eq_of_lt hrtts.1] at hstep
          rw [hseen, List.foldl_cons]
          exact ih hstep hclock.2 hrtts.2

theorem foldl_min_u64Max {rtts : List Nat}
    (hrtts : ∀ rtt ∈ rtts, rtt < 2 ^ 64) :
    rtts.foldl min u64Max = rtts.min?.getD u64Max := by
  cases rtts with
  | nil => rfl
  | cons rtt rest =>
      have hrtt := hrtts rtt List.mem_cons_self
      have hmin : min u64Max rtt = rtt := by
        simp only [u64Max]
        omega
      rw [List.foldl_cons, hmin, List.min?_cons', Option.getD_some]

/-- The shaper after any calls on a cap that fits.  The samples are in
microseconds and fit a u64, and a check meets no overflow where its checked
reading gives a result. -/
theorem adaptive_shaper_invariant {mbps : Nat} (hpos : 1 ≤ mbps)
    (hfits : mbps * 1000000 < 2 ^ 64) {calls : List (Nat × ShaperCall)}
    (hclock : ClockFrom 0 calls)
    (hrtts : ∀ rtt ∈ rttsSeen calls, rtt < 2 ^ 64)
    {shaper : AdaptiveShaper}
    (hshaper : ((ShaperRun.start mbps).runAll calls).shaper = shaper) :
    shaper.maxRate = mbps * 125000 ∧
      125000 ≤ shaper.currentRate ∧ shaper.currentRate ≤ shaper.maxRate ∧
      shaper.rateLimiter.bucket.rate = shaper.currentRate ∧
      shaper.rateLimiter.bucket.burst = shaper.currentRate / 10 ∧
      shaper.rateLimiter.bucket.tokens ≤
        1000 * shaper.rateLimiter.bucket.burst ∧
      shaper.baseRtt = (rttsSeen calls).min?.getD u64Max ∧
      (∀ rtt < 2 ^ 64, shaper.Adapts rtt) ∧
      ∀ bytes ≤ shaper.currentRate / 10, ∀ now,
        lastCheck 0 calls + 100000 ≤ now →
        (Arith.checked.checkShaper shaper bytes now).isSome = true →
        (shaper.check bytes now).1 = true := by
  have hcap := AdaptiveShaper.capOf_eq hpos hfits
  have hM : AdaptiveShaper.capOf mbps < 2 ^ 63 := by omega
  obtain ⟨final, hkept⟩ :=
    (ShaperRun.kept_start hpos hfits).runAll hM hclock hrtts
  subst hshaper
  have htuned := hkept.tuned
  have hmax := htuned.within.maxRate
  have htokens := htuned.within.bucket.tokens_le
  refine ⟨hmax.trans hcap, htuned.within.minRate_le, ?_, htuned.rate,
    htuned.burst, ?_, ?_, ?_, ?_⟩
  · rw [hmax]
    exact htuned.within.le_maxRate
  · omega
  · rw [hkept.baseRtt, foldl_min_u64Max hrtts]
  · intro rtt hrtt
    exact htuned.adapts hM hrtt
  · intro bytes hbytes now hidle hexact
    have hpast := hkept.past
    exact htuned.recovers (by omega) hexact hbytes

/-- A cap of 10 Mbps: two slow samples bring the rate to 1012500 bytes per
second, and 100 ms after the check a packet of 65535 bytes passes. -/
theorem adaptive_shaper_invariant_slowed :
    (((ShaperRun.start 10).runAll [(0, .updateRtt 1000),
      (100, .updateRtt 40000), (200, .check 65535),
      (300, .updateRtt 50000)]).shaper.check 65535 100200).1 = true := by
  have hclock : ClockFrom 0 [(0, .updateRtt 1000), (100, .updateRtt 40000),
      (200, .check 65535), (300, .updateRtt 50000)] := by decide
  have hinvariant := adaptive_shaper_invariant (show 1 ≤ 10 by decide)
    (by decide) hclock (by decide) rfl
  obtain ⟨_, _, _, _, _, _, _, _, hrecovers⟩ := hinvariant
  exact hrecovers 65535 (by decide) 100200 (by decide) (by decide)

end Redpill
