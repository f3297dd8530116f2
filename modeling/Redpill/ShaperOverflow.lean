/-
How large the u64 arithmetic of the shaper gets (`shaper.rs`), for a configured
cap and a longest idle gap between two packets.  The largest product is the one
of the refill after that gap; nothing in the configuration keeps it below 2^64.
-/
import Redpill.Config
import Redpill.ShaperInvariant

namespace Redpill

/-- Packets of at most 65535 bytes, each at most `gap` after the one before.
The first comes at most that long after `last`. -/
def Spaced (gap : Nat) : Nat → List (Nat × ShaperCall) → Prop
  | _, [] => True
  | last, (now, .check bytes) :: rest =>
      bytes ≤ 65535 ∧ now ≤ last + gap ∧ Spaced gap now rest
  | last, (_, .updateRtt _) :: rest => Spaced gap last rest

instance decidableSpaced (gap : Nat) :
    ∀ (last : Nat) (calls : List (Nat × ShaperCall)),
      Decidable (Spaced gap last calls)
  | _, [] => inferInstanceAs (Decidable True)
  | last, (now, .check bytes) :: rest =>
      have := decidableSpaced gap now rest
      inferInstanceAs (Decidable (bytes ≤ 65535 ∧ now ≤ last + gap ∧
        Spaced gap now rest))
  | last, (_, .updateRtt _) :: rest => decidableSpaced gap last rest

/-- No sum or product of the run overflows, and the code computes what exact
arithmetic does. -/
def ExactRun (mbps : Nat) (calls : List (Nat × ShaperCall)) : Prop :=
  ∃ shaper, Arith.checked.run mbps calls = some shaper ∧
    Arith.exact.run mbps calls = some shaper ∧
    ((ShaperRun.start mbps).runAll calls).shaper = shaper

/-- Every run with gaps up to `gap` is exact. -/
def ExactUpTo (mbps gap : Nat) : Prop :=
  ∀ calls, ClockFrom 0 calls → Spaced gap 0 calls → ExactRun mbps calls

/-- 30 days in microseconds. -/
def thirtyDays : Nat := 30 * 24 * 3600 * 1000000

theorem exactRun_iff {mbps : Nat} {calls : List (Nat × ShaperCall)} :
    ExactRun mbps calls ↔ (Arith.checked.run mbps calls).isSome = true := by
  constructor
  · rintro ⟨shaper, hrun, _⟩
    rw [hrun]
    rfl
  · intro hrun
    obtain ⟨shaper, hshaper⟩ := Option.isSome_iff_exists.mp hrun
    obtain ⟨hcode, hexact⟩ := Arith.run_of_checked hshaper
    exact ⟨shaper, hshaper, hexact, hcode⟩

theorem fits_of_full {mbps : Nat} (hfull : mbps * 12500000 < 2 ^ 64) :
    mbps * 1000000 < 2 ^ 64 :=
  Nat.lt_of_le_of_lt (Nat.mul_le_mul_left mbps (by decide)) hfull

namespace Arith

theorem checked_mul {a b : Nat} (hlt : a * b < 2 ^ 64) :
    checked.mul a b = some (a * b) :=
  if_pos hlt

theorem checked_mul_none {a b : Nat} (hle : ¬ a * b < 2 ^ 64) :
    checked.mul a b = none :=
  if_neg hle

theorem checked_mul_isSome_iff {a b : Nat} :
    (checked.mul a b).isSome = true ↔ a * b < 2 ^ 64 := by
  by_cases hlt : a * b < 2 ^ 64
  · rw [checked_mul hlt]
    exact iff_of_true rfl hlt
  · rw [checked_mul_none hlt]
    exact iff_of_false Bool.false_ne_true hlt

theorem checked_add {a b : Nat} (hlt : a + b < 2 ^ 64) :
    checked.add a b = some (a + b) :=
  if_pos hlt

theorem refill_isSome {bucket : TokenBucket} {now : Nat}
    (hproduct : bucket.rate * (now - bucket.lastRefill) < 2 ^ 64)
    (hceiling : bucket.burst * 1000 < 2 ^ 64)
    (hsum : bucket.tokens +
      bucket.rate * (now - bucket.lastRefill) / 1000 < 2 ^ 64) :
    (checked.refill bucket now).isSome = true := by
  unfold refill
  simp only [checked_mul hproduct, checked_mul hceiling, Option.bind_some,
    checked_add hsum]
  split
  · rfl
  · rfl

theorem checkShaper_isSome {shaper : AdaptiveShaper} {bytes now : Nat}
    (hbytes : bytes ≤ 65535)
    (hrefill : (checked.refill shaper.rateLimiter.bucket now).isSome = true) :
    (checked.checkShaper shaper bytes now).isSome = true := by
  obtain ⟨refilled, hrefilled⟩ := Option.isSome_iff_exists.mp hrefill
  have hcost : bytes * 1000 < 2 ^ 64 := by omega
  unfold checkShaper checkLimiter checkBucket
  rw [hrefilled, Option.bind_some, checked_mul hcost]
  split
  · rfl
  · rfl

/-- A sample overflows nothing as long as a full bucket at the cap does not. -/
theorem updateRtt_isSome {M : Nat} {shaper : AdaptiveShaper}
    (h : shaper.Tuned M) (hM : M / 10 * 1000 < 2 ^ 64) (rtt : Nat) :
    (checked.updateRtt shaper rtt).isSome = true := by
  have hhigh := h.within.le_maxRate
  have hmax := h.within.maxRate
  have hmin := h.within.minRate
  have hlow := h.within.minRate_le
  have hadapted : ∀ base qdelay, ∃ newRate ≤ M,
      checked.adaptedRate { shaper with baseRtt := base } qdelay =
        some newRate := by
    intro base qdelay
    have hsum : shaper.currentRate + shaper.currentRate / 20 < 2 ^ 64 := by
      omega
    unfold adaptedRate
    simp only [checked_add hsum, Option.bind_some]
    split
    · exact ⟨_, by omega, rfl⟩
    · split
      · exact ⟨_, by omega, rfl⟩
      · exact ⟨_, hhigh, rfl⟩
  unfold updateRtt
  split
  · rfl
  · simp only
    split
    · rfl
    · obtain ⟨newRate, hle, hnew⟩ := hadapted
        (min shaper.baseRtt (rtt % 2 ^ 64))
        (rtt % 2 ^ 64 - min shaper.baseRtt (rtt % 2 ^ 64))
      rw [hnew, Option.bind_some]
      split
      · rfl
      · have hburst : (if 0 < newRate then newRate / 10 else 0) ≤ M / 10 := by
          split
          · exact Nat.div_le_div_right hle
          · exact Nat.zero_le _
        have hceiling := Nat.lt_of_le_of_lt
          (Nat.mul_le_mul_right 1000 hburst) hM
        simp only [setRate, checked_mul hceiling, Option.bind_some,
          Option.isSome_some]

/-- A refill at most `gap` after the last check reaches back to at most 99 μs
before that check. -/
theorem refill_isSome_of_kept {M base last before gap now : Nat}
    {run : ShaperRun} (h : run.Kept M base last before)
    (hproduct : M * (gap + 99) < 2 ^ 64)
    (hsum : M / 10 * 1000 + M * (gap + 99) / 1000 < 2 ^ 64)
    (hgap : now ≤ last + gap) :
    (checked.refill run.shaper.rateLimiter.bucket now).isSome = true := by
  have hbucket := h.tuned.within.bucket
  have hrecent := h.recent
  have helapsed : run.shaper.rateLimiter.bucket.rate *
      (now - run.shaper.rateLimiter.bucket.lastRefill) ≤ M * (gap + 99) := by
    apply Nat.mul_le_mul hbucket.rate_le
    clear hproduct hsum
    omega
  have hburst := Nat.mul_le_mul_right 1000 hbucket.burst_le
  have htokens := Nat.le_trans hbucket.tokens_le hburst
  apply refill_isSome
  · exact Nat.lt_of_le_of_lt helapsed hproduct
  · exact Nat.lt_of_le_of_lt hburst
      (Nat.lt_of_le_of_lt (Nat.le_add_right _ _) hsum)
  · exact Nat.lt_of_le_of_lt
      (Nat.add_le_add htokens (Nat.div_le_div_right helapsed)) hsum

theorem callAll_isSome {M base last now gap : Nat} {run : ShaperRun}
    (h : run.Kept M base last now) (hproduct : M * (gap + 99) < 2 ^ 64)
    (hsum : M / 10 * 1000 + M * (gap + 99) / 1000 < 2 ^ 64)
    {calls : List (Nat × ShaperCall)} (hclock : ClockFrom now calls)
    (hspaced : Spaced gap last calls) :
    (checked.callAll run.shaper calls).isSome = true := by
  have hfull : M / 10 * 1000 < 2 ^ 64 :=
    Nat.lt_of_le_of_lt (Nat.le_add_right _ _) hsum
  have hM : M < 2 ^ 63 := by
    clear hsum
    omega
  induction calls generalizing run base last now with
  | nil => rfl
  | cons head rest ih =>
      obtain ⟨time, call⟩ := head
      cases call with
      | check bytes =>
          obtain ⟨hbytes, hgap, hrest⟩ := hspaced
          have hrefill := refill_isSome_of_kept h hproduct hsum hgap
          have hcall : (checked.call run.shaper time (.check bytes)).isSome =
              true := by
            obtain ⟨result, hresult⟩ :=
              Option.isSome_iff_exists.mp (checkShaper_isSome hbytes hrefill)
            rw [Arith.call, hresult]
            rfl
          rw [callAll, call_of_checked hcall, Option.bind_some]
          exact ih (h.check hclock.1 bytes) hclock.2 hrest
      | updateRtt rtt =>
          have hcall : (checked.call run.shaper time (.updateRtt rtt)).isSome =
              true := updateRtt_isSome h.tuned hfull rtt
          rw [callAll, call_of_checked hcall, Option.bind_some]
          exact ih (h.updateRtt hM hclock.1 rtt) hclock.2 hspaced

/-- Without a cap nothing is computed. -/
theorem callAll_unlimited {shaper : AdaptiveShaper}
    (hmax : shaper.maxRate = 0) (hrate : shaper.rateLimiter.bucket.rate = 0)
    (calls : List (Nat × ShaperCall)) :
    checked.callAll shaper calls = some shaper := by
  induction calls with
  | nil => rfl
  | cons head rest ih =>
      obtain ⟨time, call⟩ := head
      cases call with
      | check bytes =>
          simp [callAll, Arith.call, checkShaper, checkLimiter, checkBucket,
            hrate, ih]
      | updateRtt rtt => simp [callAll, Arith.call, updateRtt, hmax, ih]

theorem bits_to_bytes (mbps : Nat) : mbps * 1000000 / 8 = mbps * 125000 := by
  omega

theorem capOf_checked {mbps : Nat} (hpos : 0 < mbps)
    (hfits : mbps * 1000000 < 2 ^ 64) :
    checked.capOf mbps = some (mbps * 125000) := by
  rw [capOf, if_pos hpos, checked_mul hfits, Option.bind_some, bits_to_bytes]

theorem newLimiter_isSome {mbps : Nat} (hpos : 0 < mbps)
    (hfits : mbps * 1000000 < 2 ^ 64) :
    (checked.newLimiter mbps).isSome =
      (checked.mul (mbps * 12500) 1000).isSome := by
  have hburst : (if 0 < mbps * 1000000 / 8 then mbps * 1000000 / 8 / 10
      else 0) = mbps * 12500 := by
    rw [bits_to_bytes, if_pos (by omega)]
    omega
  rw [newLimiter, checked_mul hfits, Option.bind_some]
  dsimp only
  rw [hburst, newBucket]
  cases checked.mul (mbps * 12500) 1000 with
  | none => rfl
  | some tokens => rfl

/-- The checked reading makes a shaper exactly if the rate and a full bucket
fit. -/
theorem newShaper_isSome_iff {mbps : Nat} (hpos : 1 ≤ mbps) :
    (checked.newShaper mbps).isSome = true ↔ mbps * 12500000 < 2 ^ 64 := by
  by_cases hfits : mbps * 1000000 < 2 ^ 64
  · have hmade : (checked.newShaper mbps).isSome =
        (checked.newLimiter mbps).isSome := by
      rw [newShaper, capOf_checked hpos hfits, Option.bind_some]
      cases checked.newLimiter mbps with
      | none => rfl
      | some limiter => rfl
    have hfull : mbps * 12500 * 1000 = mbps * 12500000 := by omega
    rw [hmade, newLimiter_isSome hpos hfits, ← hfull]
    exact checked_mul_isSome_iff
  · have hnone : checked.newShaper mbps = none := by
      rw [newShaper, capOf, if_pos (show 0 < mbps from hpos),
        checked_mul_none hfits, Option.bind_none, Option.bind_none]
    rw [hnone]
    exact iff_of_false Bool.false_ne_true fun hfull =>
      hfits (fits_of_full hfull)

/-- The checked reading of a refill says that its product and its sum fit. -/
theorem of_refill_isSome {bucket : TokenBucket} {now : Nat}
    (hrefill : (checked.refill bucket now).isSome = true)
    (hlate : bucket.lastRefill + 100 ≤ now) :
    bucket.rate * (now - bucket.lastRefill) < 2 ^ 64 ∧
      bucket.tokens +
        bucket.rate * (now - bucket.lastRefill) / 1000 < 2 ^ 64 := by
  obtain ⟨refilled, hrefilled⟩ := Option.isSome_iff_exists.mp hrefill
  rw [refill, if_neg (by omega)] at hrefilled
  obtain ⟨product, hproduct, hrest⟩ := Option.bind_eq_some_iff.mp hrefilled
  obtain ⟨ceiling, hceiling, hrest⟩ := Option.bind_eq_some_iff.mp hrest
  obtain ⟨sum, hsum, _⟩ := Option.bind_eq_some_iff.mp hrest
  simp only [checked, Option.ite_none_right_eq_some,
    Option.some.injEq] at hproduct hsum
  obtain ⟨hproduct, rfl⟩ := hproduct
  exact ⟨hproduct, hsum.1⟩

end Arith

/-- Empty packets, one every microsecond, which come too soon for a refill. -/
def creep (time : Nat) : Nat → List (Nat × ShaperCall)
  | 0 => []
  | count + 1 => (time + 1, .check 0) :: creep (time + 1) count

theorem creep_clock {time count : Nat} {tail : List (Nat × ShaperCall)}
    (htail : ClockFrom (time + count) tail) :
    ClockFrom time (creep time count ++ tail) := by
  induction count generalizing time with
  | zero => exact htail
  | succ count ih =>
      refine ⟨Nat.le_succ time, ih ?_⟩
      rw [Nat.add_assoc, Nat.add_comm 1 count]
      exact htail

theorem creep_spaced {gap time count : Nat} {tail : List (Nat × ShaperCall)}
    (hgap : 0 < gap) (htail : Spaced gap (time + count) tail) :
    Spaced gap time (creep time count ++ tail) := by
  induction count generalizing time with
  | zero => exact htail
  | succ count ih =>
      refine ⟨Nat.zero_le _, by omega, ih ?_⟩
      rw [Nat.add_assoc, Nat.add_comm 1 count]
      exact htail

theorem creep_callAll {shaper : AdaptiveShaper} {time count : Nat}
    {tail : List (Nat × ShaperCall)}
    (hsoon : time + count < shaper.rateLimiter.bucket.lastRefill + 100) :
    Arith.checked.callAll shaper (creep time count ++ tail) =
      Arith.checked.callAll shaper tail := by
  induction count generalizing time with
  | zero => rfl
  | succ count ih =>
      have hearly : time + 1 - shaper.rateLimiter.bucket.lastRefill < 100 := by
        omega
      have hcheck : Arith.checked.call shaper (time + 1) (.check 0) =
          some shaper := by
        simp [Arith.call, Arith.checkShaper, Arith.checkLimiter,
          Arith.checkBucket, Arith.refill, hearly, Arith.checked]
      rw [creep, List.cons_append, Arith.callAll, hcheck, Option.bind_some]
      apply ih
      omega

theorem full_bucket (mbps : Nat) :
    mbps * 125000 / 10 * 1000 = mbps * 12500000 := by
  omega

theorem full_credit (mbps elapsed : Nat) :
    mbps * 125000 * elapsed / 1000 = mbps * 125 * elapsed := by
  have hscale : mbps * 125000 * elapsed = mbps * 125 * elapsed * 1000 := by
    ring
  rw [hscale, Nat.mul_div_cancel _ (by decide)]

/-- The two conditions on the cap and the longest gap: the product of a refill
after that gap fits, and so does the sum with a full bucket. -/
def RefillFits (mbps gap : Nat) : Prop :=
  mbps * 125000 * (gap + 99) < 2 ^ 64 ∧
    mbps * 12500000 + mbps * 125 * (gap + 99) < 2 ^ 64

instance (mbps gap : Nat) : Decidable (RefillFits mbps gap) :=
  inferInstanceAs (Decidable (_ ∧ _))

theorem exactUpTo_of_refillFits {mbps gap : Nat} (hfits : RefillFits mbps gap) :
    ExactUpTo mbps gap := by
  intro calls hclock hspaced
  rw [exactRun_iff]
  rcases Nat.eq_zero_or_pos mbps with rfl | hpos
  · have hrun : Arith.checked.run 0 calls =
        Arith.checked.callAll (AdaptiveShaper.new 0) calls := rfl
    rw [hrun, Arith.callAll_unlimited rfl rfl]
    rfl
  · obtain ⟨hproduct, hsum⟩ := hfits
    have hfull : mbps * 12500000 < 2 ^ 64 :=
      Nat.lt_of_le_of_lt (Nat.le_add_right _ _) hsum
    have hcap_fits := fits_of_full hfull
    have hcap := AdaptiveShaper.capOf_eq hpos hcap_fits
    obtain ⟨shaper, hshaper⟩ := Option.isSome_iff_exists.mp
      ((Arith.newShaper_isSome_iff hpos).mpr hfull)
    have hcode := Arith.checked_refines_wrapping.newShaper mbps shaper hshaper
    rw [Arith.newShaper_wrapping, Option.some.injEq] at hcode
    rw [Arith.run, hshaper, Option.bind_some, ← hcode]
    apply Arith.callAll_isSome (ShaperRun.kept_start hpos hcap_fits) _ _ hclock
      hspaced
    · rw [hcap]
      exact hproduct
    · rw [hcap, full_bucket, full_credit]
      exact hsum

/-- The bucket of a new shaper is full. -/
theorem new_bucket {mbps : Nat} (hpos : 1 ≤ mbps)
    (hfull : mbps * 12500000 < 2 ^ 64) :
    (AdaptiveShaper.new mbps).rateLimiter.bucket.tokens = mbps * 12500000 ∧
      (AdaptiveShaper.new mbps).rateLimiter.bucket.rate = mbps * 125000 ∧
      (AdaptiveShaper.new mbps).rateLimiter.bucket.lastRefill = 0 := by
  have hfits := fits_of_full hfull
  have htuned := AdaptiveShaper.tuned_new hpos hfits
  have hcap := AdaptiveShaper.capOf_eq hpos hfits
  have hburst : (AdaptiveShaper.new mbps).rateLimiter.bucket.burst =
      mbps * 125000 / 10 := by
    rw [htuned.burst, ← hcap]
    rfl
  refine ⟨?_, ?_, rfl⟩
  · have htokens : (AdaptiveShaper.new mbps).rateLimiter.bucket.tokens =
        u64Mul (AdaptiveShaper.new mbps).rateLimiter.bucket.burst 1000 := rfl
    rw [htokens, hburst, u64Mul_eq (by rw [full_bucket]; exact hfull),
      full_bucket]
  · rw [htuned.rate, ← hcap]
    rfl

theorem refillFits_of_exactUpTo {mbps gap : Nat} (hgap : 0 < gap)
    (hexact : ExactUpTo mbps gap) : RefillFits mbps gap := by
  rcases Nat.eq_zero_or_pos mbps with rfl | hpos
  · simp [RefillFits]
  · -- wait 99 μs with packets that bring no refill, then as long as allowed
    have hlate : Spaced gap (0 + 99) [(99 + gap, .check 0)] :=
      ⟨Nat.zero_le _, Nat.le_refl _, trivial⟩
    have hrun := hexact (creep 0 99 ++ [(99 + gap, .check 0)])
      (creep_clock ⟨by omega, trivial⟩) (creep_spaced hgap hlate)
    rw [exactRun_iff] at hrun
    obtain ⟨final, hfinal⟩ := Option.isSome_iff_exists.mp hrun
    obtain ⟨shaper, hshaper, hcalls⟩ := Option.bind_eq_some_iff.mp hfinal
    have hfull : mbps * 12500000 < 2 ^ 64 := by
      apply (Arith.newShaper_isSome_iff hpos).mp
      rw [hshaper]
      rfl
    have hcode := Arith.checked_refines_wrapping.newShaper mbps shaper hshaper
    rw [Arith.newShaper_wrapping, Option.some.injEq] at hcode
    obtain ⟨htokens, hrate, hlast⟩ := new_bucket hpos hfull
    rw [← hcode, creep_callAll (by rw [hlast]; decide)] at hcalls
    obtain ⟨next, hcall, _⟩ := Option.bind_eq_some_iff.mp hcalls
    obtain ⟨result, hresult, _⟩ := Option.bind_eq_some_iff.mp hcall
    obtain ⟨limited, hlimited, _⟩ := Option.bind_eq_some_iff.mp hresult
    obtain ⟨checked, hchecked, _⟩ := Option.bind_eq_some_iff.mp hlimited
    rw [Arith.checkBucket, if_neg (by rw [hrate]; omega)] at hchecked
    obtain ⟨refilled, hrefilled, _⟩ := Option.bind_eq_some_iff.mp hchecked
    have hfits := Arith.of_refill_isSome (by rw [hrefilled]; rfl)
      (by rw [hlast]; omega)
    rw [hrate, htokens, hlast, Nat.sub_zero, Nat.add_comm 99 gap,
      full_credit] at hfits
    exact hfits

/-- Exactly when the arithmetic of the shaper is exact, for every longest idle
gap and in particular for 30 days. -/
theorem rate_arithmetic_exact_iff (config : ServerConfig) :
    (∀ gap, 0 < gap → (ExactUpTo config.maxBandwidthMbps gap ↔
      RefillFits config.maxBandwidthMbps gap)) ∧
    (ExactUpTo config.maxBandwidthMbps thirtyDays ↔
      config.maxBandwidthMbps ≤ 56) := by
  have hgaps : ∀ gap, 0 < gap → (ExactUpTo config.maxBandwidthMbps gap ↔
      RefillFits config.maxBandwidthMbps gap) := by
    intro gap hgap
    exact ⟨refillFits_of_exactUpTo hgap, exactUpTo_of_refillFits⟩
  refine ⟨hgaps, ?_⟩
  rw [hgaps thirtyDays (by decide), RefillFits, thirtyDays]
  constructor
  · intro hfits
    omega
  · intro hcap
    omega

/-- The default configuration with a cap. -/
def cappedConfig (mbps : Nat) : ServerConfig :=
  { ServerConfig.default with maxBandwidthMbps := mbps }

theorem validate_cappedConfig (mbps : Nat) :
    (cappedConfig mbps).validate isDefaultSocket = .ok () :=
  ServerConfig.validate_defaultSockets

/-- 1 Gbps is exact for gaps of a day, and 56 Mbps for gaps of 30 days. -/
theorem rate_arithmetic_exact_iff_caps :
    ExactUpTo (cappedConfig 1000).maxBandwidthMbps (24 * 3600 * 1000000) ∧
      ExactUpTo (cappedConfig 56).maxBandwidthMbps thirtyDays :=
  ⟨((rate_arithmetic_exact_iff (cappedConfig 1000)).1 _ (by decide)).mpr
      (by decide),
    ((rate_arithmetic_exact_iff (cappedConfig 56)).1 _ (by decide)).mpr
      (by decide)⟩

/-- Twelve packets at a cap of 57 Mbps: eleven empty the bucket, and the last
comes almost 30 days later. -/
def longIdle : List (Nat × ShaperCall) :=
  List.replicate 10 (0, .check 65535) ++
    [(0, .check 57150), (2589016712100, .check 1500)]

/-- The refill after the idle time wraps.  Exact arithmetic fills the bucket and
admits the last packet; the code has credited two bytes and refuses it. -/
theorem rate_arithmetic_wraps :
    (cappedConfig 57).validate isDefaultSocket = .ok () ∧
      ClockFrom 0 longIdle ∧ Spaced thirtyDays 0 longIdle ∧
      ¬ ExactRun (cappedConfig 57).maxBandwidthMbps longIdle ∧
      ((Arith.exact.run (cappedConfig 57).maxBandwidthMbps longIdle).map
        fun shaper => shaper.rateLimiter.bucket.tokens) = some 711000000 ∧
      ((ShaperRun.start (cappedConfig 57).maxBandwidthMbps).runAll
        longIdle).shaper.rateLimiter.bucket.tokens = 2948 := by
  refine ⟨validate_cappedConfig 57, by decide, by decide, ?_, by decide,
    by decide⟩
  rw [exactRun_iff]
  decide

end Redpill
