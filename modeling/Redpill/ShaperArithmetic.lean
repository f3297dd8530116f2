/-
The u64 arithmetic of the shaper (`shaper.rs`).  The same code is read with
three meanings of sum and product: wrapping at 2^64, as a release build runs
it; checked, which gives no value where a result does not fit; and exact.  The
checked reading stops at the first overflow, and as long as it does not stop
all three agree.
-/
import Redpill.ShaperBound

namespace Redpill

/-- What the first computation gives, the second gives too. -/
def Below {α : Type} (first second : Option α) : Prop :=
  ∀ value, first = some value → second = some value

theorem Below.refl {α : Type} (value : Option α) : Below value value :=
  fun _ h => h

theorem Below.bind {α β : Type} {first second : Option α}
    {next after : α → Option β} (hfirst : Below first second)
    (hnext : ∀ value, Below (next value) (after value)) :
    Below (first.bind next) (second.bind after) := by
  intro result hresult
  obtain ⟨value, hvalue, hrest⟩ := Option.bind_eq_some_iff.mp hresult
  rw [hfirst value hvalue]
  exact hnext value result hrest

/-- The meaning of `+` and `*` on u64. -/
structure Arith where
  add : Nat → Nat → Option Nat
  mul : Nat → Nat → Option Nat

namespace Arith

def wrapping : Arith where
  add a b := some (u64Add a b)
  mul a b := some (u64Mul a b)

def checked : Arith where
  add a b := if a + b < 2 ^ 64 then some (a + b) else none
  mul a b := if a * b < 2 ^ 64 then some (a * b) else none

def exact : Arith where
  add a b := some (a + b)
  mul a b := some (a * b)

structure Refines (first second : Arith) : Prop where
  add : ∀ a b, Below (first.add a b) (second.add a b)
  mul : ∀ a b, Below (first.mul a b) (second.mul a b)

theorem checked_refines_wrapping : Refines checked wrapping := by
  constructor
  · intro a b sum hsum
    simp only [checked, Option.ite_none_right_eq_some] at hsum
    rw [← hsum.2]
    exact congrArg some (Nat.mod_eq_of_lt hsum.1)
  · intro a b product hproduct
    simp only [checked, Option.ite_none_right_eq_some] at hproduct
    rw [← hproduct.2]
    exact congrArg some (Nat.mod_eq_of_lt hproduct.1)

theorem checked_refines_exact : Refines checked exact := by
  constructor
  · intro a b sum hsum
    simp only [checked, Option.ite_none_right_eq_some] at hsum
    exact hsum.2
  · intro a b product hproduct
    simp only [checked, Option.ite_none_right_eq_some] at hproduct
    exact hproduct.2

section Code

variable (arith : Arith)

/-- `TokenBucket::new`. -/
def newBucket (rate burst : Nat) : Option TokenBucket :=
  (arith.mul burst 1000).bind fun tokens => some ⟨tokens, rate, burst, 0⟩

/-- `TokenBucket::refill`. -/
def refill (bucket : TokenBucket) (now : Nat) : Option TokenBucket :=
  let elapsed := now - bucket.lastRefill
  if elapsed < 100 then some bucket
  else
    (arith.mul bucket.rate elapsed).bind fun product =>
      (arith.mul bucket.burst 1000).bind fun ceiling =>
        (arith.add bucket.tokens (product / 1000)).bind fun sum =>
          some { bucket with lastRefill := now, tokens := min sum ceiling }

/-- `TokenBucket::check`. -/
def checkBucket (bucket : TokenBucket) (bytes now : Nat) :
    Option (Bool × TokenBucket) :=
  if bucket.rate = 0 then some (true, bucket)
  else
    (arith.refill bucket now).bind fun bucket =>
      (arith.mul bytes 1000).bind fun cost =>
        some (if bucket.tokens < cost then (false, bucket)
          else (true, { bucket with tokens := bucket.tokens - cost }))

/-- `TokenBucket::set_rate`. -/
def setRate (bucket : TokenBucket) (rate : Nat) : Option TokenBucket :=
  let burst := if 0 < rate then rate / 10 else 0
  (arith.mul burst 1000).bind fun ceiling =>
    some { bucket with
      rate := rate
      burst := burst
      tokens := min bucket.tokens ceiling }

/-- `RateLimiter::new`. -/
def newLimiter (rateMbps : Nat) : Option RateLimiter :=
  (arith.mul rateMbps 1000000).bind fun product =>
    let rateBytes := product / 8
    let burst := if 0 < rateBytes then rateBytes / 10 else 0
    (arith.newBucket rateBytes burst).bind fun bucket => some ⟨bucket, 0, 0⟩

/-- `RateLimiter::check`.  The two counters are atomics whose `fetch_add` wraps
in every build. -/
def checkLimiter (limiter : RateLimiter) (bytes now : Nat) :
    Option (Bool × RateLimiter) :=
  (arith.checkBucket limiter.bucket bytes now).bind fun result =>
    some (if result.1 then (true, { limiter with bucket := result.2 })
      else
        (false, { bucket := result.2
                  droppedBytes := u64Add limiter.droppedBytes bytes
                  droppedPackets := u64Add limiter.droppedPackets 1 }))

def capOf (maxBandwidthMbps : Nat) : Option Nat :=
  if 0 < maxBandwidthMbps then
    (arith.mul maxBandwidthMbps 1000000).bind fun product => some (product / 8)
  else some 0

/-- `AdaptiveShaper::new`. -/
def newShaper (maxBandwidthMbps : Nat) : Option AdaptiveShaper :=
  (arith.capOf maxBandwidthMbps).bind fun cap =>
    (arith.newLimiter maxBandwidthMbps).bind fun limiter =>
      some { rateLimiter := limiter
             baseRtt := u64Max
             currentRate := cap
             minRate := 1000000 / 8
             maxRate := cap }

/-- `AdaptiveShaper::check`. -/
def checkShaper (shaper : AdaptiveShaper) (bytes now : Nat) :
    Option (Bool × AdaptiveShaper) :=
  (arith.checkLimiter shaper.rateLimiter bytes now).bind fun result =>
    some (result.1, { shaper with rateLimiter := result.2 })

def adaptedRate (shaper : AdaptiveShaper) (qdelay : Nat) : Option Nat :=
  let current := shaper.currentRate
  if qdelay < qdelayLow then
    (arith.add current (current / 20)).bind fun sum =>
      some (min sum shaper.maxRate)
  else if qdelayHigh < qdelay then
    some (max (current - current / 10) shaper.minRate)
  else some current

/-- `AdaptiveShaper::update_rtt`. -/
def updateRtt (shaper : AdaptiveShaper) (rtt : Nat) : Option AdaptiveShaper :=
  if shaper.maxRate = 0 then some shaper
  else
    let rttUs := rtt % 2 ^ 64
    let base := min shaper.baseRtt rttUs
    let shaper := { shaper with baseRtt := base }
    if base = u64Max then some shaper
    else
      (arith.adaptedRate shaper (rttUs - base)).bind fun newRate =>
        if newRate = shaper.currentRate then some shaper
        else
          (arith.setRate shaper.rateLimiter.bucket newRate).bind fun bucket =>
            some { shaper with
              currentRate := newRate
              rateLimiter := { shaper.rateLimiter with bucket := bucket } }

/-- One call at time `now`. -/
def call (shaper : AdaptiveShaper) (now : Nat) :
    ShaperCall → Option AdaptiveShaper
  | .check bytes =>
      (arith.checkShaper shaper bytes now).bind fun result => some result.2
  | .updateRtt rtt => arith.updateRtt shaper rtt

def callAll (shaper : AdaptiveShaper) :
    List (Nat × ShaperCall) → Option AdaptiveShaper
  | [] => some shaper
  | (now, call) :: rest =>
      (arith.call shaper now call).bind fun shaper => callAll shaper rest

/-- The shaper after it was made and called. -/
def run (maxBandwidthMbps : Nat) (calls : List (Nat × ShaperCall)) :
    Option AdaptiveShaper :=
  (arith.newShaper maxBandwidthMbps).bind fun shaper =>
    arith.callAll shaper calls

end Code

section Refinement

variable {first second : Arith} (h : first.Refines second)
include h

theorem Refines.refill (bucket : TokenBucket) (now : Nat) :
    Below (first.refill bucket now) (second.refill bucket now) := by
  unfold Arith.refill
  simp only
  split
  · exact Below.refl _
  · apply (h.mul _ _).bind
    intro product
    apply (h.mul _ _).bind
    intro ceiling
    apply (h.add _ _).bind
    intro sum
    exact Below.refl _

theorem Refines.checkBucket (bucket : TokenBucket) (bytes now : Nat) :
    Below (first.checkBucket bucket bytes now)
      (second.checkBucket bucket bytes now) := by
  unfold Arith.checkBucket
  split
  · exact Below.refl _
  · apply (h.refill bucket now).bind
    intro refilled
    apply (h.mul _ _).bind
    intro cost
    exact Below.refl _

theorem Refines.setRate (bucket : TokenBucket) (rate : Nat) :
    Below (first.setRate bucket rate) (second.setRate bucket rate) := by
  apply (h.mul _ _).bind
  intro ceiling
  exact Below.refl _

theorem Refines.newLimiter (rateMbps : Nat) :
    Below (first.newLimiter rateMbps) (second.newLimiter rateMbps) := by
  apply (h.mul _ _).bind
  intro product
  refine Below.bind ?_ fun bucket => Below.refl _
  apply (h.mul _ _).bind
  intro tokens
  exact Below.refl _

theorem Refines.capOf (maxBandwidthMbps : Nat) :
    Below (first.capOf maxBandwidthMbps) (second.capOf maxBandwidthMbps) := by
  unfold Arith.capOf
  split
  · apply (h.mul _ _).bind
    intro product
    exact Below.refl _
  · exact Below.refl _

theorem Refines.newShaper (maxBandwidthMbps : Nat) :
    Below (first.newShaper maxBandwidthMbps)
      (second.newShaper maxBandwidthMbps) := by
  apply (h.capOf maxBandwidthMbps).bind
  intro cap
  apply (h.newLimiter maxBandwidthMbps).bind
  intro limiter
  exact Below.refl _

theorem Refines.checkShaper (shaper : AdaptiveShaper) (bytes now : Nat) :
    Below (first.checkShaper shaper bytes now)
      (second.checkShaper shaper bytes now) := by
  refine Below.bind ?_ fun result => Below.refl _
  apply (h.checkBucket shaper.rateLimiter.bucket bytes now).bind
  intro result
  exact Below.refl _

theorem Refines.adaptedRate (shaper : AdaptiveShaper) (qdelay : Nat) :
    Below (first.adaptedRate shaper qdelay)
      (second.adaptedRate shaper qdelay) := by
  unfold Arith.adaptedRate
  simp only
  split
  · apply (h.add _ _).bind
    intro sum
    exact Below.refl _
  · exact Below.refl _

theorem Refines.updateRtt (shaper : AdaptiveShaper) (rtt : Nat) :
    Below (first.updateRtt shaper rtt) (second.updateRtt shaper rtt) := by
  unfold Arith.updateRtt
  split
  · exact Below.refl _
  · simp only
    split
    · exact Below.refl _
    · apply (h.adaptedRate _ _).bind
      intro newRate
      split
      · exact Below.refl _
      · apply (h.setRate _ _).bind
        intro bucket
        exact Below.refl _

theorem Refines.call (shaper : AdaptiveShaper) (now : Nat)
    (call : ShaperCall) :
    Below (first.call shaper now call) (second.call shaper now call) := by
  cases call with
  | check bytes =>
      apply (h.checkShaper shaper bytes now).bind
      intro result
      exact Below.refl _
  | updateRtt rtt => exact h.updateRtt shaper rtt

theorem Refines.callAll (shaper : AdaptiveShaper)
    (calls : List (Nat × ShaperCall)) :
    Below (first.callAll shaper calls) (second.callAll shaper calls) := by
  induction calls generalizing shaper with
  | nil => exact Below.refl _
  | cons head rest ih =>
      apply (h.call shaper head.1 head.2).bind
      intro next
      exact ih next

theorem Refines.run (maxBandwidthMbps : Nat)
    (calls : List (Nat × ShaperCall)) :
    Below (first.run maxBandwidthMbps calls)
      (second.run maxBandwidthMbps calls) := by
  apply (h.newShaper maxBandwidthMbps).bind
  intro shaper
  exact h.callAll shaper calls

end Refinement

/-- The wrapping reading is the model of the code. -/
theorem refill_wrapping (bucket : TokenBucket) (now : Nat) :
    wrapping.refill bucket now = some (bucket.refill now) := by
  simp only [refill, TokenBucket.refill, wrapping, Option.bind_some]
  split
  · rfl
  · rfl

theorem checkBucket_wrapping (bucket : TokenBucket) (bytes now : Nat) :
    wrapping.checkBucket bucket bytes now =
      some (bucket.check bytes now) := by
  rw [checkBucket, TokenBucket.check, refill_wrapping]
  split
  · rfl
  · rfl

theorem newShaper_wrapping (maxBandwidthMbps : Nat) :
    wrapping.newShaper maxBandwidthMbps =
      some (AdaptiveShaper.new maxBandwidthMbps) := by
  have hcap : wrapping.capOf maxBandwidthMbps =
      some (AdaptiveShaper.capOf maxBandwidthMbps) := by
    unfold capOf AdaptiveShaper.capOf
    split
    · rfl
    · rfl
  rw [newShaper, hcap]
  rfl

theorem checkShaper_wrapping (shaper : AdaptiveShaper) (bytes now : Nat) :
    wrapping.checkShaper shaper bytes now = some (shaper.check bytes now) := by
  rw [checkShaper, checkLimiter, checkBucket_wrapping]
  rfl

theorem updateRtt_wrapping (shaper : AdaptiveShaper) (rtt : Nat) :
    wrapping.updateRtt shaper rtt = some (shaper.updateRtt rtt) := by
  have hrate : ∀ (shaper : AdaptiveShaper) qdelay,
      wrapping.adaptedRate shaper qdelay =
        some (shaper.adaptedRate qdelay) := by
    intro shaper qdelay
    unfold adaptedRate AdaptiveShaper.adaptedRate
    simp only [apply_ite some]
    rfl
  unfold updateRtt AdaptiveShaper.updateRtt
  simp only [hrate, Option.bind_some, apply_ite some]
  rfl

theorem call_wrapping (run : ShaperRun) (now : Nat) (call : ShaperCall) :
    wrapping.call run.shaper now call = some (run.step now call).shaper := by
  cases call with
  | check bytes =>
      rw [Arith.call, checkShaper_wrapping]
      rfl
  | updateRtt rtt => exact updateRtt_wrapping run.shaper rtt

theorem callAll_wrapping (run : ShaperRun)
    (calls : List (Nat × ShaperCall)) :
    wrapping.callAll run.shaper calls = some (run.runAll calls).shaper := by
  induction calls generalizing run with
  | nil => rfl
  | cons head rest ih =>
      obtain ⟨now, call⟩ := head
      rw [callAll, call_wrapping, Option.bind_some]
      exact ih (run.step now call)

theorem run_wrapping (maxBandwidthMbps : Nat)
    (calls : List (Nat × ShaperCall)) :
    wrapping.run maxBandwidthMbps calls =
      some ((ShaperRun.start maxBandwidthMbps).runAll calls).shaper := by
  rw [run, newShaper_wrapping, Option.bind_some]
  exact callAll_wrapping (ShaperRun.start maxBandwidthMbps) calls

theorem call_of_checked {run : ShaperRun} {now : Nat} {call : ShaperCall}
    (hfits : (checked.call run.shaper now call).isSome = true) :
    checked.call run.shaper now call = some (run.step now call).shaper := by
  obtain ⟨shaper, hshaper⟩ := Option.isSome_iff_exists.mp hfits
  have hcode := checked_refines_wrapping.call run.shaper now call shaper hshaper
  rw [call_wrapping] at hcode
  exact hshaper.trans hcode.symm

/-- Where no overflow stops the checked reading, the code computes what exact
arithmetic does. -/
theorem run_of_checked {maxBandwidthMbps : Nat}
    {calls : List (Nat × ShaperCall)} {shaper : AdaptiveShaper}
    (hrun : checked.run maxBandwidthMbps calls = some shaper) :
    ((ShaperRun.start maxBandwidthMbps).runAll calls).shaper = shaper ∧
      exact.run maxBandwidthMbps calls = some shaper := by
  have hwrapped := checked_refines_wrapping.run maxBandwidthMbps calls shaper
    hrun
  rw [run_wrapping, Option.some.injEq] at hwrapped
  exact ⟨hwrapped, checked_refines_exact.run maxBandwidthMbps calls shaper hrun⟩

end Arith

end Redpill
