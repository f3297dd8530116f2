/-
Token bucket, rate limiter and adaptive shaper (`shaper.rs`).  Tokens are
bytes times 1000; times are microseconds since the bucket was made; calls run
one at a time.  The u64 operations wrap.
-/
import Mathlib

namespace Redpill

def u64Add (a b : Nat) : Nat := (a + b) % 2 ^ 64

def u64Mul (a b : Nat) : Nat := (a * b) % 2 ^ 64

def u64Max : Nat := 2 ^ 64 - 1

theorem u64Add_le (a b : Nat) : u64Add a b ≤ a + b :=
  Nat.mod_le _ _

theorem u64Mul_le (a b : Nat) : u64Mul a b ≤ a * b :=
  Nat.mod_le _ _

theorem u64Mul_eq {a b : Nat} (h : a * b < 2 ^ 64) : u64Mul a b = a * b :=
  Nat.mod_eq_of_lt h

structure TokenBucket where
  tokens : Nat
  rate : Nat
  burst : Nat
  lastRefill : Nat
deriving Repr, DecidableEq

namespace TokenBucket

/-- `rate` is bytes per second, `burst` the most bytes that accumulate. -/
def new (rate burst : Nat) : TokenBucket :=
  ⟨u64Mul burst 1000, rate, burst, 0⟩

/-- Credit the time since the last refill, unless it is below 100 μs. -/
def refill (bucket : TokenBucket) (now : Nat) : TokenBucket :=
  let elapsed := now - bucket.lastRefill
  if elapsed < 100 then bucket
  else
    let credit := u64Mul bucket.rate elapsed / 1000
    let ceiling := u64Mul bucket.burst 1000
    { bucket with
      lastRefill := now
      tokens := min (u64Add bucket.tokens credit) ceiling }

/-- Try to take `bytes` out of the bucket; rate 0 means unlimited. -/
def check (bucket : TokenBucket) (bytes now : Nat) : Bool × TokenBucket :=
  if bucket.rate = 0 then (true, bucket)
  else
    let bucket := bucket.refill now
    let cost := u64Mul bytes 1000
    if bucket.tokens < cost then (false, bucket)
    else (true, { bucket with tokens := bucket.tokens - cost })

/-- Change rate and burst; the tokens are clamped to the new ceiling. -/
def setRate (bucket : TokenBucket) (rate : Nat) : TokenBucket :=
  let burst := if 0 < rate then rate / 10 else 0
  { bucket with
    rate := rate
    burst := burst
    tokens := min bucket.tokens (u64Mul burst 1000) }

end TokenBucket

structure RateLimiter where
  bucket : TokenBucket
  droppedBytes : Nat
  droppedPackets : Nat
deriving Repr, DecidableEq

namespace RateLimiter

def new (rateMbps : Nat) : RateLimiter :=
  let rateBytes := u64Mul rateMbps 1000000 / 8
  let burst := if 0 < rateBytes then rateBytes / 10 else 0
  ⟨TokenBucket.new rateBytes burst, 0, 0⟩

def check (limiter : RateLimiter) (bytes now : Nat) : Bool × RateLimiter :=
  let checked := limiter.bucket.check bytes now
  if checked.1 then (true, { limiter with bucket := checked.2 })
  else
    (false, { bucket := checked.2
              droppedBytes := u64Add limiter.droppedBytes bytes
              droppedPackets := u64Add limiter.droppedPackets 1 })

def setRate (limiter : RateLimiter) (rate : Nat) : RateLimiter :=
  { limiter with bucket := limiter.bucket.setRate rate }

end RateLimiter

/-- Queuing delays, in μs, below which the rate rises and above which it
falls. -/
def qdelayLow : Nat := 5000

def qdelayHigh : Nat := 25000

structure AdaptiveShaper where
  rateLimiter : RateLimiter
  baseRtt : Nat
  currentRate : Nat
  minRate : Nat
  maxRate : Nat
deriving Repr, DecidableEq

namespace AdaptiveShaper

/-- The configured cap in bytes per second; 0 is unlimited. -/
def capOf (maxBandwidthMbps : Nat) : Nat :=
  if 0 < maxBandwidthMbps then u64Mul maxBandwidthMbps 1000000 / 8 else 0

def new (maxBandwidthMbps : Nat) : AdaptiveShaper :=
  { rateLimiter := RateLimiter.new maxBandwidthMbps
    baseRtt := u64Max
    currentRate := capOf maxBandwidthMbps
    minRate := 1000000 / 8
    maxRate := capOf maxBandwidthMbps }

def check (shaper : AdaptiveShaper) (bytes now : Nat) :
    Bool × AdaptiveShaper :=
  let checked := shaper.rateLimiter.check bytes now
  (checked.1, { shaper with rateLimiter := checked.2 })

/-- The rate that follows from a queuing delay. -/
def adaptedRate (shaper : AdaptiveShaper) (qdelay : Nat) : Nat :=
  let current := shaper.currentRate
  if qdelay < qdelayLow then
    min (u64Add current (current / 20)) shaper.maxRate
  else if qdelayHigh < qdelay then max (current - current / 10) shaper.minRate
  else current

/-- Take an RTT sample in μs. -/
def updateRtt (shaper : AdaptiveShaper) (rtt : Nat) : AdaptiveShaper :=
  if shaper.maxRate = 0 then shaper
  else
    let rttUs := rtt % 2 ^ 64
    let base := min shaper.baseRtt rttUs
    let shaper := { shaper with baseRtt := base }
    if base = u64Max then shaper
    else
      let newRate := shaper.adaptedRate (rttUs - base)
      if newRate = shaper.currentRate then shaper
      else
        { shaper with
          currentRate := newRate
          rateLimiter := shaper.rateLimiter.setRate newRate }

end AdaptiveShaper

/-- A call on the shaper. -/
inductive ShaperCall where
  | check (bytes : Nat)
  | updateRtt (rtt : Nat)
deriving Repr, DecidableEq

/-- A shaper with the log of what it let through: time and bytes of each
admitted check. -/
structure ShaperRun where
  shaper : AdaptiveShaper
  log : List (Nat × Nat)
deriving Repr, DecidableEq

/-- One call at time `now`. -/
def ShaperRun.step (run : ShaperRun) (now : Nat) : ShaperCall → ShaperRun
  | .check bytes =>
      let checked := run.shaper.check bytes now
      ⟨checked.2, if checked.1 then run.log ++ [(now, bytes)] else run.log⟩
  | .updateRtt rtt => { run with shaper := run.shaper.updateRtt rtt }

def ShaperRun.start (maxBandwidthMbps : Nat) : ShaperRun :=
  ⟨AdaptiveShaper.new maxBandwidthMbps, []⟩

def ShaperRun.runAll (run : ShaperRun) :
    List (Nat × ShaperCall) → ShaperRun
  | [] => run
  | (now, call) :: rest => (run.step now call).runAll rest

/-- Bytes admitted by the checks made in the window from `t₁` to `t₂`. -/
def admittedIn (t₁ t₂ : Nat) (log : List (Nat × Nat)) : Nat :=
  ((log.filter fun entry => decide (t₁ ≤ entry.1 ∧ entry.1 ≤ t₂)).map
    Prod.snd).sum

end Redpill
