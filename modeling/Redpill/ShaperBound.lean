/-
The bandwidth cap of the adaptive shaper over any window of time.  Within a
window, what was admitted and what is still in the bucket never exceed one full
burst at the cap plus the time credited since 100 μs before the window, also at
the cap.
-/
import Redpill.Shaper

namespace Redpill

/-- A bucket that is limited, within the cap `M`, and not overfull. -/
structure TokenBucket.Within (M : Nat) (bucket : TokenBucket) : Prop where
  limited : 0 < bucket.rate
  rate_le : bucket.rate ≤ M
  burst_le : bucket.burst ≤ M / 10
  tokens_le : bucket.tokens ≤ bucket.burst * 1000

theorem TokenBucket.Within.full {M : Nat} {bucket : TokenBucket}
    (h : bucket.Within M) : bucket.tokens ≤ 1000 * (M / 10) := by
  have htokens := h.tokens_le
  have hburst := h.burst_le
  omega

/-- What a refill at `now` can do: nothing, because too little time has
passed, or credit the time since the last one. -/
theorem TokenBucket.refill_cases (bucket : TokenBucket) (now : Nat) :
    (bucket.refill now = bucket ∧ now < bucket.lastRefill + 100) ∨
      (bucket.lastRefill ≤ now ∧
        (bucket.refill now).lastRefill = now ∧
        (bucket.refill now).rate = bucket.rate ∧
        (bucket.refill now).burst = bucket.burst ∧
        (bucket.refill now).tokens ≤ bucket.burst * 1000 ∧
        (bucket.refill now).tokens ≤
          bucket.tokens + bucket.rate * (now - bucket.lastRefill) / 1000) := by
  by_cases hsoon : now - bucket.lastRefill < 100
  · left
    exact ⟨by simp [refill, hsoon], by omega⟩
  · right
    have hrefill : bucket.refill now =
        { bucket with
          lastRefill := now
          tokens := min
            (u64Add bucket.tokens
              (u64Mul bucket.rate (now - bucket.lastRefill) / 1000))
            (u64Mul bucket.burst 1000) } := by
      simp [refill, hsoon]
    have hceiling := u64Mul_le bucket.burst 1000
    have hsum := u64Add_le bucket.tokens
      (u64Mul bucket.rate (now - bucket.lastRefill) / 1000)
    have hcredit : u64Mul bucket.rate (now - bucket.lastRefill) / 1000 ≤
        bucket.rate * (now - bucket.lastRefill) / 1000 :=
      Nat.div_le_div_right (u64Mul_le _ _)
    rw [hrefill]
    refine ⟨by omega, rfl, rfl, rfl, ?_, ?_⟩
    · exact Nat.le_trans (Nat.min_le_right _ _) hceiling
    · apply Nat.le_trans (Nat.min_le_left _ _)
      omega

theorem TokenBucket.Within.refill {M : Nat} {bucket : TokenBucket}
    (h : bucket.Within M) (now : Nat) : (bucket.refill now).Within M := by
  rcases bucket.refill_cases now with ⟨hsame, _⟩ |
    ⟨_, _, hrate, hburst, htokens, _⟩
  · rw [hsame]
    exact h
  · exact ⟨hrate ▸ h.limited, hrate ▸ h.rate_le, hburst ▸ h.burst_le,
      hburst.symm ▸ htokens⟩

theorem TokenBucket.refill_kept (bucket : TokenBucket) (now : Nat) :
    (bucket.refill now).rate = bucket.rate ∧
      (bucket.refill now).burst = bucket.burst := by
  unfold refill
  simp only
  split
  · exact ⟨rfl, rfl⟩
  · exact ⟨rfl, rfl⟩

/-- Whatever its result, a check refills and takes something or nothing. -/
theorem TokenBucket.check_snd {bucket : TokenBucket}
    (hlimited : 0 < bucket.rate) (bytes now : Nat) :
    ∃ cost, (bucket.check bytes now).2 =
      { bucket.refill now with
        tokens := (bucket.refill now).tokens - cost } := by
  have hne : bucket.rate ≠ 0 := Nat.ne_of_gt hlimited
  by_cases hpoor : (bucket.refill now).tokens < u64Mul bytes 1000
  · exact ⟨0, by simp [check, hne, hpoor]⟩
  · exact ⟨u64Mul bytes 1000, by simp [check, hne, hpoor]⟩

/-- A check refills, and takes its cost if that is covered. -/
theorem TokenBucket.check_cases {bucket : TokenBucket} {bytes : Nat}
    (hlimited : 0 < bucket.rate) (hcost : bytes * 1000 < 2 ^ 64) (now : Nat) :
    bucket.check bytes now = (false, bucket.refill now) ∨
      (bytes * 1000 ≤ (bucket.refill now).tokens ∧
        bucket.check bytes now =
          (true, { bucket.refill now with
            tokens := (bucket.refill now).tokens - bytes * 1000 })) := by
  have hne : bucket.rate ≠ 0 := Nat.ne_of_gt hlimited
  by_cases hpoor : (bucket.refill now).tokens < bytes * 1000
  · left
    simp [check, hne, u64Mul_eq hcost, hpoor]
  · right
    exact ⟨by omega, by simp [check, hne, u64Mul_eq hcost, hpoor]⟩

/-- A check of the shaper is a check of its bucket. -/
theorem AdaptiveShaper.check_fst (shaper : AdaptiveShaper) (bytes now : Nat) :
    (shaper.check bytes now).1 =
      (shaper.rateLimiter.bucket.check bytes now).1 := by
  unfold check RateLimiter.check
  simp only
  split
  · rename_i hadmitted
    exact hadmitted.symm
  · rename_i hdropped
    exact (Bool.eq_false_iff.mpr hdropped).symm

theorem AdaptiveShaper.check_bucket (shaper : AdaptiveShaper)
    (bytes now : Nat) :
    (shaper.check bytes now).2.rateLimiter.bucket =
      (shaper.rateLimiter.bucket.check bytes now).2 := by
  unfold check RateLimiter.check
  simp only
  split
  · rfl
  · rfl

/-- The shaper keeps its rate between the minimum and the cap, and its bucket
within the cap. -/
structure AdaptiveShaper.Within (M : Nat) (shaper : AdaptiveShaper) :
    Prop where
  maxRate : shaper.maxRate = M
  minRate : shaper.minRate = 125000
  minRate_le : 125000 ≤ shaper.currentRate
  le_maxRate : shaper.currentRate ≤ M
  bucket : shaper.rateLimiter.bucket.Within M

theorem AdaptiveShaper.capOf_eq {mbps : Nat} (hpos : 1 ≤ mbps)
    (hfits : mbps * 1000000 < 2 ^ 64) :
    AdaptiveShaper.capOf mbps = mbps * 125000 := by
  have hlimited : 0 < mbps := hpos
  rw [capOf, if_pos hlimited, u64Mul_eq hfits]
  omega

theorem AdaptiveShaper.new_within {mbps : Nat} (hpos : 1 ≤ mbps)
    (hfits : mbps * 1000000 < 2 ^ 64) :
    (AdaptiveShaper.new mbps).Within (AdaptiveShaper.capOf mbps) := by
  have hcap := AdaptiveShaper.capOf_eq hpos hfits
  have hrate : u64Mul mbps 1000000 / 8 = mbps * 125000 := by
    rw [u64Mul_eq hfits]
    omega
  have hburst := u64Mul_le (mbps * 125000 / 10) 1000
  have hrate_pos : 0 < mbps * 125000 := by omega
  constructor
  · rfl
  · rfl
  · change 125000 ≤ AdaptiveShaper.capOf mbps
    omega
  · exact Nat.le_refl _
  · simp only [new, RateLimiter.new, TokenBucket.new, hrate, hrate_pos, if_true,
      hcap]
    exact ⟨hrate_pos, Nat.le_refl _, Nat.le_refl _, hburst⟩

theorem AdaptiveShaper.Within.adaptedRate {M : Nat} {shaper : AdaptiveShaper}
    (h : shaper.Within M) (hM : M < 2 ^ 63) (qdelay : Nat) :
    125000 ≤ shaper.adaptedRate qdelay ∧ shaper.adaptedRate qdelay ≤ M := by
  have hlow := h.minRate_le
  have hhigh := h.le_maxRate
  have hraise : u64Add shaper.currentRate (shaper.currentRate / 20) =
      shaper.currentRate + shaper.currentRate / 20 :=
    Nat.mod_eq_of_lt (by omega)
  simp only [AdaptiveShaper.adaptedRate, h.maxRate, h.minRate, hraise]
  split
  · omega
  · split <;> omega

theorem TokenBucket.Within.setRate {M rate : Nat} {bucket : TokenBucket}
    (hpos : 0 < rate) (hle : rate ≤ M) :
    (bucket.setRate rate).Within M := by
  have hburst := u64Mul_le (rate / 10) 1000
  simp only [TokenBucket.setRate, hpos, if_true]
  refine ⟨hpos, hle, Nat.div_le_div_right hle, ?_⟩
  exact Nat.le_trans (Nat.min_le_right _ _) hburst

/-- What an RTT sample does to the bucket: nothing, or a new rate, which adds
no tokens and does not touch the refill time. -/
theorem AdaptiveShaper.Within.updateRtt {M : Nat} {shaper : AdaptiveShaper}
    (h : shaper.Within M) (hM : M < 2 ^ 63) (rtt : Nat) :
    (shaper.updateRtt rtt).Within M ∧
      (shaper.updateRtt rtt).rateLimiter.bucket.lastRefill =
        shaper.rateLimiter.bucket.lastRefill ∧
      (shaper.updateRtt rtt).rateLimiter.bucket.tokens ≤
        shaper.rateLimiter.bucket.tokens := by
  have hbased : ∀ base, ({ shaper with baseRtt := base } :
      AdaptiveShaper).Within M := fun base =>
    ⟨h.maxRate, h.minRate, h.minRate_le, h.le_maxRate, h.bucket⟩
  unfold AdaptiveShaper.updateRtt
  split
  · exact ⟨h, rfl, Nat.le_refl _⟩
  · simp only
    split
    · exact ⟨hbased _, rfl, Nat.le_refl _⟩
    · split
      · exact ⟨hbased _, rfl, Nat.le_refl _⟩
      · obtain ⟨hlow, hhigh⟩ := (hbased (min shaper.baseRtt
          (rtt % 2 ^ 64))).adaptedRate hM
            (rtt % 2 ^ 64 - min shaper.baseRtt (rtt % 2 ^ 64))
        refine ⟨⟨h.maxRate, h.minRate, hlow, hhigh, ?_⟩, rfl, ?_⟩
        · exact TokenBucket.Within.setRate (by omega) hhigh
        · exact Nat.min_le_left _ _

/-- Bookkeeping of a window at clock `now`.  While the clock is inside it,
either nothing was admitted yet, or the last refill is recent enough to pay
for everything admitted and everything still in the bucket. -/
structure ShaperRun.Paid (M t₁ t₂ now : Nat) (run : ShaperRun) : Prop where
  within : run.shaper.Within M
  past : run.shaper.rateLimiter.bucket.lastRefill ≤ now
  total : 1000 * admittedIn t₁ t₂ run.log ≤
    1000 * (M / 10) + M * (t₂ - t₁ + 100) / 1000
  credit : now ≤ t₂ → admittedIn t₁ t₂ run.log = 0 ∨
    (t₁ < run.shaper.rateLimiter.bucket.lastRefill + 100 ∧
      1000 * admittedIn t₁ t₂ run.log + run.shaper.rateLimiter.bucket.tokens ≤
        1000 * (M / 10) +
          M * (run.shaper.rateLimiter.bucket.lastRefill + 100 - t₁) / 1000)

theorem admittedIn_append (t₁ t₂ : Nat) (log : List (Nat × Nat))
    (now bytes : Nat) :
    admittedIn t₁ t₂ (log ++ [(now, bytes)]) =
      admittedIn t₁ t₂ log + if t₁ ≤ now ∧ now ≤ t₂ then bytes else 0 := by
  by_cases hin : t₁ ≤ now ∧ now ≤ t₂
  · simp [admittedIn, List.filter_append, hin]
  · simp only [admittedIn, List.filter_append, List.filter_cons, hin,
      decide_false, List.filter_nil, Bool.false_eq_true, if_false,
      List.append_nil, Nat.add_zero]

theorem credit_mono (M : Nat) {first second : Nat} (hle : first ≤ second) :
    M * first / 1000 ≤ M * second / 1000 :=
  Nat.div_le_div_right (Nat.mul_le_mul_left M hle)

theorem credit_add (M first second : Nat) :
    M * first / 1000 + M * second / 1000 ≤ M * (first + second) / 1000 := by
  rw [Nat.mul_add]
  exact Nat.div_add_div_le_add_div

/-- The refill of a check pays for itself: it keeps the balance between what
was admitted, what is in the bucket and the credited time. -/
theorem refill_credit {M t₁ admitted : Nat} {bucket : TokenBucket}
    (h : bucket.Within M) (now : Nat)
    (hrecent : t₁ < bucket.lastRefill + 100)
    (hbalance : 1000 * admitted + bucket.tokens ≤
      1000 * (M / 10) + M * (bucket.lastRefill + 100 - t₁) / 1000) :
    t₁ < (bucket.refill now).lastRefill + 100 ∧
      1000 * admitted + (bucket.refill now).tokens ≤
        1000 * (M / 10) +
          M * ((bucket.refill now).lastRefill + 100 - t₁) / 1000 := by
  rcases bucket.refill_cases now with ⟨hsame, _⟩ |
    ⟨hpast, hlast, _, _, _, hcredit⟩
  · rw [hsame]
    exact ⟨hrecent, hbalance⟩
  · have hrate : bucket.rate * (now - bucket.lastRefill) / 1000 ≤
        M * (now - bucket.lastRefill) / 1000 :=
      Nat.div_le_div_right (Nat.mul_le_mul_right _ h.rate_le)
    have hadd := credit_add M (bucket.lastRefill + 100 - t₁)
      (now - bucket.lastRefill)
    have hspan : bucket.lastRefill + 100 - t₁ + (now - bucket.lastRefill) =
        now + 100 - t₁ := by omega
    rw [hspan] at hadd
    rw [hlast]
    omega

/-- After the first refill of a check in the window, the bucket holds at most
one burst and its refill time is recent. -/
theorem refill_recent {M t₁ now : Nat} {bucket : TokenBucket}
    (h : bucket.Within M) (hstart : t₁ ≤ now) :
    t₁ < (bucket.refill now).lastRefill + 100 ∧
      (bucket.refill now).tokens ≤ 1000 * (M / 10) := by
  refine ⟨?_, (h.refill now).full⟩
  rcases bucket.refill_cases now with ⟨hsame, hsoon⟩ | ⟨_, hlast, _⟩
  · rw [hsame]
    omega
  · rw [hlast]
    omega

theorem refill_lastRefill_le {now : Nat} {bucket : TokenBucket}
    (hpast : bucket.lastRefill ≤ now) :
    (bucket.refill now).lastRefill ≤ now := by
  rcases bucket.refill_cases now with ⟨hsame, _⟩ | ⟨_, hlast, _⟩
  · rw [hsame]
    exact hpast
  · exact Nat.le_of_eq hlast

theorem ShaperRun.Paid.updateRtt {M t₁ t₂ before now : Nat} {run : ShaperRun}
    (h : run.Paid M t₁ t₂ before) (hM : M < 2 ^ 63) (hclock : before ≤ now)
    (rtt : Nat) : (run.step now (.updateRtt rtt)).Paid M t₁ t₂ now := by
  obtain ⟨hwithin, hlast, htokens⟩ := h.within.updateRtt hM rtt
  constructor
  · exact hwithin
  · rw [ShaperRun.step, hlast]
    exact Nat.le_trans h.past hclock
  · exact h.total
  · intro hinside
    rw [ShaperRun.step, hlast]
    rcases h.credit (Nat.le_trans hclock hinside) with hzero | ⟨hrecent, hpaid⟩
    · exact Or.inl hzero
    · exact Or.inr ⟨hrecent, by simp only; omega⟩

theorem ShaperRun.step_check (run : ShaperRun) (now bytes : Nat) :
    run.step now (.check bytes) =
      let checked := run.shaper.rateLimiter.check bytes now
      ⟨{ run.shaper with rateLimiter := checked.2 },
        if checked.1 then run.log ++ [(now, bytes)] else run.log⟩ :=
  rfl

/-- A check that is refused only refills. -/
theorem ShaperRun.Paid.refused {M t₁ t₂ before now : Nat} {run after : ShaperRun}
    (h : run.Paid M t₁ t₂ before) (hclock : before ≤ now)
    (hwithin : after.shaper.Within M)
    (hbucket : after.shaper.rateLimiter.bucket =
      run.shaper.rateLimiter.bucket.refill now)
    (hlog : after.log = run.log) : after.Paid M t₁ t₂ now := by
  refine ⟨hwithin, ?_, hlog ▸ h.total, ?_⟩
  · rw [hbucket]
    exact refill_lastRefill_le (Nat.le_trans h.past hclock)
  · intro hinside
    rw [hbucket, hlog]
    rcases h.credit (Nat.le_trans hclock hinside) with hzero | ⟨hrecent, hpaid⟩
    · exact Or.inl hzero
    · exact Or.inr (refill_credit h.within.bucket now hrecent hpaid)

/-- A check that is admitted refills and then moves its cost from the bucket
to the admitted bytes. -/
theorem ShaperRun.Paid.admitted {M t₁ t₂ before now bytes : Nat}
    {run after : ShaperRun} (h : run.Paid M t₁ t₂ before)
    (hclock : before ≤ now) (hwithin : after.shaper.Within M)
    (hcost : bytes * 1000 ≤ (run.shaper.rateLimiter.bucket.refill now).tokens)
    (hbucket : after.shaper.rateLimiter.bucket =
      { run.shaper.rateLimiter.bucket.refill now with
        tokens := (run.shaper.rateLimiter.bucket.refill now).tokens -
          bytes * 1000 })
    (hlog : after.log = run.log ++ [(now, bytes)]) :
    after.Paid M t₁ t₂ now := by
  have hpast := refill_lastRefill_le (Nat.le_trans h.past hclock)
  have hcount := admittedIn_append t₁ t₂ run.log now bytes
  by_cases hin : t₁ ≤ now ∧ now ≤ t₂
  · rw [if_pos hin] at hcount
    have hpaid : t₁ <
          (run.shaper.rateLimiter.bucket.refill now).lastRefill + 100 ∧
        1000 * admittedIn t₁ t₂ run.log +
          (run.shaper.rateLimiter.bucket.refill now).tokens ≤
        1000 * (M / 10) +
          M * ((run.shaper.rateLimiter.bucket.refill now).lastRefill +
            100 - t₁) / 1000 := by
      rcases h.credit (Nat.le_trans hclock hin.2) with hzero |
        ⟨hrecent, hpaid⟩
      · obtain ⟨hrecent, hfull⟩ := refill_recent h.within.bucket hin.1
        exact ⟨hrecent, by omega⟩
      · exact refill_credit h.within.bucket now hrecent hpaid
    refine ⟨hwithin, by rw [hbucket]; exact hpast, ?_, ?_⟩
    · have hspan := credit_mono M (by omega :
        (run.shaper.rateLimiter.bucket.refill now).lastRefill + 100 - t₁ ≤
          t₂ - t₁ + 100)
      rw [hlog, hcount]
      omega
    · intro _
      right
      rw [hbucket, hlog, hcount]
      exact ⟨hpaid.1, by simp only; omega⟩
  · rw [if_neg hin, Nat.add_zero] at hcount
    refine ⟨hwithin, by rw [hbucket]; exact hpast, ?_, ?_⟩
    · rw [hlog, hcount]
      exact h.total
    · intro hinside
      rw [hbucket, hlog, hcount]
      rcases h.credit (Nat.le_trans hclock hinside) with hzero |
        ⟨hrecent, hpaid⟩
      · exact Or.inl hzero
      · obtain ⟨hrecent', hpaid'⟩ :=
          refill_credit h.within.bucket now hrecent hpaid
        exact Or.inr ⟨hrecent', by simp only; omega⟩

theorem TokenBucket.Within.spend {M cost : Nat} {bucket : TokenBucket}
    (h : bucket.Within M) :
    ({ bucket with tokens := bucket.tokens - cost } : TokenBucket).Within M :=
  ⟨h.limited, h.rate_le, h.burst_le,
    Nat.le_trans (Nat.sub_le _ _) h.tokens_le⟩

theorem ShaperRun.Paid.check {M t₁ t₂ before now bytes : Nat} {run : ShaperRun}
    (h : run.Paid M t₁ t₂ before) (hclock : before ≤ now)
    (hcost : bytes * 1000 < 2 ^ 64) :
    (run.step now (.check bytes)).Paid M t₁ t₂ now := by
  have hrefilled := h.within.bucket.refill now
  have hlimits : ∀ limiter : RateLimiter, limiter.bucket.Within M →
      ({ run.shaper with rateLimiter := limiter } : AdaptiveShaper).Within M :=
    fun limiter hlimiter => ⟨h.within.maxRate, h.within.minRate,
      h.within.minRate_le, h.within.le_maxRate, hlimiter⟩
  rw [ShaperRun.step_check]
  rcases TokenBucket.check_cases h.within.bucket.limited hcost now with
    hrefused | ⟨hcovered, hadmitted⟩
  · apply h.refused hclock
    · simp only [RateLimiter.check, hrefused]
      exact hlimits _ hrefilled
    · simp [RateLimiter.check, hrefused]
    · simp [RateLimiter.check, hrefused]
  · apply h.admitted hclock _ hcovered
    · simp [RateLimiter.check, hadmitted]
    · simp [RateLimiter.check, hadmitted]
    · simp only [RateLimiter.check, hadmitted]
      exact hlimits _ hrefilled.spend

/-- Calls whose clock readings never go back, starting from `now`. -/
def ClockFrom : Nat → List (Nat × ShaperCall) → Prop
  | _, [] => True
  | now, (time, _) :: rest => now ≤ time ∧ ClockFrom time rest

instance decidableClockFrom : ∀ (now : Nat) (calls : List (Nat × ShaperCall)),
    Decidable (ClockFrom now calls)
  | _, [] => inferInstanceAs (Decidable True)
  | now, (time, _) :: rest =>
      have := decidableClockFrom time rest
      inferInstanceAs (Decidable (now ≤ time ∧ ClockFrom time rest))

/-- The multiplication of the byte count in a check does not overflow. -/
def ShaperCall.CostFits : ShaperCall → Prop
  | .check bytes => bytes * 1000 < 2 ^ 64
  | .updateRtt _ => True

instance : DecidablePred ShaperCall.CostFits
  | .check bytes => inferInstanceAs (Decidable (bytes * 1000 < 2 ^ 64))
  | .updateRtt _ => inferInstanceAs (Decidable True)

theorem ShaperRun.Paid.runAll {M t₁ t₂ now : Nat} {run : ShaperRun}
    (h : run.Paid M t₁ t₂ now) (hM : M < 2 ^ 63)
    {calls : List (Nat × ShaperCall)} (hclock : ClockFrom now calls)
    (hcosts : ∀ call ∈ calls, call.2.CostFits) :
    ∃ final, (run.runAll calls).Paid M t₁ t₂ final := by
  induction calls generalizing run now with
  | nil => exact ⟨now, h⟩
  | cons head rest ih =>
      obtain ⟨time, call⟩ := head
      have hrest : ∀ call ∈ rest, call.2.CostFits := fun call hcall =>
        hcosts call (List.mem_cons_of_mem _ hcall)
      have hstep : (run.step time call).Paid M t₁ t₂ time := by
        cases call with
        | check bytes =>
            exact h.check hclock.1
              (hcosts (time, .check bytes) List.mem_cons_self)
        | updateRtt rtt => exact h.updateRtt hM hclock.1 rtt
      exact ih hstep hclock.2 hrest

theorem ShaperRun.start_paid {mbps : Nat} (hpos : 1 ≤ mbps)
    (hfits : mbps * 1000000 < 2 ^ 64) (t₁ t₂ : Nat) :
    (ShaperRun.start mbps).Paid (AdaptiveShaper.capOf mbps) t₁ t₂ 0 := by
  refine ⟨AdaptiveShaper.new_within hpos hfits, ?_, ?_, ?_⟩
  · exact Nat.le_refl 0
  · simp [ShaperRun.start, admittedIn]
  · intro _
    exact Or.inl rfl

/-- The bandwidth cap: whatever the calls, and however often the rate is
raised and lowered, the bytes admitted in a window stay below one burst at the
cap plus the cap over the window and 100 μs. -/
theorem shaper_window_bound {mbps : Nat} (hpos : 1 ≤ mbps)
    (hfits : mbps * 1000000 < 2 ^ 64) {calls : List (Nat × ShaperCall)}
    (hclock : ClockFrom 0 calls)
    (hcosts : ∀ call ∈ calls, call.2.CostFits) (t₁ t₂ : Nat) :
    admittedIn t₁ t₂ ((ShaperRun.start mbps).runAll calls).log ≤
      AdaptiveShaper.capOf mbps / 10 +
        AdaptiveShaper.capOf mbps * (t₂ - t₁ + 100) / 1000000 := by
  have hcap := AdaptiveShaper.capOf_eq hpos hfits
  have hM : AdaptiveShaper.capOf mbps < 2 ^ 63 := by omega
  obtain ⟨final, hpaid⟩ :=
    (ShaperRun.start_paid hpos hfits t₁ t₂).runAll hM hclock hcosts
  have htotal := hpaid.total
  have hdiv : AdaptiveShaper.capOf mbps * (t₂ - t₁ + 100) / 1000 / 1000 =
      AdaptiveShaper.capOf mbps * (t₂ - t₁ + 100) / 1000000 :=
    Nat.div_div_eq_div_mul _ _ _
  omega

/-- A cap of 1 Mbps whose rate goes down and up again between the checks. -/
theorem shaper_window_bound_rate_changes :
    admittedIn 0 50200 ((ShaperRun.start 1).runAll
      [(0, .updateRtt 1000), (10, .check 12000), (20, .updateRtt 40000),
        (50000, .check 5000), (50100, .updateRtt 1000),
        (50200, .check 6000)]).log ≤
      AdaptiveShaper.capOf 1 / 10 +
        AdaptiveShaper.capOf 1 * (50200 - 0 + 100) / 1000000 :=
  shaper_window_bound (by decide) (by decide) (by decide) (by decide) 0 50200

end Redpill
