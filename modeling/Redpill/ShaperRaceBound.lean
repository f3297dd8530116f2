/-
The bandwidth cap under concurrent calls.  A refill is a claim on an interval
of time, made by the exchange of `last_refill`, and later a deposit, made by
the exchange of the tokens.  No two claims overlap, so what is admitted, what
is in the bucket and what is still to be deposited never exceed the burst plus
the cap over the time claimed.
-/
import Redpill.ShaperConcurrency

namespace Redpill

open Atomic

/-- Every value a thread may load is within the cap. -/
structure AtomicShaper.Tuned (M : Nat) (shaper : AtomicShaper) : Prop where
  maxRate : shaper.maxRate = M
  minRate : shaper.minRate = 125000
  tokens : shaper.tokens.All (· ≤ 1000 * (M / 10))
  rate : shaper.rate.All fun rate => 0 < rate ∧ rate ≤ M
  burst : shaper.burst.All (· ≤ M / 10)
  currentRate : shaper.currentRate.All fun rate => 125000 ≤ rate ∧ rate ≤ M

/-- What a check in flight has read. -/
def CheckPhase.Knows (M now : Nat) : CheckPhase → Prop
  | .loadLast clock => clock ≤ now
  | .claiming clock last => clock ≤ now ∧ last + 100 ≤ clock
  | .loadBurst _ rate => rate ≤ M
  | .loadRefillTokens _ ceiling => ceiling ≤ 1000 * (M / 10)
  | .refilling _ ceiling _ => ceiling ≤ 1000 * (M / 10)
  | _ => True

/-- What an RTT sample in flight is about to store. -/
def RttPhase.Knows (M : Nat) : RttPhase → Prop
  | .storeCurrent rate => 125000 ≤ rate ∧ rate ≤ M
  | .storeRate rate => 125000 ≤ rate ∧ rate ≤ M
  | .storeBurst rate => 125000 ≤ rate ∧ rate ≤ M
  | .clamping ceiling _ => ceiling ≤ 1000 * (M / 10)
  | _ => True

def ShaperThread.Knows (M now : Nat) : ShaperThread → Prop
  | .check _ phase => phase.Knows M now
  | .updateRtt _ phase => phase.Knows M

theorem AtomicShaper.tuned_new {mbps : Nat} (hpos : 1 ≤ mbps)
    (hfits : mbps * 1000000 < 2 ^ 64) :
    (AtomicShaper.new mbps).Tuned (AdaptiveShaper.capOf mbps) := by
  have h := AdaptiveShaper.new_within hpos hfits
  exact {
    maxRate := h.maxRate
    minRate := h.minRate
    tokens := .new h.bucket.full
    rate := .new ⟨h.bucket.limited, h.bucket.rate_le⟩
    burst := .new h.bucket.burst_le
    currentRate := .new ⟨h.minRate_le, h.le_maxRate⟩ }

theorem AtomicShaper.Tuned.adaptedRate {M : Nat} {shaper : AtomicShaper}
    (h : shaper.Tuned M) (hM : M < 2 ^ 63) {current : Nat}
    (hheld : shaper.currentRate.Held current) (qdelay : Nat) :
    125000 ≤ shaper.adaptedRate current qdelay ∧
      shaper.adaptedRate current qdelay ≤ M := by
  obtain ⟨hlow, hhigh⟩ := h.currentRate current hheld
  have hraise : u64Add current (current / 20) = current + current / 20 :=
    Nat.mod_eq_of_lt (by omega)
  simp only [AtomicShaper.adaptedRate, AdaptiveShaper.adaptedRate,
    AtomicShaper.snapshot, h.maxRate, h.minRate, hraise]
  split
  · omega
  · split <;> omega

theorem ceiling_le {M burst : Nat} (hburst : burst ≤ M / 10) :
    u64Mul burst 1000 ≤ 1000 * (M / 10) := by
  have hceiling := u64Mul_le burst 1000
  omega

theorem burstFor_le {M rate : Nat} (hrate : rate ≤ M) :
    burstFor rate ≤ M / 10 := by
  rw [burstFor]
  split
  · exact Nat.div_le_div_right hrate
  · exact Nat.zero_le _

/-- An operation of a check keeps every value within the cap. -/
theorem CheckPhase.Step.tuned {M now bytes : Nat} {shaper : AtomicShaper}
    {phase : CheckPhase} {next : AtomicShaper × CheckPhase}
    (hstep : CheckPhase.Step now bytes shaper phase next)
    (h : shaper.Tuned M) (hphase : phase.Knows M now) :
    next.1.Tuned M ∧ next.2.Knows M now := by
  cases hstep with
  | clock => exact ⟨h, Nat.le_refl now⟩
  | due hdue => exact ⟨h, hphase, by omega⟩
  | claimed hlast => exact ⟨{ h with }, trivial⟩
  | refillRate hheld => exact ⟨h, (h.rate _ hheld).2⟩
  | burst hheld => exact ⟨h, ceiling_le (h.burst _ hheld)⟩
  | refillTokens => exact ⟨h, hphase⟩
  | refillRetry => exact ⟨h, hphase⟩
  | refilled hvalue =>
      refine ⟨{ h with tokens := h.tokens.store ?_ }, trivial⟩
      exact (Nat.min_le_right _ _).trans hphase
  | paid hvalue hcost =>
      have htokens := h.tokens _ shaper.tokens.held_value
      refine ⟨{ h with tokens := h.tokens.store ?_ }, trivial⟩
      omega
  | droppedBytes => exact ⟨{ h with }, trivial⟩
  | droppedPackets => exact ⟨{ h with }, trivial⟩
  | _ => exact ⟨h, trivial⟩

theorem RttPhase.knows_afterClamping {M ceiling : Nat} (loop : Lowering Nat)
    (hceiling : ceiling ≤ 1000 * (M / 10)) :
    (RttPhase.afterClamping ceiling loop).Knows M := by
  cases loop with
  | loading => exact hceiling
  | testing seen => exact hceiling
  | finished => trivial

theorem RttPhase.knows_afterLowering (M : Nat) (loop : Lowering Nat) :
    (RttPhase.afterLowering loop).Knows M := by
  cases loop <;> trivial

/-- So does an operation of an RTT sample, and it adds no tokens. -/
theorem RttPhase.Step.tuned {M rttUs : Nat} {shaper : AtomicShaper}
    {phase : RttPhase} {next : AtomicShaper × RttPhase}
    (hstep : RttPhase.Step rttUs shaper phase next)
    (h : shaper.Tuned M) (hM : M < 2 ^ 63) (hphase : phase.Knows M) :
    next.1.Tuned M ∧ next.2.Knows M ∧
      next.1.tokens.value ≤ shaper.tokens.value ∧
      next.1.lastRefill = shaper.lastRefill := by
  cases hstep with
  | lowered hloop =>
      exact ⟨{ h with }, RttPhase.knows_afterLowering M _, Nat.le_refl _, rfl⟩
  | noBase => exact ⟨h, trivial, Nat.le_refl _, rfl⟩
  | based => exact ⟨h, trivial, Nat.le_refl _, rfl⟩
  | kept => exact ⟨h, trivial, Nat.le_refl _, rfl⟩
  | adapted hheld =>
      exact ⟨h, h.adaptedRate hM hheld _, Nat.le_refl _, rfl⟩
  | storedCurrent =>
      refine ⟨{ h with currentRate := h.currentRate.store hphase }, hphase,
        Nat.le_refl _, rfl⟩
  | @storedRate rate =>
      have hlow : 125000 ≤ rate := hphase.1
      have hrate : 0 < rate ∧ rate ≤ M := ⟨by omega, hphase.2⟩
      exact ⟨{ h with rate := h.rate.store hrate }, hphase,
        Nat.le_refl _, rfl⟩
  | storedBurst =>
      have hburst := burstFor_le hphase.2
      exact ⟨{ h with burst := h.burst.store hburst }, ceiling_le hburst,
        Nat.le_refl _, rfl⟩
  | @clamped ceiling loop after cell choice hloop =>
      have hknows := RttPhase.knows_afterClamping after hphase
      rcases Lowering.step_cases _ hloop with ⟨rfl, _⟩ | ⟨rfl, _⟩ |
        ⟨rfl, _, hlower⟩
      · exact ⟨h, hknows, Nat.le_refl _, rfl⟩
      · exact ⟨h, hknows, Nat.le_refl _, rfl⟩
      · exact ⟨{ h with tokens := h.tokens.store hphase }, hknows,
          Nat.le_of_lt hlower, rfl⟩

/-- The most that a claim can deposit, in millionths of a byte. -/
def depositCap (M : Nat) : Nat := 1000 * (1000 * (M / 10))

/-- What a check in flight may still deposit.  A thread that read the clock
before the window began may yet claim an interval from before it. -/
def CheckPhase.pending (M opening : Nat) : CheckPhase → Nat
  | .loadLast clock => if clock < opening then depositCap M else 0
  | .claiming clock _ => if clock < opening then depositCap M else 0
  | .loadRefillRate elapsed => min (M * elapsed) (depositCap M)
  | .loadBurst elapsed rate => min (rate * elapsed) (depositCap M)
  | .loadRefillTokens add _ => min (1000 * add) (depositCap M)
  | .refilling add _ _ => min (1000 * add) (depositCap M)
  | _ => 0

/-- The bytes that a check has let through. -/
def CheckPhase.admittedBytes (bytes : Nat) : CheckPhase → Nat
  | .returned true => bytes
  | _ => 0

/-- What the claims of a window are worth once `last_refill` has come to
`last`: the first one may reach back to before the window and then is worth a
full deposit, the others tile the time from its beginning. -/
def claimWorth (M opening last : Nat) : Nat :=
  if last < opening then 0 else depositCap M + M * (last - opening)

theorem claimWorth_step (M opening : Nat) {clock last : Nat} (hdue : last ≤ clock) :
    min (M * (clock - last)) (depositCap M) + claimWorth M opening last ≤
      (if clock < opening then depositCap M else 0) +
        claimWorth M opening clock := by
  have hmin := Nat.min_le_left (M * (clock - last)) (depositCap M)
  have hcap := Nat.min_le_right (M * (clock - last)) (depositCap M)
  simp only [claimWorth]
  by_cases hold : last < opening
  · rw [if_pos hold]
    by_cases hclock : clock < opening
    · rw [if_pos hclock, if_pos hclock]
      omega
    · rw [if_neg hclock, if_neg hclock]
      omega
  · have hclock : ¬ clock < opening := by omega
    have htile : M * (clock - last) + M * (last - opening) =
        M * (clock - opening) := by
      rw [← Nat.mul_add]
      congr 1
      omega
    rw [if_neg hold, if_neg hclock, if_neg hclock]
    omega

/-- An operation of a check creates no tokens: what it lets through, leaves in
the bucket and may still deposit was there, or is claimed by it. -/
theorem CheckPhase.Step.conserves {M opening now bytes : Nat}
    {shaper : AtomicShaper} {phase : CheckPhase}
    {next : AtomicShaper × CheckPhase}
    (hstep : CheckPhase.Step now bytes shaper phase next)
    (h : shaper.Tuned M) (hphase : phase.Knows M now)
    (hopening : opening ≤ now) (hcost : bytes * 1000 < 2 ^ 64) :
    1000 * next.1.tokens.value + 1000000 * next.2.admittedBytes bytes +
        next.2.pending M opening +
        claimWorth M opening shaper.lastRefill.value ≤
      1000 * shaper.tokens.value + 1000000 * phase.admittedBytes bytes +
        phase.pending M opening +
        claimWorth M opening next.1.lastRefill.value := by
  cases hstep with
  | unlimited hheld => exact absurd (h.rate 0 hheld).1 (Nat.lt_irrefl 0)
  | clock =>
      have hlate : ¬ now < opening := by omega
      simp [CheckPhase.pending, CheckPhase.admittedBytes, hlate]
  | recent => simp [CheckPhase.pending, CheckPhase.admittedBytes]
  | due hdue => simp [CheckPhase.pending, CheckPhase.admittedBytes]
  | @claimed clock last hlast =>
      have hdue : last ≤ clock := by
        have hknown : last + 100 ≤ clock := hphase.2
        omega
      have hclaim := claimWorth_step M opening hdue
      simp only [CheckPhase.pending, CheckPhase.admittedBytes, hlast,
        Cell.store]
      omega
  | lost => simp [CheckPhase.pending, CheckPhase.admittedBytes]
  | @refillRate elapsed rate hheld =>
      have hrate := Nat.mul_le_mul_right elapsed (h.rate rate hheld).2
      simp only [CheckPhase.pending, CheckPhase.admittedBytes]
      omega
  | @burst elapsed rate burst hheld =>
      have hadd := u64Mul_le rate elapsed
      simp only [CheckPhase.pending, CheckPhase.admittedBytes]
      omega
  | refillTokens => simp [CheckPhase.pending, CheckPhase.admittedBytes]
  | refillRetry => simp [CheckPhase.pending, CheckPhase.admittedBytes]
  | refillNothing =>
      simp [CheckPhase.pending, CheckPhase.admittedBytes]
  | @refilled add ceiling seen hvalue =>
      have hceiling : ceiling ≤ 1000 * (M / 10) := hphase
      have hadd := u64Add_le seen add
      simp only [CheckPhase.pending, CheckPhase.admittedBytes, depositCap,
        Cell.store]
      omega
  | @paid seen hvalue hseen =>
      rw [u64Mul_eq hcost] at hseen
      simp only [CheckPhase.pending, CheckPhase.admittedBytes, Cell.store,
        u64Mul_eq hcost]
      omega
  | _ => simp [CheckPhase.pending, CheckPhase.admittedBytes]

theorem CheckPhase.Step.lastRefill_le {M now bytes : Nat}
    {shaper : AtomicShaper} {phase : CheckPhase}
    {next : AtomicShaper × CheckPhase}
    (hstep : CheckPhase.Step now bytes shaper phase next)
    (hlast : shaper.lastRefill.value ≤ now) (hphase : phase.Knows M now) :
    next.1.lastRefill.value ≤ now := by
  cases hstep with
  | claimed _ => exact hphase.1
  | _ => exact hlast

theorem CheckPhase.Knows.later {M now after : Nat} {phase : CheckPhase}
    (h : phase.Knows M now) (hle : now ≤ after) : phase.Knows M after := by
  cases phase with
  | loadLast clock => exact Nat.le_trans h hle
  | claiming clock last => exact ⟨Nat.le_trans h.1 hle, h.2⟩
  | _ => exact h

theorem ShaperThread.Knows.later {M now after : Nat} {thread : ShaperThread}
    (h : thread.Knows M now) (hle : now ≤ after) : thread.Knows M after := by
  cases thread with
  | check bytes phase => exact CheckPhase.Knows.later h hle
  | updateRtt rttUs phase => exact h

/-- The byte count of a call does not overflow when it is scaled. -/
def ShaperThread.CostFits : ShaperThread → Prop
  | .check bytes _ => bytes * 1000 < 2 ^ 64
  | .updateRtt _ _ => True

def RaceLabel.CostFits : RaceLabel → Prop
  | .check bytes => bytes * 1000 < 2 ^ 64
  | _ => True

instance : DecidablePred RaceLabel.CostFits
  | .check bytes => inferInstanceAs (Decidable (bytes * 1000 < 2 ^ 64))
  | .tick _ => inferInstanceAs (Decidable True)
  | .updateRtt _ => inferInstanceAs (Decidable True)
  | .step _ _ => inferInstanceAs (Decidable True)

def ShaperThread.admittedBytes : ShaperThread → Nat
  | .check bytes phase => phase.admittedBytes bytes
  | .updateRtt _ _ => 0

def ShaperThread.pending (M opening : Nat) : ShaperThread → Nat
  | .check _ phase => phase.pending M opening
  | .updateRtt _ _ => 0

/-- What a call has let through and what it may still deposit. -/
def ShaperThread.charge (M opening : Nat) (thread : ShaperThread) : ℤ :=
  1000000 * thread.admittedBytes + thread.pending M opening

/-- An operation of any call, seen from the bucket. -/
theorem ShaperThread.step_spec {M opening now : Nat} {shaper : AtomicShaper}
    {thread : ShaperThread} {choice : Choice}
    {next : AtomicShaper × ShaperThread}
    (hstep : thread.step now shaper choice = some next)
    (h : shaper.Tuned M) (hM : M < 2 ^ 63)
    (hlast : shaper.lastRefill.value ≤ now) (hknows : thread.Knows M now)
    (hcost : thread.CostFits) (hopening : opening ≤ now) :
    next.1.Tuned M ∧ next.1.lastRefill.value ≤ now ∧
      next.2.Knows M now ∧ next.2.CostFits ∧
      1000 * (next.1.tokens.value : ℤ) + next.2.charge M opening -
          claimWorth M opening next.1.lastRefill.value ≤
        1000 * (shaper.tokens.value : ℤ) + thread.charge M opening -
          claimWorth M opening shaper.lastRefill.value := by
  cases thread with
  | check bytes phase =>
      simp only [ShaperThread.step, Option.map_eq_some_iff, Prod.exists]
        at hstep
      obtain ⟨after, later, hphase, rfl⟩ := hstep
      have hmove := CheckPhase.step_cases hphase
      obtain ⟨htuned, hlater⟩ := hmove.tuned h hknows
      have hconserves := hmove.conserves h hknows hopening hcost
      refine ⟨htuned, hmove.lastRefill_le hlast hknows, hlater, hcost, ?_⟩
      simp only [ShaperThread.charge, ShaperThread.admittedBytes,
        ShaperThread.pending] at hconserves ⊢
      omega
  | updateRtt rttUs phase =>
      simp only [ShaperThread.step, Option.map_eq_some_iff, Prod.exists]
        at hstep
      obtain ⟨after, later, hphase, rfl⟩ := hstep
      obtain ⟨htuned, hlater, htokens, hsame⟩ :=
        (RttPhase.step_cases hphase).tuned h hM hknows
      simp only at htokens hsame
      refine ⟨htuned, ?_, hlater, trivial, ?_⟩
      · rw [hsame]
        exact hlast
      · simp only [ShaperThread.charge, ShaperThread.admittedBytes,
          ShaperThread.pending, hsame]
        omega

namespace ShaperRace

/-- What every state of a race keeps. -/
structure Inv (M : Nat) (race : ShaperRace) : Prop where
  tuned : race.shaper.Tuned M
  past : race.shaper.lastRefill.value ≤ race.now
  knows : ∀ thread ∈ race.threads, thread.Knows M race.now
  costs : ∀ thread ∈ race.threads, thread.CostFits

/-- What is let through, in the bucket and still to be deposited, less what
the claims since `opening` are worth. -/
def charge (M opening : Nat) (race : ShaperRace) : ℤ :=
  1000 * (race.shaper.tokens.value : ℤ) +
    Population.total (ShaperThread.charge M opening) race.threads -
    claimWorth M opening race.shaper.lastRefill.value

theorem Inv.spawn {M : Nat} {race : ShaperRace} (h : race.Inv M)
    (opening : Nat) (thread : ShaperThread) (hknows : thread.Knows M race.now)
    (hcost : thread.CostFits) (hcharge : thread.charge M opening = 0) :
    Inv M { race with threads := race.threads ++ [thread] } ∧
      charge M opening { race with threads := race.threads ++ [thread] } =
        race.charge M opening := by
  refine ⟨⟨h.tuned, h.past, ?_, ?_⟩, ?_⟩
  · intro other hother
    rcases List.mem_append.mp hother with hold | hnew
    · exact h.knows other hold
    · exact List.mem_singleton.mp hnew ▸ hknows
  · intro other hother
    rcases List.mem_append.mp hother with hold | hnew
    · exact h.costs other hold
    · exact List.mem_singleton.mp hnew ▸ hcost
  · simp [charge, hcharge]

/-- A step neither leaves the invariant nor raises the charge. -/
theorem Inv.step {M opening : Nat} {race next : ShaperRace}
    {label : RaceLabel} (h : race.Inv M) (hM : M < 2 ^ 63)
    (hopening : opening ≤ race.now) (hcost : label.CostFits)
    (hstep : race.step label = some next) :
    next.Inv M ∧ race.now ≤ next.now ∧
      next.charge M opening ≤ race.charge M opening := by
  cases label with
  | tick elapsed =>
      simp only [ShaperRace.step, Option.some.injEq] at hstep
      subst hstep
      have hlater : race.now ≤ race.now + elapsed := Nat.le_add_right _ _
      refine ⟨⟨h.tuned, h.past.trans hlater, ?_, h.costs⟩, hlater, le_refl _⟩
      exact fun thread hthread => (h.knows thread hthread).later hlater
  | check bytes =>
      simp only [ShaperRace.step, Option.some.injEq] at hstep
      subst hstep
      obtain ⟨hinv, hcharge⟩ := h.spawn opening (.startCheck bytes)
        trivial hcost rfl
      exact ⟨hinv, Nat.le_refl _, hcharge.le⟩
  | updateRtt rtt =>
      simp only [ShaperRace.step, Option.some.injEq] at hstep
      subst hstep
      have hknows : (ShaperThread.startUpdateRtt race.shaper rtt).Knows M
          race.now := by
        simp only [ShaperThread.startUpdateRtt, ShaperThread.Knows]
        split <;> trivial
      obtain ⟨hinv, hcharge⟩ := h.spawn opening _ hknows trivial rfl
      exact ⟨hinv, Nat.le_refl _, hcharge.le⟩
  | step index choice =>
      cases hthread : race.threads[index]? with
      | none => simp [ShaperRace.step, hthread] at hstep
      | some thread =>
          simp only [ShaperRace.step, hthread, Option.map_eq_some_iff,
            Prod.exists] at hstep
          obtain ⟨shaper, after, hmove, rfl⟩ := hstep
          have hmem := List.mem_of_getElem? hthread
          obtain ⟨htuned, hlast, hknows, hcosts, hcharge⟩ :=
            ShaperThread.step_spec hmove h.tuned hM h.past
              (h.knows thread hmem) (h.costs thread hmem) hopening
          refine ⟨⟨htuned, hlast, ?_, ?_⟩, Nat.le_refl _, ?_⟩
          · intro other hother
            rcases List.mem_or_eq_of_mem_set hother with hold | rfl
            · exact h.knows other hold
            · exact hknows
          · intro other hother
            rcases List.mem_or_eq_of_mem_set hother with hold | rfl
            · exact h.costs other hold
            · exact hcosts
          · simp only [charge, Population.total_set _ hthread] at hcharge ⊢
            omega

theorem inv_start {mbps : Nat} (hpos : 1 ≤ mbps)
    (hfits : mbps * 1000000 < 2 ^ 64) :
    (start mbps).Inv (AdaptiveShaper.capOf mbps) where
  tuned := AtomicShaper.tuned_new hpos hfits
  past := Nat.le_refl 0
  knows := List.forall_mem_nil _
  costs := List.forall_mem_nil _

/-- The rule for whole runs. -/
theorem Inv.run {M opening : Nat} {race final : ShaperRace}
    {schedule : List RaceLabel} (h : race.Inv M) (hM : M < 2 ^ 63)
    (hopening : opening ≤ race.now)
    (hcosts : ∀ label ∈ schedule, label.CostFits)
    (hrun : Machine.run ShaperRace.step race schedule = some final) :
    final.Inv M ∧ race.now ≤ final.now ∧
      final.charge M opening ≤ race.charge M opening := by
  induction schedule generalizing race with
  | nil =>
      rw [Machine.run_nil, Option.some.injEq] at hrun
      exact hrun ▸ ⟨h, Nat.le_refl _, le_refl _⟩
  | cons label rest ih =>
      obtain ⟨next, hnext, htail⟩ :=
        (Machine.run_cons_eq_some ShaperRace.step).mp hrun
      obtain ⟨hlabel, hrest⟩ := List.forall_mem_cons.mp hcosts
      obtain ⟨hinv, hlater, hcharge⟩ := h.step hM hopening hlabel hnext
      obtain ⟨hfinal, hlast, htotal⟩ :=
        ih hinv (hopening.trans hlater) hrest htail
      exact ⟨hfinal, hlater.trans hlast, htotal.trans hcharge⟩

/-- The bytes of all checks that were admitted. -/
def admittedBytes (race : ShaperRace) : Nat :=
  (race.threads.map ShaperThread.admittedBytes).sum

end ShaperRace

/-- Whether a call is inside `refill`, past its reading of the clock. -/
def ShaperThread.isRefilling : ShaperThread → Bool
  | .check _ (.loadLast _) => true
  | .check _ (.claiming _ _) => true
  | .check _ (.loadRefillRate _) => true
  | .check _ (.loadBurst _ _) => true
  | .check _ (.loadRefillTokens _ _) => true
  | .check _ (.refilling _ _ _) => true
  | _ => false

theorem ShaperThread.pending_le (M opening : Nat) (thread : ShaperThread) :
    thread.pending M opening ≤
      if thread.isRefilling then depositCap M else 0 := by
  cases thread with
  | check bytes phase =>
      cases phase <;> simp [pending, CheckPhase.pending, isRefilling]
      · split <;> simp
      · split <;> simp
  | updateRtt rttUs phase => simp [pending, isRefilling]

namespace ShaperRace

/-- How many calls are inside `refill`. -/
def refilling (race : ShaperRace) : Nat :=
  race.threads.countP ShaperThread.isRefilling

theorem total_charge (M opening : Nat) (threads : List ShaperThread) :
    Population.total (ShaperThread.charge M opening) threads =
      1000000 * ((threads.map ShaperThread.admittedBytes).sum : ℤ) +
        ((threads.map (ShaperThread.pending M opening)).sum : ℤ) := by
  induction threads with
  | nil => rfl
  | cons head tail ih =>
      simp only [Population.total, List.map_cons, List.sum_cons] at ih ⊢
      rw [ih, ShaperThread.charge]
      push_cast
      ring

theorem pending_sum_le (M opening : Nat) (threads : List ShaperThread) :
    (threads.map (ShaperThread.pending M opening)).sum ≤
      threads.countP ShaperThread.isRefilling * depositCap M := by
  induction threads with
  | nil => simp
  | cons head tail ih =>
      have hhead := head.pending_le M opening
      rw [List.map_cons, List.sum_cons, List.countP_cons, Nat.add_mul]
      by_cases hrefilling : head.isRefilling
      · rw [if_pos hrefilling] at hhead
        rw [if_pos hrefilling, Nat.one_mul]
        omega
      · rw [if_neg hrefilling] at hhead
        rw [if_neg hrefilling, Nat.zero_mul]
        omega

/-- What the claims of a window are worth when it closes. -/
theorem claimWorth_le (M first : Nat) {opening closing last : Nat}
    (hlast : last ≤ closing) (hopening : opening ≤ closing) :
    claimWorth M opening last ≤ claimWorth M opening first +
      (if first < opening then depositCap M else 0) +
        M * (closing - opening) := by
  have hmono : M * (last - opening) ≤ M * (closing - opening) :=
    Nat.mul_le_mul_left M (by omega)
  simp only [claimWorth]
  split <;> split <;> omega

end ShaperRace

/-- The bandwidth cap holds whatever the calls do to each other: from any state
that a race reaches to any later one, the bytes admitted stay below the cap
over the time between them plus one burst for the tokens in the bucket, one
for the time since the last refill and one for each refill in flight. -/
theorem concurrent_window_bound {mbps : Nat} (hpos : 1 ≤ mbps)
    (hfits : mbps * 1000000 < 2 ^ 64) (before during : List RaceLabel)
    {opening closing : ShaperRace}
    (hbefore : Machine.run ShaperRace.step (ShaperRace.start mbps) before =
      some opening)
    (hduring : Machine.run ShaperRace.step opening during = some closing)
    (hcosts : ∀ label ∈ before ++ during, label.CostFits) :
    closing.admittedBytes ≤ opening.admittedBytes +
      (opening.refilling +
        if opening.shaper.lastRefill.value < opening.now then 2 else 1) *
          (AdaptiveShaper.capOf mbps / 10) +
      AdaptiveShaper.capOf mbps * (closing.now - opening.now) / 1000000 := by
  have hcap := AdaptiveShaper.capOf_eq hpos hfits
  have hM : AdaptiveShaper.capOf mbps < 2 ^ 63 := by omega
  rw [List.forall_mem_append] at hcosts
  obtain ⟨hinv, _, _⟩ := (ShaperRace.inv_start hpos hfits).run hM
    (Nat.zero_le _) hcosts.1 hbefore
  generalize AdaptiveShaper.capOf mbps = M at *
  obtain ⟨hfinal, hlater, hcharge⟩ := hinv.run hM (Nat.le_refl _) hcosts.2
    hduring
  have htokens := hinv.tuned.tokens _ opening.shaper.tokens.held_value
  have hpending := ShaperRace.pending_sum_le M opening.now opening.threads
  have hworth := ShaperRace.claimWorth_le M opening.shaper.lastRefill.value
    hfinal.past hlater
  simp only [ShaperRace.charge, ShaperRace.total_charge] at hcharge
  simp only [ShaperRace.admittedBytes, ShaperRace.refilling, depositCap]
    at hpending hworth ⊢
  generalize opening.threads.countP ShaperThread.isRefilling = count
    at hpending ⊢
  have hscale : count * (1000 * (1000 * (M / 10))) =
      1000000 * (count * (M / 10)) := by ring
  rw [hscale] at hpending
  rw [Nat.add_mul]
  generalize count * (M / 10) = inFlight at hpending ⊢
  generalize M * (closing.now - opening.now) = elapsed at hworth ⊢
  split
  · rename_i hidle
    rw [if_pos hidle] at hworth
    omega
  · rename_i hfresh
    rw [if_neg hfresh] at hworth
    omega

/-- A check has claimed 20 ms but not yet deposited them when the window
opens. -/
def lateDeposit : List RaceLabel :=
  [.check 12000, .step 0 (.read 0), .step 0 .write, .step 0 (.read 0),
    .step 0 (.read 0), .step 0 .write,
    .tick 20000, .check 3000, .step 1 (.read 0), .step 1 .write,
    .step 1 (.read 0), .step 1 .write]

/-- In the window a second check claims 30 ms more; it deposits first, and the
other one's exchange fails twice, once with a stale value. -/
def contendedWindow : List RaceLabel :=
  [.tick 30000, .check 2000, .step 2 (.read 0), .step 2 .write,
    .step 2 (.read 0), .step 2 .write, .step 2 (.read 0), .step 1 (.read 0),
    .step 2 (.read 0), .step 1 (.read 0), .step 2 (.read 0),
    .step 1 (.read 0), .step 2 .write, .step 1 (.read 1), .step 1 (.read 0),
    .step 1 .write, .step 1 (.read 0), .step 2 (.read 0), .step 2 .write,
    .step 1 (.read 0), .step 1 .write]

theorem concurrent_window_bound_contended :
    ∃ opening closing : ShaperRace,
      Machine.run ShaperRace.step (ShaperRace.start 1) lateDeposit =
        some opening ∧
      Machine.run ShaperRace.step opening contendedWindow = some closing ∧
      opening.admittedBytes = 12000 ∧ closing.admittedBytes = 17000 ∧
      closing.admittedBytes ≤ opening.admittedBytes +
        (opening.refilling +
          if opening.shaper.lastRefill.value < opening.now then 2 else 1) *
            (AdaptiveShaper.capOf 1 / 10) +
        AdaptiveShaper.capOf 1 * (closing.now - opening.now) / 1000000 :=
  ⟨_, _, rfl, rfl, rfl, rfl, concurrent_window_bound (by decide) (by decide)
    lateDeposit contendedWindow rfl rfl (by decide)⟩

end Redpill
