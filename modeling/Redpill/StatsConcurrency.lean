/-
The traffic counters under concurrent calls (`stats.rs`).  Any number of tasks
record packets at once; every atomic operation of a call is a step of its own,
loads may be stale and weak exchanges may fail for no reason.  Once the calls
have returned, the counters are those of the same calls made one at a time.
-/
import Redpill.Atomic
import Redpill.DaemonStatus
import Redpill.Machine
import Redpill.Population

namespace Redpill

open Atomic

/-- The counters that are only ever added to. -/
inductive Counter where
  | datagramsSent
  | datagramsRecv
  | datagramsBlocked
  | datagramsTooLarge
  | bytesSent
  | bytesRecv
  | spoofed
  | datagramsWaitTimeouts
  | dgSizeSum
deriving Repr, DecidableEq

structure AtomicStats where
  counters : Counter → Cell Nat
  dgSizeMin : Cell Nat
  dgSizeMax : Cell Nat

def AtomicStats.new : AtomicStats :=
  ⟨fun _ => Cell.new 0, Cell.new (2 ^ 64 - 1), Cell.new 0⟩

def AtomicStats.add (stats : AtomicStats) (counter : Counter) (amount : Nat) :
    AtomicStats :=
  let cell := stats.counters counter
  { stats with
    counters := Function.update stats.counters counter
      (cell.store (fetchAdd cell.value amount)) }

/-- The newest values, as the sequential model has them. -/
def AtomicStats.snapshot (stats : AtomicStats) : Stats where
  datagramsSent := (stats.counters .datagramsSent).value
  datagramsRecv := (stats.counters .datagramsRecv).value
  datagramsBlocked := (stats.counters .datagramsBlocked).value
  datagramsTooLarge := (stats.counters .datagramsTooLarge).value
  bytesSent := (stats.counters .bytesSent).value
  bytesRecv := (stats.counters .bytesRecv).value
  dgSizeMin := stats.dgSizeMin.value
  dgSizeMax := stats.dgSizeMax.value
  dgSizeSum := (stats.counters .dgSizeSum).value

inductive StatsCall where
  | recordSend (size : Nat)
  | recordRecv (size : Nat)
  | recordBlocked
  | recordTooLarge
  | recordSpoofed
  | recordWaitTimeout
deriving Repr, DecidableEq

/-- Where a call is: in its `fetch_add`s, in one of the two loops of
`update_dg_size`, or back. -/
inductive StatsPhase where
  | adding (counter : Counter) (amount : Nat) (rest : List (Counter × Nat))
  | lowering (size : Nat) (thread : Lowering Nat)
  | raising (size : Nat) (thread : Lowering Nat)
  | returned
deriving Repr, DecidableEq

namespace StatsCall

/-- The `fetch_add`s of a call, in order. -/
def adds : StatsCall → List (Counter × Nat)
  | .recordSend size =>
      [(.datagramsSent, 1), (.bytesSent, size), (.dgSizeSum, size)]
  | .recordRecv size => [(.datagramsRecv, 1), (.bytesRecv, size)]
  | .recordBlocked => [(.datagramsBlocked, 1)]
  | .recordTooLarge => [(.datagramsTooLarge, 1)]
  | .recordSpoofed => [(.spoofed, 1)]
  | .recordWaitTimeout => [(.datagramsWaitTimeouts, 1)]

/-- What follows the `fetch_add`s. -/
def tail : StatsCall → StatsPhase
  | .recordSend size => .lowering size .loading
  | .recordRecv _ => .returned
  | .recordBlocked => .returned
  | .recordTooLarge => .returned
  | .recordSpoofed => .returned
  | .recordWaitTimeout => .returned

def sizes : StatsCall → List Nat
  | .recordSend size => [size]
  | .recordRecv _ => []
  | .recordBlocked => []
  | .recordTooLarge => []
  | .recordSpoofed => []
  | .recordWaitTimeout => []

/-- The call made at once, as the sequential model has it; it knows nothing of
the last two counters. -/
def apply (stats : Stats) : StatsCall → Stats
  | .recordSend size => stats.recordSend size
  | .recordRecv size => stats.recordRecv size
  | .recordBlocked => stats.recordBlocked
  | .recordTooLarge => stats.recordTooLarge
  | .recordSpoofed => stats
  | .recordWaitTimeout => stats

/-- The call as it goes on with these `fetch_add`s still to do. -/
def resume (call : StatsCall) : List (Counter × Nat) → StatsPhase
  | [] => call.tail
  | (counter, amount) :: rest => .adding counter amount rest

end StatsCall

structure StatsThread where
  call : StatsCall
  phase : StatsPhase
deriving Repr, DecidableEq

def StatsThread.start (call : StatsCall) : StatsThread :=
  ⟨call, call.resume call.adds⟩

/-- The phase after a step of the lowering loop. -/
def lowered (size : Nat) : Lowering Nat → StatsPhase
  | .loading => .lowering size .loading
  | .testing seen => .lowering size (.testing seen)
  | .finished => .raising size .loading

/-- The phase after a step of the raising loop. -/
def raised (size : Nat) : Lowering Nat → StatsPhase
  | .loading => .raising size .loading
  | .testing seen => .raising size (.testing seen)
  | .finished => .returned

/-- One atomic operation of a call. -/
def StatsThread.step (stats : AtomicStats) (thread : StatsThread)
    (choice : Choice) : Option (AtomicStats × StatsThread) :=
  match thread.phase, choice with
  | .adding counter amount rest, .write =>
      some (stats.add counter amount,
        { thread with phase := thread.call.resume rest })
  | .lowering size loop, choice =>
      (loop.step (· < ·) size stats.dgSizeMin choice).map fun after =>
        ({ stats with dgSizeMin := after.1 },
          { thread with phase := lowered size after.2 })
  | .raising size loop, choice =>
      (loop.step (· > ·) size stats.dgSizeMax choice).map fun after =>
        ({ stats with dgSizeMax := after.1 },
          { thread with phase := raised size after.2 })
  | .adding _ _ _, .read _ => none
  | .returned, _ => none

structure StatsRun where
  stats : AtomicStats
  threads : List StatsThread

inductive StatsLabel where
  | call (call : StatsCall)
  | step (index : Nat) (choice : Choice)
deriving Repr, DecidableEq

def StatsRun.start : StatsRun := ⟨AtomicStats.new, []⟩

def StatsRun.step (run : StatsRun) : StatsLabel → Option StatsRun
  | .call call =>
      some { run with threads := run.threads ++ [StatsThread.start call] }
  | .step index choice =>
      match run.threads[index]? with
      | none => none
      | some thread =>
          (thread.step run.stats choice).map fun after =>
            ⟨after.1, run.threads.set index after.2⟩

/-- What a thread's step can do. -/
inductive StatsThread.Step (stats : AtomicStats) (thread : StatsThread) :
    AtomicStats × StatsThread → Prop
  | added {counter : Counter} {amount : Nat} {rest : List (Counter × Nat)}
      (hphase : thread.phase = .adding counter amount rest) :
      Step stats thread (stats.add counter amount,
        { thread with phase := thread.call.resume rest })
  | lowered {size : Nat} {loop after : Lowering Nat} {choice : Choice}
      {cell : Cell Nat} (hphase : thread.phase = .lowering size loop)
      (hloop : loop.step (· < ·) size stats.dgSizeMin choice =
        some (cell, after)) :
      Step stats thread ({ stats with dgSizeMin := cell },
        { thread with phase := Redpill.lowered size after })
  | raised {size : Nat} {loop after : Lowering Nat} {choice : Choice}
      {cell : Cell Nat} (hphase : thread.phase = .raising size loop)
      (hloop : loop.step (· > ·) size stats.dgSizeMax choice =
        some (cell, after)) :
      Step stats thread ({ stats with dgSizeMax := cell },
        { thread with phase := Redpill.raised size after })

theorem StatsThread.step_cases {stats : AtomicStats} {thread : StatsThread}
    {choice : Choice} {next : AtomicStats × StatsThread}
    (hstep : thread.step stats choice = some next) :
    StatsThread.Step stats thread next := by
  obtain ⟨call, phase⟩ := thread
  cases phase with
  | adding counter amount rest =>
      cases choice with
      | write =>
          simp only [step, Option.some.injEq] at hstep
          exact hstep ▸ .added rfl
      | read age => simp [step] at hstep
  | lowering size loop =>
      simp only [step, Option.map_eq_some_iff, Prod.exists] at hstep
      obtain ⟨cell, after, hloop, rfl⟩ := hstep
      exact .lowered rfl hloop
  | raising size loop =>
      simp only [step, Option.map_eq_some_iff, Prod.exists] at hstep
      obtain ⟨cell, after, hloop, rfl⟩ := hstep
      exact .raised rfl hloop
  | returned => simp [step] at hstep

theorem StatsRun.step_cases {run next : StatsRun} {label : StatsLabel}
    (hstep : run.step label = some next) :
    (∃ call, next =
      { run with threads := run.threads ++ [StatsThread.start call] }) ∨
    ∃ index thread after, run.threads[index]? = some thread ∧
      StatsThread.Step run.stats thread (next.stats, after) ∧
      next.threads = run.threads.set index after := by
  cases label with
  | call call =>
      simp only [step, Option.some.injEq] at hstep
      exact Or.inl ⟨call, hstep.symm⟩
  | step index choice =>
      cases hthread : run.threads[index]? with
      | none => simp [step, hthread] at hstep
      | some thread =>
          simp only [step, hthread, Option.map_eq_some_iff] at hstep
          obtain ⟨after, hafter, rfl⟩ := hstep
          exact Or.inr ⟨index, thread, after.2, hthread,
            StatsThread.step_cases hafter, rfl⟩

/-- The sum of the amounts for one counter. -/
def amountIn (counter : Counter) : List (Counter × Nat) → Nat
  | [] => 0
  | (other, amount) :: rest =>
      (if other = counter then amount else 0) + amountIn counter rest

/-- What a call in this phase has still to add. -/
def StatsPhase.owed (counter : Counter) : StatsPhase → Nat
  | .adding other amount rest => amountIn counter ((other, amount) :: rest)
  | .lowering _ _ => 0
  | .raising _ _ => 0
  | .returned => 0

/-- What a call has added so far. -/
def StatsThread.added (counter : Counter) (thread : StatsThread) : ℤ :=
  amountIn counter thread.call.adds - thread.phase.owed counter

theorem owed_resume (counter : Counter) (call : StatsCall)
    (rest : List (Counter × Nat)) :
    (call.resume rest).owed counter = amountIn counter rest := by
  cases rest with
  | nil => cases call <;> rfl
  | cons head rest => rfl

theorem added_start (counter : Counter) (call : StatsCall) :
    (StatsThread.start call).added counter = 0 := by
  simp [StatsThread.added, StatsThread.start, owed_resume]

theorem owed_lowered (counter : Counter) (size : Nat) (loop : Lowering Nat) :
    (lowered size loop).owed counter = 0 := by
  cases loop <;> rfl

theorem owed_raised (counter : Counter) (size : Nat) (loop : Lowering Nat) :
    (raised size loop).owed counter = 0 := by
  cases loop <;> rfl

/-- Every counter is the sum, modulo 2⁶⁴, of what the calls have added. -/
def StatsRun.Summed (run : StatsRun) : Prop :=
  ∀ counter, ((run.stats.counters counter).value : ℤ) =
    Population.total (StatsThread.added counter) run.threads % 2 ^ 64

theorem StatsRun.Summed.call {run : StatsRun} (h : run.Summed)
    (call : StatsCall) :
    StatsRun.Summed
      { run with threads := run.threads ++ [StatsThread.start call] } := by
  intro counter
  rw [Population.total_append_singleton, added_start, add_zero]
  exact h counter

theorem StatsRun.Summed.advance {run next : StatsRun} (h : run.Summed)
    {index : Nat} {thread after : StatsThread}
    (hthread : run.threads[index]? = some thread)
    (hstep : StatsThread.Step run.stats thread (next.stats, after))
    (hthreads : next.threads = run.threads.set index after) : next.Summed := by
  intro counter
  rw [hthreads, Population.total_set _ hthread]
  have hold := h counter
  generalize Population.total (StatsThread.added counter) run.threads = total
    at hold ⊢
  obtain ⟨stats, threads⟩ := next
  cases hstep with
  | @added other amount rest hphase =>
      simp only [StatsThread.added, owed_resume, hphase]
      simp only [StatsPhase.owed, amountIn, Function.update_apply]
      by_cases heq : counter = other
      · subst heq
        simp only [↓reduceIte, Cell.store, fetchAdd]
        omega
      · simp only [heq, Ne.symm heq, ↓reduceIte]
        omega
  | lowered hphase hloop =>
      simp only [StatsThread.added, owed_lowered, hphase]
      simp only [StatsPhase.owed]
      omega
  | raised hphase hloop =>
      simp only [StatsThread.added, owed_raised, hphase]
      simp only [StatsPhase.owed]
      omega

/-- What a thread knows of the extremal cells: a loop that is over has left
its size between them. -/
def StatsThread.Settled (stats : AtomicStats) (thread : StatsThread) : Prop :=
  match thread.phase with
  | .adding _ _ _ => True
  | .lowering size loop =>
      thread.call.sizes = [size] ∧ loop.Settled (· < ·) size stats.dgSizeMin
  | .raising size loop =>
      thread.call.sizes = [size] ∧ ¬ size < stats.dgSizeMin.value ∧
        loop.Settled (· > ·) size stats.dgSizeMax
  | .returned => ∀ size ∈ thread.call.sizes,
      ¬ size < stats.dgSizeMin.value ∧ ¬ size > stats.dgSizeMax.value

theorem StatsThread.settled_resume (stats : AtomicStats) (call : StatsCall)
    (rest : List (Counter × Nat)) :
    StatsThread.Settled stats ⟨call, call.resume rest⟩ := by
  cases rest with
  | nil =>
      cases call with
      | recordSend size =>
          exact ⟨rfl, trivial, fun hfinished => by cases hfinished⟩
      | recordRecv size => exact List.forall_mem_nil _
      | recordBlocked => exact List.forall_mem_nil _
      | recordTooLarge => exact List.forall_mem_nil _
      | recordSpoofed => exact List.forall_mem_nil _
      | recordWaitTimeout => exact List.forall_mem_nil _
  | cons head rest => trivial

theorem StatsThread.settled_lowered {stats : AtomicStats} {call : StatsCall}
    {size : Nat} {loop : Lowering Nat} (hsizes : call.sizes = [size])
    (hloop : loop.Settled (· < ·) size stats.dgSizeMin) :
    StatsThread.Settled stats ⟨call, lowered size loop⟩ := by
  cases loop with
  | loading => exact ⟨hsizes, hloop⟩
  | testing seen => exact ⟨hsizes, hloop⟩
  | finished =>
      exact ⟨hsizes, hloop.2 rfl, trivial, fun hfinished => by cases hfinished⟩

theorem StatsThread.settled_raised {stats : AtomicStats} {call : StatsCall}
    {size : Nat} {loop : Lowering Nat} (hsizes : call.sizes = [size])
    (hmin : ¬ size < stats.dgSizeMin.value)
    (hloop : loop.Settled (· > ·) size stats.dgSizeMax) :
    StatsThread.Settled stats ⟨call, raised size loop⟩ := by
  cases loop with
  | loading => exact ⟨hsizes, hmin, hloop⟩
  | testing seen => exact ⟨hsizes, hmin, hloop⟩
  | finished =>
      intro other hother
      rw [hsizes, List.mem_singleton] at hother
      subst hother
      exact ⟨hmin, hloop.2 rfl⟩

/-- The cells of the extrema between two steps. -/
structure AtomicStats.Ordered (stats : AtomicStats) : Prop where
  min : Cell.Descending (· < ·) stats.dgSizeMin
  max : Cell.Descending (· > ·) stats.dgSizeMax

theorem StatsThread.Step.ordered {stats : AtomicStats} {thread : StatsThread}
    {next : AtomicStats × StatsThread}
    (hstep : StatsThread.Step stats thread next) (h : stats.Ordered) :
    next.1.Ordered := by
  cases hstep with
  | added hphase => exact ⟨h.min, h.max⟩
  | lowered hphase hloop => exact ⟨Lowering.step_descending h.min hloop, h.max⟩
  | raised hphase hloop => exact ⟨h.min, Lowering.step_descending h.max hloop⟩

theorem StatsThread.Step.settled {stats : AtomicStats} {thread : StatsThread}
    {next : AtomicStats × StatsThread}
    (hstep : StatsThread.Step stats thread next) (h : stats.Ordered)
    (hthread : thread.Settled stats) : next.2.Settled next.1 := by
  cases hstep with
  | added hphase => exact StatsThread.settled_resume _ _ _
  | lowered hphase hloop =>
      simp only [StatsThread.Settled, hphase] at hthread
      exact StatsThread.settled_lowered hthread.1
        (hthread.2.step h.min hloop)
  | raised hphase hloop =>
      simp only [StatsThread.Settled, hphase] at hthread
      exact StatsThread.settled_raised hthread.1 hthread.2.1
        (hthread.2.2.step h.max hloop)

/-- A thread that does not move stays settled. -/
theorem StatsThread.Step.settled_other {stats : AtomicStats}
    {thread other : StatsThread} {next : AtomicStats × StatsThread}
    (hstep : StatsThread.Step stats thread next)
    (hother : other.Settled stats) : other.Settled next.1 := by
  obtain ⟨call, phase⟩ := other
  cases hstep with
  | added hphase => cases phase <;> exact hother
  | lowered hphase hloop =>
      cases phase with
      | adding counter amount rest => trivial
      | lowering size loop => exact ⟨hother.1, hother.2.other hloop⟩
      | raising size loop =>
          exact ⟨hother.1, Lowering.step_bound hother.2.1 hloop, hother.2.2⟩
      | returned =>
          intro size hsize
          have hbounds := hother size hsize
          exact ⟨Lowering.step_bound hbounds.1 hloop, hbounds.2⟩
  | raised hphase hloop =>
      cases phase with
      | adding counter amount rest => trivial
      | lowering size loop => exact hother
      | raising size loop =>
          exact ⟨hother.1, hother.2.1, hother.2.2.other hloop⟩
      | returned =>
          intro size hsize
          have hbounds := hother size hsize
          exact ⟨hbounds.1, Lowering.step_bound hbounds.2 hloop⟩

/-- The calls made so far, returned or not. -/
def StatsRun.calls (run : StatsRun) : List StatsCall :=
  run.threads.map StatsThread.call

/-- The sizes of the packets whose sends are among these calls. -/
def sentSizes (calls : List StatsCall) : List Nat :=
  calls.flatMap StatsCall.sizes

theorem StatsThread.Step.call_eq {stats : AtomicStats} {thread : StatsThread}
    {next : AtomicStats × StatsThread}
    (hstep : StatsThread.Step stats thread next) :
    next.2.call = thread.call := by
  cases hstep <;> rfl

theorem StatsRun.calls_advance {run next : StatsRun} {index : Nat}
    {thread after : StatsThread}
    (hthread : run.threads[index]? = some thread)
    (hstep : StatsThread.Step run.stats thread (next.stats, after))
    (hthreads : next.threads = run.threads.set index after) :
    next.calls = run.calls := by
  have hcall : (run.threads.map StatsThread.call)[index]? =
      some after.call := by
    rw [List.getElem?_map, hthread, Option.map_some]
    exact congrArg some hstep.call_eq.symm
  rw [StatsRun.calls, StatsRun.calls, hthreads, List.map_set]
  obtain ⟨hlt, hget⟩ := List.getElem?_eq_some_iff.mp hcall
  rw [← hget]
  exact List.set_getElem_self hlt

/-- The invariant of the extrema. -/
structure StatsRun.Bounded (run : StatsRun) : Prop where
  ordered : run.stats.Ordered
  settled : ∀ thread ∈ run.threads, thread.Settled run.stats
  min_start : ¬ 2 ^ 64 - 1 < run.stats.dgSizeMin.value
  min_from : run.stats.dgSizeMin.value = 2 ^ 64 - 1 ∨
    run.stats.dgSizeMin.value ∈ sentSizes run.calls
  max_from : run.stats.dgSizeMax.value = 0 ∨
    run.stats.dgSizeMax.value ∈ sentSizes run.calls

theorem StatsRun.Bounded.call {run : StatsRun} (h : run.Bounded)
    (call : StatsCall) :
    StatsRun.Bounded
      { run with threads := run.threads ++ [StatsThread.start call] } where
  ordered := h.ordered
  settled := by
    intro thread hthread
    rcases List.mem_append.mp hthread with hold | hnew
    · exact h.settled thread hold
    · rw [List.mem_singleton.mp hnew]
      exact StatsThread.settled_resume _ _ _
  min_start := h.min_start
  min_from := by
    refine h.min_from.imp_right fun hmem => ?_
    simp only [StatsRun.calls, sentSizes, List.map_append, List.flatMap_append,
      List.mem_append]
    exact Or.inl hmem
  max_from := by
    refine h.max_from.imp_right fun hmem => ?_
    simp only [StatsRun.calls, sentSizes, List.map_append, List.flatMap_append,
      List.mem_append]
    exact Or.inl hmem

/-- A size that a thread writes into a cell is that of its own packet. -/
theorem mem_sentSizes {run : StatsRun} {thread : StatsThread}
    (hmem : thread ∈ run.threads) {size : Nat}
    (hsizes : thread.call.sizes = [size]) : size ∈ sentSizes run.calls := by
  refine List.mem_flatMap.mpr
    ⟨thread.call, List.mem_map_of_mem hmem, ?_⟩
  rw [hsizes]
  exact List.mem_singleton_self size

theorem StatsRun.Bounded.advance {run next : StatsRun} (h : run.Bounded)
    {index : Nat} {thread after : StatsThread}
    (hthread : run.threads[index]? = some thread)
    (hstep : StatsThread.Step run.stats thread (next.stats, after))
    (hthreads : next.threads = run.threads.set index after) :
    next.Bounded := by
  have hmem := List.mem_of_getElem? hthread
  have hsettled := h.settled thread hmem
  have hcalls := StatsRun.calls_advance hthread hstep hthreads
  refine ⟨hstep.ordered h.ordered, ?_, ?_, ?_, ?_⟩
  · intro other hother
    rw [hthreads] at hother
    rcases List.mem_or_eq_of_mem_set hother with hold | rfl
    · exact hstep.settled_other (h.settled other hold)
    · exact hstep.settled h.ordered hsettled
  · obtain ⟨stats, threads⟩ := next
    cases hstep with
    | added hphase => exact h.min_start
    | lowered hphase hloop => exact Lowering.step_bound h.min_start hloop
    | raised hphase hloop => exact h.min_start
  · rw [hcalls]
    obtain ⟨stats, threads⟩ := next
    cases hstep with
    | added hphase => exact h.min_from
    | lowered hphase hloop =>
        simp only [StatsThread.Settled, hphase] at hsettled
        rcases Lowering.step_value hloop with hsame | hnew
        · rw [hsame]
          exact h.min_from
        · rw [hnew]
          exact Or.inr (mem_sentSizes hmem hsettled.1)
    | raised hphase hloop => exact h.min_from
  · rw [hcalls]
    obtain ⟨stats, threads⟩ := next
    cases hstep with
    | added hphase => exact h.max_from
    | lowered hphase hloop => exact h.max_from
    | raised hphase hloop =>
        simp only [StatsThread.Settled, hphase] at hsettled
        rcases Lowering.step_value hloop with hsame | hnew
        · rw [hsame]
          exact h.max_from
        · rw [hnew]
          exact Or.inr (mem_sentSizes hmem hsettled.1)

/-- What every run of concurrent calls keeps. -/
def StatsRun.Inv (run : StatsRun) : Prop :=
  run.Summed ∧ run.Bounded

theorem StatsRun.inv_start : StatsRun.start.Inv := by
  refine ⟨fun counter => rfl, ⟨?_, ?_⟩, ?_, ?_, Or.inl rfl, Or.inl rfl⟩
  · exact Cell.descending_new _
  · exact Cell.descending_new _
  · exact List.forall_mem_nil _
  · exact Nat.lt_irrefl _

theorem StatsRun.Inv.step {run next : StatsRun} {label : StatsLabel}
    (h : run.Inv) (hstep : run.step label = some next) : next.Inv := by
  rcases StatsRun.step_cases hstep with
    ⟨call, rfl⟩ | ⟨index, thread, after, hthread, hmove, hthreads⟩
  · exact ⟨h.1.call call, h.2.call call⟩
  · exact ⟨h.1.advance hthread hmove hthreads,
      h.2.advance hthread hmove hthreads⟩

theorem StatsRun.inv_of_reachable {run : StatsRun}
    (hrun : Machine.Reachable StatsRun.step StatsRun.start run) : run.Inv :=
  Machine.Reachable.invariant
    (fun _ _ _ hinv hstep => StatsRun.Inv.step hinv hstep)
    StatsRun.inv_start hrun

/-- The amount that calls made one at a time add to a counter. -/
def addedBy (counter : Counter) (calls : List StatsCall) : Nat :=
  (calls.map fun call => amountIn counter call.adds).sum

/-- A field of the sequential counters that each call moves by its amount for
the counter, and keeps below 2⁶⁴. -/
structure Tracks (counter : Counter) (field : Stats → Nat) : Prop where
  moves : ∀ stats call, field (StatsCall.apply stats call) % 2 ^ 64 =
    (field stats + amountIn counter call.adds) % 2 ^ 64
  fits : ∀ stats call, field stats < 2 ^ 64 →
    field (StatsCall.apply stats call) < 2 ^ 64

theorem Tracks.foldl_apply {counter : Counter} {field : Stats → Nat}
    (h : Tracks counter field) (calls : List StatsCall) {stats : Stats}
    (hstats : field stats < 2 ^ 64) :
    field (calls.foldl StatsCall.apply stats) =
      (field stats + addedBy counter calls) % 2 ^ 64 := by
  induction calls generalizing stats with
  | nil => simpa [addedBy] using (Nat.mod_eq_of_lt hstats).symm
  | cons call rest ih =>
      rw [List.foldl_cons, ih (h.fits stats call hstats)]
      have hmove := h.moves stats call
      simp only [addedBy, List.map_cons, List.sum_cons] at hmove ⊢
      omega

/-- The field of the sequential model for a counter; it has none for the last
two. -/
def Counter.field : Counter → Option (Stats → Nat)
  | .datagramsSent => some Stats.datagramsSent
  | .datagramsRecv => some Stats.datagramsRecv
  | .datagramsBlocked => some Stats.datagramsBlocked
  | .datagramsTooLarge => some Stats.datagramsTooLarge
  | .bytesSent => some Stats.bytesSent
  | .bytesRecv => some Stats.bytesRecv
  | .dgSizeSum => some Stats.dgSizeSum
  | .spoofed => none
  | .datagramsWaitTimeouts => none

theorem tracks_of_field {counter : Counter} {field : Stats → Nat}
    (hfield : counter.field = some field) : Tracks counter field where
  moves stats call := by
    cases counter <;>
      simp only [Counter.field, Option.some.injEq, reduceCtorEq] at hfield <;>
      subst hfield <;> cases call <;>
      simp [StatsCall.apply, Stats.recordSend, Stats.updateDgSize,
        Stats.recordRecv, Stats.recordBlocked, Stats.recordTooLarge, fetchAdd,
        amountIn, StatsCall.adds]
  fits stats call hlt := by
    cases counter <;>
      simp only [Counter.field, Option.some.injEq, reduceCtorEq] at hfield <;>
      subst hfield <;> cases call <;>
      simp only [StatsCall.apply, Stats.recordSend, Stats.updateDgSize,
        Stats.recordRecv, Stats.recordBlocked, Stats.recordTooLarge,
        fetchAdd] <;> omega

/-- Once every call has returned, a counter holds what they added. -/
theorem StatsRun.Summed.returned {run : StatsRun} (h : run.Summed)
    (hreturned : ∀ thread ∈ run.threads, thread.phase = .returned)
    (counter : Counter) :
    (run.stats.counters counter).value =
      addedBy counter run.calls % 2 ^ 64 := by
  have htotal : Population.total (StatsThread.added counter) run.threads =
      addedBy counter run.calls := by
    rw [Population.total, addedBy, StatsRun.calls, List.map_map,
      Nat.cast_list_sum, List.map_map]
    congr 1
    apply List.map_congr_left
    intro thread hthread
    simp [StatsThread.added, hreturned thread hthread, StatsPhase.owed]
  have hvalue := h counter
  rw [htotal] at hvalue
  exact_mod_cast hvalue

/-- Once every call has returned, a counter holds what the same calls leave in
its field when they are made one at a time. -/
theorem StatsRun.Summed.sequential {run : StatsRun} (h : run.Summed)
    (hreturned : ∀ thread ∈ run.threads, thread.phase = .returned)
    (counter : Counter) {field : Stats → Nat}
    (hfield : counter.field = some field) (hnew : field Stats.new = 0) :
    (run.stats.counters counter).value =
      field (run.calls.foldl StatsCall.apply Stats.new) := by
  have hlt : field Stats.new < 2 ^ 64 := by omega
  rw [(tracks_of_field hfield).foldl_apply run.calls hlt, hnew, Nat.zero_add]
  exact h.returned hreturned counter

theorem foldl_apply_min (calls : List StatsCall) (stats : Stats) :
    (calls.foldl StatsCall.apply stats).dgSizeMin =
      (sentSizes calls).foldl min stats.dgSizeMin := by
  induction calls generalizing stats with
  | nil => rfl
  | cons call rest ih =>
      simp only [List.foldl_cons, ih, sentSizes, List.flatMap_cons,
        List.foldl_append]
      cases call <;> rfl

theorem foldl_apply_max (calls : List StatsCall) (stats : Stats) :
    (calls.foldl StatsCall.apply stats).dgSizeMax =
      (sentSizes calls).foldl max stats.dgSizeMax := by
  induction calls generalizing stats with
  | nil => rfl
  | cons call rest ih =>
      simp only [List.foldl_cons, ih, sentSizes, List.flatMap_cons,
        List.foldl_append]
      cases call <;> rfl

theorem foldl_min_eq {sizes : List Nat} {init value : Nat}
    (hinit : value ≤ init) (hsizes : ∀ size ∈ sizes, value ≤ size)
    (hfrom : value = init ∨ value ∈ sizes) : sizes.foldl min init = value := by
  induction sizes generalizing init with
  | nil =>
      rcases hfrom with rfl | hmem
      · rfl
      · simp at hmem
  | cons size rest ih =>
      have hsize := hsizes size List.mem_cons_self
      rw [List.foldl_cons]
      apply ih
      · omega
      · exact fun other hother =>
          hsizes other (List.mem_cons_of_mem size hother)
      · rcases hfrom with rfl | hmem
        · exact Or.inl (by omega)
        · rcases List.mem_cons.mp hmem with rfl | hmem
          · exact Or.inl (by omega)
          · exact Or.inr hmem

theorem foldl_max_eq {sizes : List Nat} {init value : Nat}
    (hinit : init ≤ value) (hsizes : ∀ size ∈ sizes, size ≤ value)
    (hfrom : value = init ∨ value ∈ sizes) : sizes.foldl max init = value := by
  induction sizes generalizing init with
  | nil =>
      rcases hfrom with rfl | hmem
      · rfl
      · simp at hmem
  | cons size rest ih =>
      have hsize := hsizes size List.mem_cons_self
      rw [List.foldl_cons]
      apply ih
      · omega
      · exact fun other hother =>
          hsizes other (List.mem_cons_of_mem size hother)
      · rcases hfrom with rfl | hmem
        · exact Or.inl (by omega)
        · rcases List.mem_cons.mp hmem with rfl | hmem
          · exact Or.inl (by omega)
          · exact Or.inr hmem

/-- Once every call has returned, each size lies between the extrema. -/
theorem StatsRun.Bounded.returned {run : StatsRun} (h : run.Bounded)
    (hreturned : ∀ thread ∈ run.threads, thread.phase = .returned) :
    ∀ size ∈ sentSizes run.calls, run.stats.dgSizeMin.value ≤ size ∧
      size ≤ run.stats.dgSizeMax.value := by
  intro size hsize
  obtain ⟨call, hcall, hmem⟩ := List.mem_flatMap.mp hsize
  obtain ⟨thread, hthread, rfl⟩ := List.mem_map.mp hcall
  have hsettled := h.settled thread hthread
  simp only [StatsThread.Settled, hreturned thread hthread] at hsettled
  have hbounds := hsettled size hmem
  omega

/-- However the atomic operations of the calls interleave, however stale their
loads are and however often an exchange fails: once all calls have returned,
the counters are those of the same calls made one at a time. -/
theorem stats_linearizable {run : StatsRun}
    (hrun : Machine.Reachable StatsRun.step StatsRun.start run)
    (hreturned : ∀ thread ∈ run.threads, thread.phase = .returned) :
    run.stats.snapshot = run.calls.foldl StatsCall.apply Stats.new ∧
      (run.stats.counters .spoofed).value =
        addedBy .spoofed run.calls % 2 ^ 64 ∧
      (run.stats.counters .datagramsWaitTimeouts).value =
        addedBy .datagramsWaitTimeouts run.calls % 2 ^ 64 := by
  obtain ⟨hsummed, hbounded⟩ := StatsRun.inv_of_reachable hrun
  have hvalue := hsummed.returned hreturned
  have hsizes := hbounded.returned hreturned
  refine ⟨?_, hvalue _, hvalue _⟩
  have hmin : run.stats.dgSizeMin.value =
      (run.calls.foldl StatsCall.apply Stats.new).dgSizeMin := by
    rw [foldl_apply_min]
    exact (foldl_min_eq (Nat.le_of_not_lt hbounded.min_start)
      (fun size hsize => (hsizes size hsize).1) hbounded.min_from).symm
  have hmax : run.stats.dgSizeMax.value =
      (run.calls.foldl StatsCall.apply Stats.new).dgSizeMax := by
    rw [foldl_apply_max]
    exact (foldl_max_eq (Nat.zero_le _)
      (fun size hsize => (hsizes size hsize).2) hbounded.max_from).symm
  have hcounter := hsummed.sequential hreturned
  rw [AtomicStats.snapshot, hmin, hmax, hcounter .datagramsSent rfl rfl,
    hcounter .datagramsRecv rfl rfl, hcounter .datagramsBlocked rfl rfl,
    hcounter .datagramsTooLarge rfl rfl, hcounter .bytesSent rfl rfl,
    hcounter .bytesRecv rfl rfl, hcounter .dgSizeSum rfl rfl]

/-- Two sends race for the extrema while a spoofed packet is counted: the
second send sees the first one's minimum, fails once and tries again. -/
def racingSends : List StatsLabel :=
  [.call (.recordSend 1200), .call (.recordSend 60), .call .recordSpoofed,
    .step 0 .write, .step 1 .write, .step 1 .write, .step 0 .write,
    .step 0 .write, .step 1 .write, .step 2 .write,
    .step 0 (.read 0), .step 1 (.read 0), .step 0 .write,
    .step 1 (.read 0), .step 1 .write,
    .step 1 (.read 0), .step 0 (.read 0), .step 1 .write,
    .step 0 (.read 1), .step 0 (.read 0), .step 0 .write]

theorem stats_linearizable_racing :
    ∃ run, Machine.run StatsRun.step StatsRun.start racingSends = some run ∧
      run.stats.snapshot =
        run.calls.foldl StatsCall.apply Stats.new ∧
      (run.stats.counters .spoofed).value =
        addedBy .spoofed run.calls % 2 ^ 64 ∧
      (run.stats.counters .datagramsWaitTimeouts).value =
        addedBy .datagramsWaitTimeouts run.calls % 2 ^ 64 :=
  ⟨_, rfl, stats_linearizable ⟨racingSends, rfl⟩ (by decide)⟩

/-- The average that `report` shows. -/
def Stats.dgAvg (stats : Stats) : Nat :=
  if 0 < stats.datagramsSent then stats.dgSizeSum / stats.datagramsSent else 0

/-- The minimum that `report` shows: 0 before the first packet. -/
def Stats.dgMinDisplay (stats : Stats) : Nat :=
  if stats.dgSizeMin = 2 ^ 64 - 1 then 0 else stats.dgSizeMin

theorem addedBy_datagramsSent (calls : List StatsCall) :
    addedBy .datagramsSent calls = (sentSizes calls).length := by
  induction calls with
  | nil => rfl
  | cons call rest ih =>
      simp only [addedBy, sentSizes, List.map_cons, List.sum_cons,
        List.flatMap_cons, List.length_append] at ih ⊢
      rw [ih]
      cases call <;> rfl

theorem addedBy_dgSizeSum (calls : List StatsCall) :
    addedBy .dgSizeSum calls = (sentSizes calls).sum := by
  induction calls with
  | nil => rfl
  | cons call rest ih =>
      simp only [addedBy, sentSizes, List.map_cons, List.sum_cons,
        List.flatMap_cons, List.sum_append] at ih ⊢
      rw [ih]
      cases call <;> simp [amountIn, StatsCall.adds, StatsCall.sizes]

/-- The line that `report` prints between calls is consistent: as long as the
two sums fit in 64 bits, the average lies between the extrema. -/
theorem report_average_bounded {run : StatsRun}
    (hrun : Machine.Reachable StatsRun.step StatsRun.start run)
    (hreturned : ∀ thread ∈ run.threads, thread.phase = .returned)
    (hcount : (sentSizes run.calls).length < 2 ^ 64)
    (hsum : (sentSizes run.calls).sum < 2 ^ 64) :
    run.stats.snapshot.dgMinDisplay ≤ run.stats.snapshot.dgAvg ∧
      run.stats.snapshot.dgAvg ≤ run.stats.snapshot.dgSizeMax := by
  obtain ⟨hsummed, hbounded⟩ := StatsRun.inv_of_reachable hrun
  have hsizes := hbounded.returned hreturned
  have hsent : run.stats.snapshot.datagramsSent =
      (sentSizes run.calls).length := by
    have hvalue := hsummed.returned hreturned .datagramsSent
    rw [addedBy_datagramsSent, Nat.mod_eq_of_lt hcount] at hvalue
    exact hvalue
  have htotal : run.stats.snapshot.dgSizeSum = (sentSizes run.calls).sum := by
    have hvalue := hsummed.returned hreturned .dgSizeSum
    rw [addedBy_dgSizeSum, Nat.mod_eq_of_lt hsum] at hvalue
    exact hvalue
  have hlow : (sentSizes run.calls).length * run.stats.dgSizeMin.value ≤
      (sentSizes run.calls).sum := by
    simpa using List.card_nsmul_le_sum (sentSizes run.calls)
      run.stats.dgSizeMin.value fun size hsize => (hsizes size hsize).1
  have hhigh : (sentSizes run.calls).sum ≤
      (sentSizes run.calls).length * run.stats.dgSizeMax.value := by
    simpa using List.sum_le_card_nsmul (sentSizes run.calls)
      run.stats.dgSizeMax.value fun size hsize => (hsizes size hsize).2
  have hdisplay : run.stats.snapshot.dgMinDisplay ≤
      run.stats.dgSizeMin.value := by
    rw [Stats.dgMinDisplay]
    split
    · exact Nat.zero_le _
    · exact Nat.le_refl _
  rw [Stats.dgAvg, hsent, htotal]
  by_cases hsome : 0 < (sentSizes run.calls).length
  · rw [if_pos hsome]
    refine ⟨hdisplay.trans ((Nat.le_div_iff_mul_le hsome).mpr ?_), ?_⟩
    · rwa [Nat.mul_comm]
    · exact Nat.div_le_of_le_mul hhigh
  · rw [if_neg hsome]
    -- nothing was sent, so the cell still holds `u64::MAX` and 0 is shown
    have hnil : sentSizes run.calls = [] :=
      List.eq_nil_of_length_eq_zero (Nat.eq_zero_of_not_pos hsome)
    have hmax : run.stats.dgSizeMin.value = 2 ^ 64 - 1 := by
      have hfrom := hbounded.min_from
      rw [hnil] at hfrom
      simpa using hfrom
    refine ⟨?_, Nat.zero_le _⟩
    simp [Stats.dgMinDisplay, AtomicStats.snapshot, hmax]

theorem report_average_bounded_racing :
    ∃ run, Machine.run StatsRun.step StatsRun.start racingSends = some run ∧
      run.stats.snapshot.dgMinDisplay ≤ run.stats.snapshot.dgAvg ∧
      run.stats.snapshot.dgAvg ≤ run.stats.snapshot.dgSizeMax :=
  ⟨_, rfl, report_average_bounded ⟨racingSends, rfl⟩ (by decide) (by decide)
    (by decide)⟩

end Redpill
