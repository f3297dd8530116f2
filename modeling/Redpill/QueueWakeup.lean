/-
Waking the consumer of a client queue (`priority.rs`).  A push enqueues under
the lock of its lane and notifies afterwards; a pop looks at the realtime
lane, then at the bulk lane, then waits, and may be dropped and begun again.
-/
import Redpill.Notify
import Redpill.QueueSpec

namespace Redpill

universe u

variable {P : Type u}

/-- Where the consumer is in `pop`: not in it, about to check a lane, about to
wait, or waiting. -/
inductive PopStage where
  | outside
  | checkRealtime
  | checkBulk
  | notified
  | waiting
deriving Repr, DecidableEq

/-- The queue, its notification, the producers that have enqueued and not yet
notified, and the consumer with the packets it has received. -/
structure QueueTask (P : Type u) where
  queue : PriorityQueue P
  notify : Notify
  notifying : Nat → Bool
  stage : PopStage
  received : List P

/-- A step of a producer or of the consumer.  Checks read the clock. -/
inductive QueueEvent (P : Type u) where
  | enqueue (producer : Nat) (packet : P) (priority : Priority) (now : Nat)
  | notifyOne (producer : Nat)
  | pop
  | checkRealtime (now : Nat)
  | checkBulk
  | poll
  | wake
  | cancel

namespace QueueTask

def start (capacity : Nat) : QueueTask P :=
  ⟨PriorityQueue.new capacity, Notify.new, fun _ => false, .outside, []⟩

def setNotifying (task : QueueTask P) (producer : Nat) (value : Bool) :
    QueueTask P :=
  { task with notifying := fun other =>
      if other = producer then value else task.notifying other }

/-- One step, if the party that takes it stands there.  A full lane refuses a
packet, and the push returns without notifying.  The consumer may be dropped
anywhere in `pop`; the flush timer drops it while it waits. -/
def step (task : QueueTask P) : QueueEvent P → Option (QueueTask P)
  | .enqueue producer packet priority now =>
      if task.notifying producer then none
      else
        let pushed := task.queue.push packet priority now
        some (({ task with queue := pushed.2 } : QueueTask P).setNotifying
          producer pushed.1)
  | .notifyOne producer =>
      if task.notifying producer then
        some (({ task with notify := task.notify.notifyOne } :
          QueueTask P).setNotifying producer false)
      else none
  | .pop =>
      if task.stage = .outside then some { task with stage := .checkRealtime }
      else none
  | .checkRealtime now =>
      if task.stage = .checkRealtime then
        match PriorityQueue.popRealtime now task.queue.realtime with
        | (some packet, rest) => some { task with
            queue := { task.queue with realtime := rest }
            stage := .outside
            received := task.received ++ [packet] }
        | (none, rest) => some { task with
            queue := { task.queue with realtime := rest }
            stage := .checkBulk }
      else none
  | .checkBulk =>
      if task.stage = .checkBulk then
        match task.queue.bulk with
        | packet :: rest => some { task with
            queue := { task.queue with bulk := rest }
            stage := .outside
            received := task.received ++ [packet] }
        | [] => some { task with stage := .notified }
      else none
  | .poll =>
      if task.stage = .notified then
        let polled := task.notify.poll
        some { task with
          notify := polled.2
          stage := if polled.1 then .checkRealtime else .waiting }
      else none
  | .wake =>
      if task.stage = .waiting then
        task.notify.wake.map fun notify =>
          { task with notify := notify, stage := .checkRealtime }
      else none
  | .cancel =>
      if task.stage = .outside then none
      else some { task with notify := task.notify.cancel, stage := .outside }

/-- Undisturbed, the two checks of a pop are `try_pop`: they return its packet
and leave its queue, and without a packet the consumer goes on to wait. -/
theorem checks_eq_tryPop {task : QueueTask P} (now : Nat)
    (hstage : task.stage = .checkRealtime) :
    ∃ events ∈ [[.checkRealtime now], [.checkRealtime now, .checkBulk]],
      ∃ next, Machine.run step task events = some next ∧
        next.queue = (task.queue.tryPop now).2 ∧
        next.received = task.received ++ (task.queue.tryPop now).1.toList ∧
        next.stage =
          if (task.queue.tryPop now).1.isSome then .outside
          else .notified := by
  rcases PriorityQueue.popRealtime_cases now task.queue.realtime with
    ⟨_, entry, rest, _, _, _, hpop, _⟩ | ⟨_, hpop, _⟩
  · refine ⟨_, List.mem_cons_self, { task with
      queue := { task.queue with realtime := rest }
      stage := .outside
      received := task.received ++ [entry.2] }, ?_, ?_⟩
    · simp [Machine.run, step, hstage, hpop]
    · simp [PriorityQueue.tryPop, hpop]
  · refine ⟨_, List.mem_cons_of_mem _ List.mem_cons_self, ?_⟩
    cases hbulk : task.queue.bulk with
    | nil =>
        refine ⟨{ task with
          queue := { task.queue with realtime := [] }
          stage := .notified }, ?_, ?_⟩
        · simp [Machine.run, step, hstage, hpop, hbulk]
        · simp [PriorityQueue.tryPop, hpop, hbulk]
    | cons packet others =>
        refine ⟨{ task with
          queue := { task.queue with realtime := [], bulk := others }
          stage := .outside
          received := task.received ++ [packet] }, ?_, ?_⟩
        · simp [Machine.run, step, hstage, hpop, hbulk]
        · simp [PriorityQueue.tryPop, hpop, hbulk]

/-- Somebody will make the consumer look again: a notification is pending, or
a producer is about to give one. -/
def Signalled (task : QueueTask P) : Prop :=
  task.notify.Pending ∨ ∃ producer, task.notifying producer = true

/-- The consumer has looked at the realtime lane and not begun again. -/
def PastRealtime (stage : PopStage) : Prop :=
  stage = .checkBulk ∨ stage = .notified ∨ stage = .waiting

/-- The consumer has looked at both lanes and not begun again. -/
def PastBulk (stage : PopStage) : Prop :=
  stage = .notified ∨ stage = .waiting

/-- A lane that the consumer has passed is empty, or somebody will make it
look again.  Only a waiting consumer is registered. -/
structure Awake (task : QueueTask P) : Prop where
  waiter : task.stage ≠ .waiting → task.notify.waiter = none
  realtime : PastRealtime task.stage → task.queue.realtime = [] ∨ task.Signalled
  bulk : PastBulk task.stage → task.queue.bulk = [] ∨ task.Signalled

theorem awake_start (capacity : Nat) :
    (start capacity : QueueTask P).Awake := by
  refine ⟨fun _ => rfl, ?_, ?_⟩
  · intro _
    exact Or.inl rfl
  · intro _
    exact Or.inl rfl

/-- A producer that has enqueued stands before its notification; one that was
refused has changed nothing. -/
theorem awake_enqueue {task next : QueueTask P} {producer : Nat} {packet : P}
    {priority : Priority} {now : Nat} (hinv : task.Awake)
    (hstep : task.step (.enqueue producer packet priority now) = some next) :
    next.Awake := by
  rw [step] at hstep
  by_cases hbusy : task.notifying producer
  · rw [if_pos hbusy] at hstep
    cases hstep
  · rw [if_neg hbusy, Option.some.injEq] at hstep
    cases hpush : (task.queue.push packet priority now).1 with
    | true =>
        have hsignal : next.Signalled := by
          refine Or.inr ⟨producer, ?_⟩
          rw [← hstep, hpush]
          simp [setNotifying]
        subst hstep
        exact ⟨hinv.waiter, fun _ => Or.inr hsignal, fun _ => Or.inr hsignal⟩
    | false =>
        have hsame : ∀ other, next.notifying other = task.notifying other := by
          intro other
          rw [← hstep, hpush]
          by_cases hother : other = producer
          · subst hother
            simp [setNotifying, hbusy]
          · simp [setNotifying, hother]
        rw [(task.queue.push_spec packet priority now).unchanged hpush]
          at hstep
        have hsignal : task.Signalled → next.Signalled := by
          rintro (hpending | ⟨other, hother⟩)
          · subst hstep
            exact Or.inl hpending
          · exact Or.inr ⟨other, (hsame other).trans hother⟩
        subst hstep
        exact ⟨hinv.waiter, fun h => (hinv.realtime h).imp_right hsignal,
          fun h => (hinv.bulk h).imp_right hsignal⟩

theorem awake_notifyOne {task next : QueueTask P} {producer : Nat}
    (hinv : task.Awake)
    (hstep : task.step (.notifyOne producer) = some next) : next.Awake := by
  simp only [step, Option.ite_none_right_eq_some, Option.some.injEq] at hstep
  obtain ⟨_, hstep⟩ := hstep
  have hsignal : next.Signalled := by
    left
    rw [← hstep]
    exact task.notify.pending_notifyOne
  subst hstep
  refine ⟨?_, fun _ => Or.inr hsignal, fun _ => Or.inr hsignal⟩
  intro hstage
  exact Notify.notifyOne_waiter (hinv.waiter hstage)

/-- A consumer that has returned or begun again owes nothing. -/
theorem awake_of_stage {task : QueueTask P}
    (hstage : task.stage = .outside ∨ task.stage = .checkRealtime)
    (hwaiter : task.notify.waiter = none) : task.Awake := by
  refine ⟨fun _ => hwaiter, ?_, ?_⟩
  · intro hpast
    rcases hstage with hstage | hstage
    · simp [PastRealtime, hstage] at hpast
    · simp [PastRealtime, hstage] at hpast
  · intro hpast
    rcases hstage with hstage | hstage
    · simp [PastBulk, hstage] at hpast
    · simp [PastBulk, hstage] at hpast

/-- Past the realtime lane the consumer leaves it empty. -/
theorem awake_checkRealtime {task next : QueueTask P} {now : Nat}
    (hinv : task.Awake)
    (hstep : task.step (.checkRealtime now) = some next) : next.Awake := by
  simp only [step, Option.ite_none_right_eq_some] at hstep
  obtain ⟨hstage, hstep⟩ := hstep
  have hwaiter : task.notify.waiter = none :=
    hinv.waiter (by rw [hstage]; decide)
  rcases PriorityQueue.popRealtime_cases now task.queue.realtime with
    ⟨_, entry, rest, _, _, _, hpop, _⟩ | ⟨_, hpop, _⟩
  · rw [hpop] at hstep
    simp only [Option.some.injEq] at hstep
    subst hstep
    exact awake_of_stage (Or.inl rfl) hwaiter
  · rw [hpop] at hstep
    simp only [Option.some.injEq] at hstep
    subst hstep
    refine ⟨fun _ => hwaiter, fun _ => Or.inl rfl, ?_⟩
    intro hpast
    simp [PastBulk] at hpast

theorem awake_checkBulk {task next : QueueTask P} (hinv : task.Awake)
    (hstep : task.step .checkBulk = some next) : next.Awake := by
  simp only [step, Option.ite_none_right_eq_some] at hstep
  obtain ⟨hstage, hstep⟩ := hstep
  have hwaiter : task.notify.waiter = none :=
    hinv.waiter (by rw [hstage]; decide)
  cases hbulk : task.queue.bulk with
  | cons packet rest =>
      simp only [hbulk, Option.some.injEq] at hstep
      subst hstep
      exact awake_of_stage (Or.inl rfl) hwaiter
  | nil =>
      simp only [hbulk, Option.some.injEq] at hstep
      subst hstep
      exact ⟨fun _ => hwaiter,
        fun _ => hinv.realtime (Or.inl hstage), fun _ => Or.inl hbulk⟩

/-- A consumer falls asleep only when no permit is stored, so what signals it
is a producer. -/
theorem awake_poll {task next : QueueTask P} (hinv : task.Awake)
    (hstep : task.step .poll = some next) : next.Awake := by
  simp only [step, Option.ite_none_right_eq_some, Option.some.injEq] at hstep
  obtain ⟨hstage, hstep⟩ := hstep
  have hwaiter : task.notify.waiter = none :=
    hinv.waiter (by rw [hstage]; decide)
  cases hpoll : task.notify.poll.1 with
  | true =>
      subst hstep
      apply awake_of_stage
      · right
        simp [hpoll]
      · exact (Notify.poll_takes hpoll).trans hwaiter
  | false =>
      obtain ⟨hpermit, _⟩ := Notify.poll_registers hpoll
      have hsignal : task.Signalled → next.Signalled := by
        rintro ((hstored | hnotified) | hproducer)
        · rw [hpermit] at hstored
          cases hstored
        · rw [hwaiter] at hnotified
          cases hnotified
        · subst hstep
          exact Or.inr hproducer
      subst hstep
      refine ⟨?_, ?_, ?_⟩
      · intro hne
        simp [hpoll] at hne
      · intro _
        exact (hinv.realtime (Or.inr (Or.inl hstage))).imp_right hsignal
      · intro _
        exact (hinv.bulk (Or.inl hstage)).imp_right hsignal

theorem awake_wake {task next : QueueTask P}
    (hstep : task.step .wake = some next) : next.Awake := by
  simp only [step, Option.ite_none_right_eq_some] at hstep
  obtain ⟨_, hstep⟩ := hstep
  obtain ⟨notify, hwake, rfl⟩ := Option.map_eq_some_iff.mp hstep
  exact awake_of_stage (Or.inr rfl) (Notify.wake_waiter hwake)

theorem awake_step {task next : QueueTask P} {event : QueueEvent P}
    (hinv : task.Awake) (hstep : task.step event = some next) :
    next.Awake := by
  cases event with
  | enqueue producer packet priority now => exact awake_enqueue hinv hstep
  | notifyOne producer => exact awake_notifyOne hinv hstep
  | pop =>
      simp only [step, Option.ite_none_right_eq_some, Option.some.injEq]
        at hstep
      obtain ⟨hstage, rfl⟩ := hstep
      exact awake_of_stage (Or.inr rfl) (hinv.waiter (by rw [hstage]; decide))
  | checkRealtime now => exact awake_checkRealtime hinv hstep
  | checkBulk => exact awake_checkBulk hinv hstep
  | poll => exact awake_poll hinv hstep
  | wake => exact awake_wake hstep
  | cancel =>
      simp only [step, Option.ite_none_left_eq_some, Option.some.injEq]
        at hstep
      obtain ⟨_, rfl⟩ := hstep
      exact awake_of_stage (Or.inl rfl) (Notify.cancel_waiter _)

/-- No wake-up is lost: a consumer that waits with nothing pending waits on
empty lanes, or a producer stands between its enqueue and its notification. -/
theorem pop_loses_no_wakeup {capacity : Nat} {events : List (QueueEvent P)}
    {task : QueueTask P}
    (hrun : Machine.run step (start capacity) events = some task)
    (hwaiting : task.stage = .waiting) (hasleep : ¬ task.notify.Pending) :
    (task.queue.realtime = [] ∧ task.queue.bulk = []) ∨
      ∃ producer, task.notifying producer = true := by
  have hinv : task.Awake := Machine.Reachable.invariant
    (fun _ _ _ hinv hstep => awake_step hinv hstep) (awake_start capacity)
    ⟨events, hrun⟩
  by_cases hproducer : ∃ producer, task.notifying producer = true
  · exact Or.inr hproducer
  · have hsilent : ¬ task.Signalled := by
      rintro (hpending | hproducer')
      · exact hasleep hpending
      · exact hproducer hproducer'
    left
    constructor
    · exact (hinv.realtime (Or.inr (Or.inr hwaiting))).resolve_right hsilent
    · exact (hinv.bulk (Or.inr hwaiting)).resolve_right hsilent

/-- A consumer that fell asleep after a producer had enqueued behind its
back. -/
def overtakenTask : QueueTask Nat where
  queue := ⟨[], [7], 8⟩
  notify := ⟨false, some false⟩
  notifying := fun other => if other = 3 then true else false
  stage := .waiting
  received := []

theorem pop_loses_no_wakeup_overtaken :
    (overtakenTask.queue.realtime = [] ∧ overtakenTask.queue.bulk = []) ∨
      ∃ producer, overtakenTask.notifying producer = true := by
  have hrun : Machine.run step (start 8)
      [.pop, .checkRealtime 0, .checkBulk, .enqueue 3 7 .bulk 0, .poll] =
      some overtakenTask := rfl
  exact pop_loses_no_wakeup hrun rfl (by decide)

end QueueTask

end Redpill
