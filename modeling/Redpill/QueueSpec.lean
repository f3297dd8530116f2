/-
The specification of the client queue, over any sequence of calls with clock
readings that do not go back: two bounded lanes in order of arrival, fresh
realtime packets first, and an account of every accepted packet.
-/
import Redpill.Machine
import Redpill.Priority

namespace Redpill

universe u

variable {P : Type u}

/-- A call on the queue with its clock reading. -/
inductive QueueCall (P : Type u) where
  | push (packet : P) (priority : Priority) (now : Nat)
  | tryPop (now : Nat)

/-- An entry that left the realtime lane: returned to the caller or dropped,
and when. -/
structure Departure (P : Type u) where
  entry : Nat × P
  returned : Bool
  time : Nat

/-- An entry dropped at instant `now`. -/
def Departure.dropped (now : Nat) (entry : Nat × P) : Departure P :=
  ⟨entry, false, now⟩

/-- The queue with the history of its calls: what the pushes accepted, what
left each lane and what the pops returned. -/
structure QueueHistory (P : Type u) where
  queue : PriorityQueue P
  clock : Nat
  acceptedRealtime : List (Nat × P)
  acceptedBulk : List P
  departed : List (Departure P)
  returnedBulk : List P
  results : List P

namespace PriorityQueue

/-- Young enough to be returned. -/
def Fresh (now : Nat) (entry : Nat × P) : Prop :=
  now - entry.1 ≤ realtimeMaxAge

/-- The entries that `popRealtime` takes off the lane. -/
def departures (now : Nat) : List (Nat × P) → List (Departure P)
  | [] => []
  | entry :: rest =>
      if now - entry.1 ≤ realtimeMaxAge then [⟨entry, true, now⟩]
      else .dropped now entry :: departures now rest

/-- The lane of a class has no room. -/
def Full (queue : PriorityQueue P) : Priority → Prop
  | .realtime => queue.capacity / 4 ≤ queue.realtime.length
  | .bulk => queue.capacity ≤ queue.bulk.length

/-- The queue with a packet at the end of its lane. -/
def enqueue (queue : PriorityQueue P) (packet : P) (now : Nat) :
    Priority → PriorityQueue P
  | .realtime => { queue with realtime := queue.realtime ++ [(now, packet)] }
  | .bulk => { queue with bulk := queue.bulk ++ [packet] }

/-- What is demanded of a push: refused exactly when the lane is full, and
then without effect. -/
structure PushSpec (queue : PriorityQueue P) (packet : P)
    (priority : Priority) (now : Nat) : Prop where
  refused : (queue.push packet priority now).1 = false ↔ queue.Full priority
  unchanged : (queue.push packet priority now).1 = false →
    (queue.push packet priority now).2 = queue
  accepted : (queue.push packet priority now).1 = true →
    (queue.push packet priority now).2 = queue.enqueue packet now priority

/-- What is demanded of a pop: the oldest fresh realtime packet if there is
one, after dropping the stale ones before it; else the oldest bulk packet;
else nothing. -/
inductive PopSpec (queue : PriorityQueue P) (now : Nat) : Prop where
  | realtime (stale : List (Nat × P)) (entry : Nat × P)
      (rest : List (Nat × P))
      (hlane : queue.realtime = stale ++ entry :: rest)
      (hstale : ∀ other ∈ stale, ¬ Fresh now other)
      (hfresh : Fresh now entry)
      (holdest : ∀ other ∈ queue.realtime, Fresh now other →
        entry.1 ≤ other.1)
      (hpop : queue.tryPop now =
        (some entry.2, { queue with realtime := rest }))
  | bulk (packet : P) (rest : List P)
      (hstale : ∀ other ∈ queue.realtime, ¬ Fresh now other)
      (hlane : queue.bulk = packet :: rest)
      (hpop : queue.tryPop now =
        (some packet, { queue with realtime := [], bulk := rest }))
  | empty
      (hstale : ∀ other ∈ queue.realtime, ¬ Fresh now other)
      (hlane : queue.bulk = [])
      (hpop : queue.tryPop now = (none, { queue with realtime := [] }))

theorem push_spec (queue : PriorityQueue P) (packet : P)
    (priority : Priority) (now : Nat) : queue.PushSpec packet priority now := by
  cases priority with
  | realtime =>
      by_cases hfull : queue.capacity / 4 ≤ queue.realtime.length
      · constructor <;> simp [push, Full, hfull]
      · constructor <;> simp [push, Full, enqueue, hfull]
  | bulk =>
      by_cases hfull : queue.capacity ≤ queue.bulk.length
      · constructor <;> simp [push, Full, hfull]
      · constructor <;> simp [push, Full, enqueue, hfull]

/-- The drop loop: stale entries up to the first fresh one, which is
returned, or the whole lane. -/
theorem popRealtime_cases (now : Nat) (lane : List (Nat × P)) :
    (∃ stale entry rest, lane = stale ++ entry :: rest ∧
      (∀ other ∈ stale, ¬ Fresh now other) ∧ Fresh now entry ∧
      popRealtime now lane = (some entry.2, rest) ∧
      departures now lane =
        stale.map (Departure.dropped now) ++ [⟨entry, true, now⟩]) ∨
    ((∀ other ∈ lane, ¬ Fresh now other) ∧
      popRealtime now lane = (none, []) ∧
      departures now lane = lane.map (Departure.dropped now)) := by
  induction lane with
  | nil => exact Or.inr ⟨by simp, rfl, rfl⟩
  | cons head tail ih =>
      by_cases hfresh : now - head.1 ≤ realtimeMaxAge
      · left
        refine ⟨[], head, tail, rfl, by simp, hfresh, ?_, ?_⟩
        · simp [popRealtime, hfresh]
        · simp [departures, hfresh]
      · have hpop : popRealtime now (head :: tail) = popRealtime now tail := by
          simp [popRealtime, hfresh]
        have hgone : departures now (head :: tail) =
            .dropped now head :: departures now tail := by
          simp [departures, hfresh]
        rw [hpop, hgone]
        rcases ih with ⟨stale, entry, rest, rfl, hstale, hentry, hpop, hgone⟩ |
          ⟨hstale, hpop, hgone⟩
        · left
          refine ⟨head :: stale, entry, rest, rfl, ?_, hentry, hpop, ?_⟩
          · exact List.forall_mem_cons.mpr ⟨hfresh, hstale⟩
          · rw [hgone]
            rfl
        · right
          refine ⟨List.forall_mem_cons.mpr ⟨hfresh, hstale⟩, hpop, ?_⟩
          rw [hgone]
          rfl

/-- Stamps in the lane are in order of arrival. -/
def Sorted (queue : PriorityQueue P) : Prop :=
  queue.realtime.Pairwise fun first second => first.1 ≤ second.1

/-- A lane in order of its stamps makes the first fresh entry the oldest. -/
theorem pop_spec {queue : PriorityQueue P} (hsorted : queue.Sorted)
    (now : Nat) : queue.PopSpec now := by
  rcases popRealtime_cases now queue.realtime with
    ⟨stale, entry, rest, hlane, hstale, hfresh, hpop, _⟩ | ⟨hstale, hpop, _⟩
  · refine .realtime stale entry rest hlane hstale hfresh ?_ ?_
    · intro other hother hyoung
      rw [Sorted, hlane, List.pairwise_append, List.pairwise_cons] at hsorted
      rw [hlane, List.mem_append, List.mem_cons] at hother
      rcases hother with hother | rfl | hother
      · exact absurd hyoung (hstale other hother)
      · exact Nat.le_refl _
      · exact hsorted.2.1.1 other hother
    · simp [tryPop, hpop]
  · cases hbulk : queue.bulk with
    | nil => exact .empty hstale hbulk (by simp [tryPop, hpop, hbulk])
    | cons packet rest =>
        exact .bulk packet rest hstale hbulk (by simp [tryPop, hpop, hbulk])

end PriorityQueue

namespace QueueHistory

open PriorityQueue

def start (capacity : Nat) : QueueHistory P :=
  ⟨PriorityQueue.new capacity, 0, [], [], [], [], []⟩

/-- Record a push that the queue accepted. -/
def recordAccepted (history : QueueHistory P) (packet : P) (now : Nat) :
    Priority → QueueHistory P
  | .realtime => { history with
      acceptedRealtime := history.acceptedRealtime ++ [(now, packet)] }
  | .bulk => { history with acceptedBulk := history.acceptedBulk ++ [packet] }

/-- One call.  A clock reading before the last one is not a step. -/
def step (history : QueueHistory P) : QueueCall P → Option (QueueHistory P)
  | .push packet priority now =>
      if now < history.clock then none
      else
        let pushed := history.queue.push packet priority now
        let next := { history with queue := pushed.2, clock := now }
        some (if pushed.1 then next.recordAccepted packet now priority
          else next)
  | .tryPop now =>
      if now < history.clock then none
      else
        let popped := history.queue.tryPop now
        some { history with
          queue := popped.2
          clock := now
          departed :=
            history.departed ++ departures now history.queue.realtime
          returnedBulk := history.returnedBulk ++ history.queue.bulk.take
            (history.queue.bulk.length - popped.2.bulk.length)
          results := history.results ++ popped.1.toList }

/-- The packets that left the realtime lane to a caller. -/
def returnedRealtime (history : QueueHistory P) : List P :=
  (history.departed.filter Departure.returned).map fun gone => gone.entry.2

/-- The account of every accepted packet: each lane is the end of what it
accepted, what left the bulk lane was returned, and what left the realtime
lane was returned or stale. -/
structure Accounted (history : QueueHistory P) : Prop where
  bulk : history.acceptedBulk = history.returnedBulk ++ history.queue.bulk
  realtime : history.acceptedRealtime =
    history.departed.map Departure.entry ++ history.queue.realtime
  stale : ∀ gone ∈ history.departed, gone.returned = false →
    realtimeMaxAge < gone.time - gone.entry.1
  results : history.results.Perm
    (history.returnedRealtime ++ history.returnedBulk)

/-- The lanes are within their bounds, and the stamps are in order and not
ahead of the clock. -/
structure InOrder (capacity : Nat) (history : QueueHistory P) : Prop where
  size : history.queue.capacity = capacity
  bulkBound : history.queue.bulk.length ≤ capacity
  realtimeBound : history.queue.realtime.length ≤ capacity / 4
  sorted : history.queue.Sorted
  stamped : ∀ entry ∈ history.queue.realtime, entry.1 ≤ history.clock

/-- What a step does: a refused push only moves the clock, an accepted one
appends to its lane, and a pop has one of the three outcomes of the
specification. -/
inductive Steps (history next : QueueHistory P) : QueueCall P → Prop where
  | refused (packet : P) (priority : Priority) (now : Nat)
      (hclock : history.clock ≤ now)
      (hnext : next = { history with clock := now }) :
      Steps history next (.push packet priority now)
  | accepted (packet : P) (priority : Priority) (now : Nat)
      (hclock : history.clock ≤ now)
      (hroom : ¬ history.queue.Full priority)
      (hnext : next = QueueHistory.recordAccepted
        { history with
          queue := history.queue.enqueue packet now priority
          clock := now } packet now priority) :
      Steps history next (.push packet priority now)
  | fresh (stale : List (Nat × P)) (entry : Nat × P)
      (rest : List (Nat × P)) (now : Nat) (hclock : history.clock ≤ now)
      (hlane : history.queue.realtime = stale ++ entry :: rest)
      (hstale : ∀ other ∈ stale, ¬ Fresh now other)
      (hnext : next = { history with
        queue := { history.queue with realtime := rest }
        clock := now
        departed := history.departed ++
          (stale.map (Departure.dropped now) ++ [⟨entry, true, now⟩])
        results := history.results ++ [entry.2] }) :
      Steps history next (.tryPop now)
  | bulk (now : Nat) (hclock : history.clock ≤ now)
      (hstale : ∀ other ∈ history.queue.realtime, ¬ Fresh now other)
      (hnext : next = { history with
        queue := { history.queue with
          realtime := [], bulk := history.queue.bulk.tail }
        clock := now
        departed := history.departed ++
          history.queue.realtime.map (Departure.dropped now)
        returnedBulk :=
          history.returnedBulk ++ history.queue.bulk.head?.toList
        results := history.results ++ history.queue.bulk.head?.toList }) :
      Steps history next (.tryPop now)

theorem steps_of_push {history next : QueueHistory P} {packet : P}
    {priority : Priority} {now : Nat}
    (hstep : history.step (.push packet priority now) = some next) :
    Steps history next (.push packet priority now) := by
  rw [step] at hstep
  by_cases hback : now < history.clock
  · rw [if_pos hback] at hstep
    cases hstep
  · rw [if_neg hback, Option.some.injEq] at hstep
    have hclock : history.clock ≤ now := Nat.le_of_not_lt hback
    have hspec := history.queue.push_spec packet priority now
    cases hpush : (history.queue.push packet priority now).1 with
    | false =>
        refine .refused packet priority now hclock ?_
        rw [← hstep, hspec.unchanged hpush]
        simp [hpush]
    | true =>
        refine .accepted packet priority now hclock ?_ ?_
        · intro hfull
          rw [hspec.refused.mpr hfull] at hpush
          cases hpush
        · rw [← hstep, hspec.accepted hpush]
          simp [hpush]

theorem steps_of_tryPop {history next : QueueHistory P} {now : Nat}
    (hstep : history.step (.tryPop now) = some next) :
    Steps history next (.tryPop now) := by
  rw [step] at hstep
  by_cases hback : now < history.clock
  · rw [if_pos hback] at hstep
    cases hstep
  · rw [if_neg hback, Option.some.injEq] at hstep
    have hclock : history.clock ≤ now := Nat.le_of_not_lt hback
    rcases popRealtime_cases now history.queue.realtime with
      ⟨stale, entry, rest, hlane, hstale, _, hpop, hgone⟩ |
      ⟨hstale, hpop, hgone⟩
    · refine .fresh stale entry rest now hclock hlane hstale ?_
      rw [← hstep, hgone]
      simp [tryPop, hpop]
    · refine .bulk now hclock hstale ?_
      rw [← hstep, hgone]
      cases hbulk : history.queue.bulk with
      | nil => simp [tryPop, hpop, hbulk]
      | cons packet others => simp [tryPop, hpop, hbulk]

theorem steps_of_step {history next : QueueHistory P} {call : QueueCall P}
    (hstep : history.step call = some next) : Steps history next call := by
  cases call with
  | push packet priority now => exact steps_of_push hstep
  | tryPop now => exact steps_of_tryPop hstep

theorem inOrder_step {capacity : Nat} {history next : QueueHistory P}
    {call : QueueCall P} (hinv : history.InOrder capacity)
    (hstep : history.step call = some next) : next.InOrder capacity := by
  obtain ⟨hsize, hbulk, hrealtime, hsorted, hstamped⟩ := hinv
  cases steps_of_step hstep with
  | refused packet priority now hclock hnext =>
      subst hnext
      refine ⟨hsize, hbulk, hrealtime, hsorted, ?_⟩
      intro entry hentry
      exact Nat.le_trans (hstamped entry hentry) hclock
  | accepted packet priority now hclock hroom hnext =>
      subst hnext
      have hold : ∀ entry ∈ history.queue.realtime, entry.1 ≤ now := by
        intro entry hentry
        exact Nat.le_trans (hstamped entry hentry) hclock
      cases priority with
      | bulk =>
          refine ⟨hsize, ?_, hrealtime, hsorted, hold⟩
          simp only [recordAccepted, enqueue, Full, List.length_append,
            List.length_singleton] at hroom ⊢
          omega
      | realtime =>
          refine ⟨hsize, hbulk, ?_, ?_, ?_⟩
          · simp only [recordAccepted, enqueue, Full, List.length_append,
              List.length_singleton] at hroom ⊢
            omega
          · apply List.pairwise_append.mpr
            refine ⟨hsorted, List.pairwise_singleton _ _, ?_⟩
            intro first hfirst second hsecond
            rw [List.mem_singleton.mp hsecond]
            exact hold first hfirst
          · intro entry hentry
            rcases List.mem_append.mp hentry with hentry | hentry
            · exact hold entry hentry
            · rw [List.mem_singleton.mp hentry]
              exact Nat.le_refl now
  | fresh stale entry rest now hclock hlane hstale hnext =>
      subst hnext
      rw [Sorted, hlane, List.pairwise_append, List.pairwise_cons] at hsorted
      rw [hlane, List.length_append, List.length_cons] at hrealtime
      rw [hlane] at hstamped
      refine ⟨hsize, hbulk, ?_, hsorted.2.1.2, ?_⟩
      · exact (by omega : rest.length ≤ capacity / 4)
      · intro other hother
        have hmem : other ∈ stale ++ entry :: rest :=
          List.mem_append_right _ (List.mem_cons_of_mem _ hother)
        exact Nat.le_trans (hstamped other hmem) hclock
  | bulk now hclock hstale hnext =>
      subst hnext
      refine ⟨hsize, ?_, Nat.zero_le _, List.Pairwise.nil, by simp⟩
      have htail : history.queue.bulk.tail.length =
          history.queue.bulk.length - 1 := List.length_tail
      exact (by omega : history.queue.bulk.tail.length ≤ capacity)

theorem map_entry_dropped (now : Nat) (lane : List (Nat × P)) :
    (lane.map (Departure.dropped now)).map Departure.entry = lane := by
  rw [List.map_map]
  exact List.map_id lane

theorem filter_returned_dropped (now : Nat) (lane : List (Nat × P)) :
    (lane.map (Departure.dropped now)).filter Departure.returned = [] := by
  rw [List.filter_eq_nil_iff]
  intro gone hgone
  obtain ⟨entry, _, rfl⟩ := List.mem_map.mp hgone
  exact Bool.false_ne_true

theorem stale_dropped {now : Nat} {lane : List (Nat × P)}
    (hold : ∀ other ∈ lane, ¬ Fresh now other) {gone : Departure P}
    (hgone : gone ∈ lane.map (Departure.dropped now)) :
    realtimeMaxAge < gone.time - gone.entry.1 := by
  obtain ⟨entry, hentry, rfl⟩ := List.mem_map.mp hgone
  exact Nat.lt_of_not_le (hold entry hentry)

theorem accounted_step {history next : QueueHistory P}
    {call : QueueCall P} (hinv : history.Accounted)
    (hstep : history.step call = some next) : next.Accounted := by
  obtain ⟨hbulk, hrealtime, hstale, hresults⟩ := hinv
  cases steps_of_step hstep with
  | refused packet priority now hclock hnext =>
      subst hnext
      exact ⟨hbulk, hrealtime, hstale, hresults⟩
  | accepted packet priority now hclock hroom hnext =>
      subst hnext
      cases priority with
      | bulk =>
          refine ⟨?_, hrealtime, hstale, hresults⟩
          simp only [recordAccepted, enqueue, hbulk, List.append_assoc]
      | realtime =>
          refine ⟨hbulk, ?_, hstale, hresults⟩
          simp only [recordAccepted, enqueue, hrealtime, List.append_assoc]
  | fresh stale entry rest now hclock hlane hold hnext =>
      subst hnext
      refine ⟨hbulk, ?_, ?_, ?_⟩
      · simp only [List.map_append, map_entry_dropped, List.map_cons,
          List.map_nil, List.append_assoc, List.cons_append, List.nil_append,
          hrealtime, hlane]
      · intro gone hgone hreturned
        rcases List.mem_append.mp hgone with hgone | hgone
        · exact hstale gone hgone hreturned
        · rcases List.mem_append.mp hgone with hgone | hgone
          · exact stale_dropped hold hgone
          · rw [List.mem_singleton.mp hgone] at hreturned
            cases hreturned
      · simp only [returnedRealtime, List.filter_append,
          filter_returned_dropped, List.nil_append, List.map_append,
          List.filter_cons_of_pos, List.filter_nil, List.map_cons,
          List.map_nil, List.append_assoc]
        refine (hresults.append_right [entry.2]).trans ?_
        rw [returnedRealtime, List.append_assoc]
        exact List.Perm.append_left _ List.perm_append_comm
  | bulk now hclock hold hnext =>
      subst hnext
      refine ⟨?_, ?_, ?_, ?_⟩
      · simp only [hbulk, List.append_assoc]
        cases history.queue.bulk <;> rfl
      · simp only [List.map_append, map_entry_dropped, List.append_nil,
          hrealtime]
      · intro gone hgone hreturned
        rcases List.mem_append.mp hgone with hgone | hgone
        · exact hstale gone hgone hreturned
        · exact stale_dropped hold hgone
      · simp only [returnedRealtime, List.filter_append,
          filter_returned_dropped, List.append_nil, ← List.append_assoc]
        exact hresults.append_right _

theorem inOrder_run {capacity : Nat} {calls : List (QueueCall P)}
    {history : QueueHistory P}
    (hrun : Machine.run step (start capacity) calls = some history) :
    history.InOrder capacity := by
  have hstart : (start capacity : QueueHistory P).InOrder capacity :=
    ⟨rfl, Nat.zero_le _, Nat.zero_le _, List.Pairwise.nil,
      List.forall_mem_nil _⟩
  exact Machine.Reachable.invariant
    (fun _ _ _ hinv hstep => inOrder_step hinv hstep) hstart ⟨calls, hrun⟩

theorem accounted_run {capacity : Nat} {calls : List (QueueCall P)}
    {history : QueueHistory P}
    (hrun : Machine.run step (start capacity) calls = some history) :
    history.Accounted := by
  have hstart : (start capacity : QueueHistory P).Accounted :=
    ⟨rfl, rfl, List.forall_mem_nil _, List.Perm.refl _⟩
  exact Machine.Reachable.invariant
    (fun _ _ _ hinv hstep => accounted_step hinv hstep) hstart ⟨calls, hrun⟩

/-- After any calls on a new queue with clock readings that do not go back:
the lanes are within their bounds, every accepted packet is accounted for in
order of arrival, and the next push and the next pop meet their
specification. -/
theorem priority_queue_meets_spec {capacity : Nat}
    {calls : List (QueueCall P)} {history : QueueHistory P}
    (hrun : Machine.run step (start capacity) calls = some history) :
    history.queue.capacity = capacity ∧
      history.queue.bulk.length ≤ capacity ∧
      history.queue.realtime.length ≤ capacity / 4 ∧
      history.Accounted ∧
      (∀ packet priority now, history.queue.PushSpec packet priority now) ∧
      ∀ now, history.clock ≤ now → history.queue.PopSpec now := by
  have horder := inOrder_run hrun
  refine ⟨horder.size, horder.bulkBound, horder.realtimeBound,
    accounted_run hrun, ?_, ?_⟩
  · intro packet priority now
    exact history.queue.push_spec packet priority now
  · intro now _
    exact pop_spec horder.sorted now

/-- Two realtime packets, of which the first is stale when the second is
popped, and a bulk packet. -/
def staleHistory : QueueHistory Nat where
  queue := ⟨[], [2], 8⟩
  clock := 10000001
  acceptedRealtime := [(0, 1), (6000000, 3)]
  acceptedBulk := [2]
  departed := [⟨(0, 1), false, 10000001⟩, ⟨(6000000, 3), true, 10000001⟩]
  returnedBulk := []
  results := [3]

theorem run_staleHistory :
    Machine.run step (start 8)
      [.push 1 .realtime 0, .push 2 .bulk 5, .push 3 .realtime 6000000,
        .tryPop 10000001] = some staleHistory :=
  rfl

theorem priority_queue_meets_spec_stale :
    staleHistory.queue.capacity = 8 ∧
      staleHistory.queue.bulk.length ≤ 8 ∧
      staleHistory.queue.realtime.length ≤ 8 / 4 ∧
      staleHistory.Accounted ∧
      (∀ packet priority now,
        staleHistory.queue.PushSpec packet priority now) ∧
      ∀ now, staleHistory.clock ≤ now → staleHistory.queue.PopSpec now :=
  priority_queue_meets_spec run_staleHistory

end QueueHistory

end Redpill
