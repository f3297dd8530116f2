/-
Traffic classes and the two-lane client queue (`priority.rs`).  Realtime
packets carry the instant they were queued; those older than 10 ms are dropped
on the way out.  Instants are nanoseconds of one monotonic clock.
-/
import Redpill.Packet

namespace Redpill

open ByteStream

universe u

/-- Maximum age of a realtime packet: 10 ms. -/
def realtimeMaxAge : Nat := 10000000

inductive Priority where
  | realtime
  | bulk
deriving Repr, DecidableEq

/-- Class of a raw IP packet: DSCP EF, DNS requests and small UDP packets are
realtime, everything else is bulk. -/
def classify (packet : Bytes) : Priority :=
  if h : packet.length < 20 then .bulk
  else if packet[0] >>> 4 ≠ 4 then .bulk
  else if packet[1] >>> 2 = 46 then .realtime
  else if packet[9] ≠ 17 then .bulk
  else
    let ihl := (packet[0] &&& 0x0F).toNat * 4
    if h' : packet.length < ihl + 4 then .bulk
    else if u16FromBeBytes packet[ihl + 2] packet[ihl + 3] = 53 then .realtime
    else if packet.length < 300 then .realtime
    else .bulk

/-- The queue of one client.  It never looks into the packets it holds. -/
structure PriorityQueue (P : Type u) where
  realtime : List (Nat × P)
  bulk : List P
  capacity : Nat
deriving Repr

namespace PriorityQueue

variable {P : Type u}

def new (capacity : Nat) : PriorityQueue P := ⟨[], [], capacity⟩

/-- Queue a packet at instant `now`; a full lane refuses it. -/
def push (queue : PriorityQueue P) (packet : P) (priority : Priority)
    (now : Nat) : Bool × PriorityQueue P :=
  match priority with
  | .realtime =>
      if queue.realtime.length ≥ queue.capacity / 4 then (false, queue)
      else (true, { queue with realtime := queue.realtime ++ [(now, packet)] })
  | .bulk =>
      if queue.bulk.length ≥ queue.capacity then (false, queue)
      else (true, { queue with bulk := queue.bulk ++ [packet] })

/-- Take packets off the realtime lane up to the first fresh one. -/
def popRealtime (now : Nat) : List (Nat × P) → Option P × List (Nat × P)
  | [] => (none, [])
  | (stamp, packet) :: rest =>
      if now - stamp ≤ realtimeMaxAge then (some packet, rest)
      else popRealtime now rest

/-- Take the next packet at instant `now`, realtime first. -/
def tryPop (queue : PriorityQueue P) (now : Nat) :
    Option P × PriorityQueue P :=
  match popRealtime now queue.realtime with
  | (some packet, rest) => (some packet, { queue with realtime := rest })
  | (none, rest) =>
      match queue.bulk with
      | [] => (none, { queue with realtime := rest })
      | packet :: bulk =>
          (some packet, { queue with realtime := rest, bulk := bulk })

/-- The packets in the queue. -/
def packets (queue : PriorityQueue P) : List P :=
  queue.realtime.map Prod.snd ++ queue.bulk

theorem packets_new (capacity : Nat) :
    (new capacity : PriorityQueue P).packets = [] :=
  rfl

/-- A push either leaves the queue alone or adds exactly its packet. -/
theorem push_cases (queue : PriorityQueue P) (packet : P)
    (priority : Priority) (now : Nat) :
    (queue.push packet priority now).2 = queue ∨
      (queue.push packet priority now).2.packets.Perm
        (packet :: queue.packets) := by
  cases priority with
  | realtime =>
      by_cases hfull : queue.realtime.length ≥ queue.capacity / 4
      · left
        simp only [push, hfull, if_true]
      · right
        simp only [push, hfull, if_false, packets, List.map_append,
          List.map_cons, List.map_nil, List.append_assoc, List.cons_append,
          List.nil_append]
        exact List.perm_middle
  | bulk =>
      by_cases hfull : queue.bulk.length ≥ queue.capacity
      · left
        simp only [push, hfull, if_true]
      · right
        simp only [push, hfull, if_false, packets, ← List.append_assoc]
        exact List.perm_append_singleton _ _

theorem popRealtime_sublist (now : Nat) (lane : List (Nat × P)) :
    ((popRealtime now lane).1.toList ++
      (popRealtime now lane).2.map Prod.snd).Sublist (lane.map Prod.snd) := by
  induction lane with
  | nil => exact List.Sublist.refl _
  | cons entry rest ih =>
      obtain ⟨stamp, packet⟩ := entry
      by_cases hfresh : now - stamp ≤ realtimeMaxAge
      · simp [popRealtime, hfresh]
      · simp only [popRealtime, hfresh, if_false, List.map_cons]
        exact ih.cons packet

/-- What a pop returns and what it leaves were in the queue, in that order
within each lane. -/
theorem tryPop_subperm (queue : PriorityQueue P) (now : Nat) :
    ((queue.tryPop now).1.toList ++ (queue.tryPop now).2.packets).Subperm
      queue.packets := by
  have hlane := popRealtime_sublist now queue.realtime
  unfold tryPop packets
  generalize popRealtime now queue.realtime = popped at hlane
  obtain ⟨result, rest⟩ := popped
  cases result with
  | some packet =>
      simp only [Option.toList_some, List.cons_append] at hlane ⊢
      exact (hlane.append_right queue.bulk).subperm
  | none =>
      simp only [Option.toList_none, List.nil_append] at hlane
      cases hbulk : queue.bulk with
      | nil =>
          simp only [Option.toList_none, List.nil_append]
          exact (hlane.append_right []).subperm
      | cons packet bulk =>
          simp only [Option.toList_some, List.cons_append, List.nil_append]
          exact List.perm_middle.symm.subperm.trans
            (hlane.append_right (packet :: bulk)).subperm

end PriorityQueue

end Redpill
