/-
The demultiplexer (`demux.rs`): the router from client addresses to client
queues.  Queues are shared by reference in the source; here they live in a
list, a reference is a position in it, and each queue is kept together with the
address it was registered for.
-/
import Redpill.Population
import Redpill.Priority

namespace Redpill

open ByteStream

/-- A packet of the TUN device, numbered in order of arrival. -/
structure TunPacket where
  id : Nat
  bytes : Bytes
deriving Repr, DecidableEq

abbrev QueueId := Nat

structure ClientRouter where
  routes : Ipv4Addr → Option QueueId
  queues : List (Ipv4Addr × PriorityQueue TunPacket)

namespace ClientRouter

def new : ClientRouter := ⟨fun _ => none, []⟩

/-- Make a queue for a client and route its address there.  An earlier route
of the address is replaced. -/
def register (router : ClientRouter) (clientIp : Ipv4Addr) (buffer : Nat) :
    ClientRouter × QueueId :=
  ({ routes := fun ip =>
       if ip = clientIp then some router.queues.length else router.routes ip
     queues := router.queues ++ [(clientIp, PriorityQueue.new buffer)] },
    router.queues.length)

/-- Remove the route of an address, whichever queue it leads to. -/
def unregister (router : ClientRouter) (ip : Ipv4Addr) : ClientRouter :=
  { router with
    routes := fun other => if other = ip then none else router.routes other }

/-- Push a packet to the queue of the client that owns the address.  The
result is false if there is none or its lane is full. -/
def route (router : ClientRouter) (dstIp : Ipv4Addr) (packet : TunPacket)
    (now : Nat) : Bool × ClientRouter :=
  match router.routes dstIp with
  | none => (false, router)
  | some id =>
      match router.queues[id]? with
      | none => (false, router)
      | some (owner, queue) =>
          let pushed := queue.push packet (classify packet.bytes) now
          (pushed.1,
            { router with queues := router.queues.set id (owner, pushed.2) })

/-- Take the next packet out of a queue. -/
def tryPop (router : ClientRouter) (id : QueueId) (now : Nat) :
    Option TunPacket × ClientRouter :=
  match router.queues[id]? with
  | none => (none, router)
  | some (owner, queue) =>
      let popped := queue.tryPop now
      (popped.1,
        { router with queues := router.queues.set id (owner, popped.2) })

@[simp] theorem register_routes_self (router : ClientRouter) (ip : Ipv4Addr)
    (buffer : Nat) :
    (router.register ip buffer).1.routes ip = some router.queues.length := by
  simp [register]

theorem register_routes_of_ne {router : ClientRouter} {ip other : Ipv4Addr}
    (buffer : Nat) (h : other ≠ ip) :
    (router.register ip buffer).1.routes other = router.routes other := by
  simp [register, h]

@[simp] theorem unregister_routes_self (router : ClientRouter)
    (ip : Ipv4Addr) : (router.unregister ip).routes ip = none := by
  simp [unregister]

theorem unregister_routes_of_ne {router : ClientRouter} {ip other : Ipv4Addr}
    (h : other ≠ ip) :
    (router.unregister ip).routes other = router.routes other := by
  simp [unregister, h]

@[simp] theorem route_routes (router : ClientRouter) (ip : Ipv4Addr)
    (packet : TunPacket) (now : Nat) :
    (router.route ip packet now).2.routes = router.routes := by
  unfold route
  split
  · rfl
  · split <;> rfl

@[simp] theorem tryPop_routes (router : ClientRouter) (id : QueueId)
    (now : Nat) : (router.tryPop id now).2.routes = router.routes := by
  unfold tryPop
  split <;> rfl

/-- The address a queue was registered for. -/
def owner (router : ClientRouter) (id : QueueId) : Option Ipv4Addr :=
  router.queues[id]?.map Prod.fst

/-- The packets in all queues. -/
def waiting (router : ClientRouter) : List TunPacket :=
  router.queues.flatMap fun entry => entry.2.packets

theorem lt_of_owner {router : ClientRouter} {id : QueueId} {ip : Ipv4Addr}
    (h : router.owner id = some ip) : id < router.queues.length := by
  obtain ⟨entry, hentry, _⟩ := Option.map_eq_some_iff.mp h
  exact (List.getElem?_eq_some_iff.mp hentry).1

theorem register_owner {router : ClientRouter} {id : QueueId} {ip : Ipv4Addr}
    (clientIp : Ipv4Addr) (buffer : Nat) (h : router.owner id = some ip) :
    (router.register clientIp buffer).1.owner id = some ip := by
  have hlt := lt_of_owner h
  simpa [register, owner, List.getElem?_append_left hlt] using h

theorem register_owner_new (router : ClientRouter) (clientIp : Ipv4Addr)
    (buffer : Nat) :
    (router.register clientIp buffer).1.owner router.queues.length =
      some clientIp := by
  simp [register, owner]

theorem owner_set {router : ClientRouter} {id : QueueId} {ip : Ipv4Addr}
    {queue queue' : PriorityQueue TunPacket}
    (h : router.queues[id]? = some (ip, queue)) (other : QueueId) :
    ({ router with queues := router.queues.set id (ip, queue') } :
      ClientRouter).owner other = router.owner other := by
  by_cases heq : other = id
  · subst heq
    simp [owner, Population.getElem?_set_new h, h]
  · simp [owner, List.getElem?_set_ne (Ne.symm heq)]

@[simp] theorem route_owner (router : ClientRouter) (ip : Ipv4Addr)
    (packet : TunPacket) (now : Nat) (id : QueueId) :
    (router.route ip packet now).2.owner id = router.owner id := by
  unfold route
  split
  · rfl
  · split
    · rfl
    · rename_i hqueue
      exact owner_set hqueue id

@[simp] theorem tryPop_owner (router : ClientRouter) (id : QueueId)
    (now : Nat) (other : QueueId) :
    (router.tryPop id now).2.owner other = router.owner other := by
  unfold tryPop
  split
  · rfl
  · rename_i hqueue
    exact owner_set hqueue other

theorem register_waiting (router : ClientRouter) (clientIp : Ipv4Addr)
    (buffer : Nat) :
    (router.register clientIp buffer).1.waiting = router.waiting := by
  simp [register, waiting, PriorityQueue.packets_new]

/-- Routing adds its packet to what is waiting, or nothing. -/
theorem route_waiting (router : ClientRouter) (ip : Ipv4Addr)
    (packet : TunPacket) (now : Nat) :
    (router.route ip packet now).2.waiting.Subperm
      (packet :: router.waiting) := by
  have hkeep : router.waiting.Subperm (packet :: router.waiting) :=
    (List.sublist_cons_self packet router.waiting).subperm
  unfold route
  split
  · exact hkeep
  · split
    · exact hkeep
    · rename_i id _ owner queue hqueue
      obtain ⟨rest, hbefore, hafter⟩ :=
        Population.flatMap_set_perm (fun entry => entry.2.packets) hqueue
          (owner, (queue.push packet (classify packet.bytes) now).2)
      rcases queue.push_cases packet (classify packet.bytes) now with
        hsame | hadded
      · have hback : ((queue.push packet (classify packet.bytes) now).2.packets ++
            rest).Perm router.waiting := by
          rw [hsame]
          exact hbefore.symm
        exact (hafter.trans hback).subperm.trans hkeep
      · have hcons := (hadded.append_right rest).trans (hbefore.symm.cons packet)
        exact (hafter.trans hcons).subperm

/-- A popped packet and what is left were waiting. -/
theorem tryPop_waiting (router : ClientRouter) (id : QueueId) (now : Nat) :
    ((router.tryPop id now).1.toList ++
      (router.tryPop id now).2.waiting).Subperm router.waiting := by
  unfold tryPop
  split
  · exact List.Subperm.refl _
  · rename_i owner queue hqueue
    obtain ⟨rest, hbefore, hafter⟩ :=
      Population.flatMap_set_perm (fun entry => entry.2.packets) hqueue
        (owner, (queue.tryPop now).2)
    have hpop := (queue.tryPop_subperm now).append (List.Subperm.refl rest)
    rw [List.append_assoc] at hpop
    have hleft := hafter.append_left (queue.tryPop now).1.toList
    exact hleft.subperm.trans (hpop.trans hbefore.symm.subperm)

/-- Routes lead to the queues of their addresses, and a queue holds only
packets for the address it was registered for. -/
structure Sound (router : ClientRouter) : Prop where
  routed : ∀ ip id, router.routes ip = some id → router.owner id = some ip
  addressed : ∀ entry ∈ router.queues, ∀ packet ∈ entry.2.packets,
    extractDstIpv4 packet.bytes = some entry.1

theorem Sound.new : ClientRouter.new.Sound where
  routed := nofun
  addressed := nofun

theorem Sound.register {router : ClientRouter} (h : router.Sound)
    (clientIp : Ipv4Addr) (buffer : Nat) :
    (router.register clientIp buffer).1.Sound where
  routed ip id hroute := by
    by_cases heq : ip = clientIp
    · subst heq
      rw [register_routes_self, Option.some.injEq] at hroute
      rw [← hroute]
      exact router.register_owner_new ip buffer
    · rw [register_routes_of_ne buffer heq] at hroute
      exact register_owner clientIp buffer (h.routed ip id hroute)
  addressed entry hentry := by
    rcases List.mem_append.mp hentry with hold | hnew
    · exact h.addressed entry hold
    · rw [List.mem_singleton.mp hnew]
      intro packet hpacket
      cases hpacket

theorem Sound.unregister {router : ClientRouter} (h : router.Sound)
    (clientIp : Ipv4Addr) : (router.unregister clientIp).Sound where
  routed ip id hroute := by
    by_cases heq : ip = clientIp
    · rw [heq, unregister_routes_self] at hroute
      cases hroute
    · rw [unregister_routes_of_ne heq] at hroute
      exact h.routed ip id hroute
  addressed := h.addressed

/-- Replacing a queue keeps the router sound if the new content is for the
same client. -/
theorem Sound.set {router : ClientRouter} (h : router.Sound) {id : QueueId}
    {ip : Ipv4Addr} {queue queue' : PriorityQueue TunPacket}
    (hqueue : router.queues[id]? = some (ip, queue))
    (hcontent : ∀ packet ∈ queue'.packets,
      extractDstIpv4 packet.bytes = some ip) :
    ({ router with queues := router.queues.set id (ip, queue') } :
      ClientRouter).Sound where
  routed other id' hroute := by
    rw [owner_set hqueue]
    exact h.routed other id' hroute
  addressed entry hentry := by
    rcases List.mem_or_eq_of_mem_set hentry with hold | rfl
    · exact h.addressed entry hold
    · exact hcontent

theorem Sound.route {router : ClientRouter} (h : router.Sound)
    {ip : Ipv4Addr} {packet : TunPacket}
    (hdst : extractDstIpv4 packet.bytes = some ip) (now : Nat) :
    (router.route ip packet now).2.Sound := by
  unfold ClientRouter.route
  split
  · exact h
  · rename_i id hroute
    split
    · exact h
    · rename_i owner queue hqueue
      have howner : owner = ip := by
        have := h.routed ip id hroute
        simpa [ClientRouter.owner, hqueue] using this
      subst howner
      apply h.set hqueue
      intro other hother
      rcases queue.push_cases packet (classify packet.bytes) now with
        hsame | hadded
      · rw [hsame] at hother
        exact h.addressed _ (List.mem_of_getElem? hqueue) other hother
      · rcases List.mem_cons.mp (hadded.mem_iff.mp hother) with rfl | hold
        · exact hdst
        · exact h.addressed _ (List.mem_of_getElem? hqueue) other hold

/-- A popped packet is for the owner of its queue. -/
theorem Sound.tryPop {router : ClientRouter} (h : router.Sound) (id : QueueId)
    (now : Nat) : (router.tryPop id now).2.Sound ∧
      ∀ packet ∈ (router.tryPop id now).1,
        extractDstIpv4 packet.bytes = router.owner id := by
  unfold ClientRouter.tryPop
  split
  · exact ⟨h, nofun⟩
  · rename_i owner queue hqueue
    have hcontent := h.addressed _ (List.mem_of_getElem? hqueue)
    have hsubset := (queue.tryPop_subperm now).subset
    constructor
    · apply h.set hqueue
      intro packet hpacket
      exact hcontent packet (hsubset (List.mem_append_right _ hpacket))
    · intro packet hpacket
      have howner : router.owner id = some owner := by
        simp [ClientRouter.owner, hqueue]
      rw [howner]
      apply hcontent packet
      apply hsubset
      apply List.mem_append_left
      rw [Option.mem_toList]
      exact hpacket

end ClientRouter

end Redpill
