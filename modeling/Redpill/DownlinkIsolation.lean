/-
Downlink isolation across transports.  Packets that pass the router reach only
the client they are addressed to, and no packet is delivered twice.  The
forwarding task of a WebSocket tunnel reads the TUN next to the global reader
and sends whatever it gets, so isolation holds along a run exactly if every
packet it gets happens to be for its own client.
-/
import Redpill.Accounting

namespace Redpill

open ByteStream

/-- The bytes that went out are an IPv4 packet for the address assigned to the
session they went to. -/
def Delivery.Addressed (sessions : List Session) (delivery : Delivery) : Prop :=
  ∃ session ∈ sessions[delivery.session]?, ∃ ip ∈ session.assigned,
    extractDstIpv4 delivery.payload = some ip

instance (sessions : List Session) (delivery : Delivery) :
    Decidable (delivery.Addressed sessions) :=
  inferInstanceAs (Decidable (∃ session ∈ sessions[delivery.session]?, _))

/-- Every delivery went to the client it is addressed to, and no packet of the
TUN was delivered more than once. -/
structure Server.Isolated (server : Server) : Prop where
  addressed : ∀ delivery ∈ server.state.deliveries,
    delivery.Addressed server.sessions
  once : (server.state.deliveries.map fun delivery => delivery.packet.id).Nodup

/-- The session whose own task reads the TUN in a step. -/
def ServerLabel.wsReader : ServerLabel → Option Nat
  | .session index .readTun => some index
  | _ => none

/-- What a WebSocket tunnel reads from the TUN is for its own client. -/
def Server.WsReadsOwn (server : Server) (label : ServerLabel) : Prop :=
  ∀ index ∈ label.wsReader, ∀ session ∈ server.sessions[index]?,
    session.handler = .ws → session.forwarding = true →
    ∀ packet ∈ server.state.tun.head?, ∀ ipPkt ∈ nonEmpty packet,
      ∃ ip ∈ session.assigned, extractDstIpv4 ipPkt.bytes = some ip

instance (server : Server) (label : ServerLabel) :
    Decidable (server.WsReadsOwn label) :=
  inferInstanceAs (Decidable (∀ index ∈ label.wsReader, _))

/-- Queues, routes and sessions agree on the addresses they serve. -/
structure Server.Channelled (server : Server) : Prop where
  router : server.state.router.Sound
  early : ∀ session ∈ server.sessions, session.phase.early = true →
    session.assigned = none
  held : ∀ session ∈ server.sessions, ∀ ip, session.phase.held = some ip →
    session.assigned = some ip
  queue : ∀ session ∈ server.sessions, ∀ id, session.queue = some id →
    ∃ ip, server.state.router.owner id = some ip ∧ session.assigned = some ip

/-- The numbers of all packets of the system: in the TUN, in the queues and
delivered. -/
def Resources.packetIds (resources : Resources) : List Nat :=
  resources.tun.map TunPacket.id ++ resources.router.waiting.map TunPacket.id ++
    resources.deliveries.map fun delivery => delivery.packet.id

/-- No packet is in two places. -/
structure Server.Numbered (server : Server) : Prop where
  distinct : server.state.resources.packetIds.Nodup
  bounded : ∀ id ∈ server.state.resources.packetIds, id < server.state.nextId

section Moves

variable {index : Nat} {state : ServerState} {session : Session}
  {event : SessionEvent} {resources : Resources} {holdings : Holdings}

theorem ResourceStep.sound
    (h : ResourceStep index state session event resources holdings)
    (hrouter : state.router.Sound) : resources.router.Sound := by
  cases h with
  | keep => exact hrouter
  | openConnection => exact hrouter
  | openSession username => exact hrouter
  | allocate clientIp pool hpool hearly => exact hrouter
  | release clientIp hheld => exact hrouter
  | register clientIp buffer hheld => exact hrouter.register clientIp buffer
  | drop guard rest hevent hphase hguards =>
      cases guard with
      | connection => exact hrouter
      | session username => exact hrouter
      | clientHandle clientIp => exact hrouter.unregister clientIp
  | forward id now hqueue => exact (hrouter.tryPop id now).1
  | readTun packet rest htun hevent hhandler hforwarding => exact hrouter

/-- A queue keeps its owner. -/
theorem ResourceStep.owner
    (h : ResourceStep index state session event resources holdings)
    {id : QueueId} {ip : Ipv4Addr} (howner : state.router.owner id = some ip) :
    resources.router.owner id = some ip := by
  cases h with
  | keep => exact howner
  | openConnection => exact howner
  | openSession username => exact howner
  | allocate clientIp pool hpool hearly => exact howner
  | release clientIp hheld => exact howner
  | register clientIp buffer hheld =>
      exact ClientRouter.register_owner clientIp buffer howner
  | drop guard rest hevent hphase hguards =>
      cases guard with
      | connection => exact howner
      | session username => exact howner
      | clientHandle clientIp => exact howner
  | forward other now hqueue =>
      exact (state.router.tryPop_owner other now id).trans howner
  | readTun packet rest htun hevent hhandler hforwarding => exact howner

/-- An address is assigned by its allocation and never changes. -/
theorem ResourceStep.assigned
    (h : ResourceStep index state session event resources holdings) :
    holdings.assigned = session.assigned ∨
      (session.phase.early = true ∧ holdings.held.isSome = true ∧
        holdings.assigned = holdings.held ∧ holdings.queue = session.queue) := by
  cases h with
  | keep => exact Or.inl rfl
  | openConnection => exact Or.inl rfl
  | openSession username => exact Or.inl rfl
  | allocate clientIp pool hpool hearly => exact Or.inr ⟨hearly, rfl, rfl, rfl⟩
  | release clientIp hheld => exact Or.inl rfl
  | register clientIp buffer hheld => exact Or.inl rfl
  | drop guard rest hevent hphase hguards => exact Or.inl rfl
  | forward id now hqueue => exact Or.inl rfl
  | readTun packet rest htun hevent hhandler hforwarding => exact Or.inl rfl

theorem ResourceStep.held_assigned
    (h : ResourceStep index state session event resources holdings)
    (hold : ∀ ip, session.phase.held = some ip → session.assigned = some ip)
    {ip : Ipv4Addr} (hheld : holdings.held = some ip) :
    holdings.assigned = some ip := by
  cases h with
  | keep => exact hold ip hheld
  | openConnection => exact hold ip hheld
  | openSession username => exact hold ip hheld
  | allocate clientIp pool hpool hearly => exact hheld
  | release clientIp hclientIp => cases hheld
  | register clientIp buffer hclientIp => exact hold ip hheld
  | drop guard rest hevent hphase hguards => exact hold ip hheld
  | forward id now hqueue => exact hold ip hheld
  | readTun packet rest htun hevent hhandler hforwarding => exact hold ip hheld

/-- The queue of a session is owned by its address. -/
theorem ResourceStep.queue_owner
    (h : ResourceStep index state session event resources holdings)
    (hearly : session.phase.early = true → session.assigned = none)
    (hheld : ∀ ip, session.phase.held = some ip → session.assigned = some ip)
    (hold : ∀ id, session.queue = some id →
      ∃ ip, state.router.owner id = some ip ∧ session.assigned = some ip)
    {id : QueueId} (hqueue : holdings.queue = some id) :
    ∃ ip, resources.router.owner id = some ip ∧ holdings.assigned = some ip := by
  have hkept : holdings.queue = session.queue →
      holdings.assigned = session.assigned →
      ∃ ip, resources.router.owner id = some ip ∧
        holdings.assigned = some ip := by
    intro hsame hassigned
    obtain ⟨ip, howner, hip⟩ := hold id (hsame.symm.trans hqueue)
    exact ⟨ip, h.owner howner, hassigned.trans hip⟩
  cases h with
  | keep => exact hkept rfl rfl
  | openConnection => exact hkept rfl rfl
  | openSession username => exact hkept rfl rfl
  | allocate clientIp pool hpool hphase =>
      obtain ⟨ip, _, hip⟩ := hold id hqueue
      rw [hearly hphase] at hip
      cases hip
  | release clientIp hclientIp => exact hkept rfl rfl
  | register clientIp buffer hclientIp =>
      obtain rfl := Option.some.inj hqueue
      exact ⟨clientIp, state.router.register_owner_new clientIp buffer,
        hheld clientIp hclientIp⟩
  | drop guard rest hevent hphase hguards => exact hkept rfl rfl
  | forward other now hother => exact hkept rfl rfl
  | readTun packet rest htun hevent hhandler hforwarding => exact hkept rfl rfl

end Moves

theorem EnvironmentStep.sound {state : ServerState} {resources : Resources}
    (h : EnvironmentStep state resources) (hrouter : state.router.Sound) :
    resources.router.Sound ∧
      ∀ id, resources.router.owner id = state.router.owner id := by
  cases h with
  | idle => exact ⟨hrouter, fun _ => rfl⟩
  | arrive bytes => exact ⟨hrouter, fun _ => rfl⟩
  | discard packet rest htun => exact ⟨hrouter, fun _ => rfl⟩
  | route packet rest dstIp now htun hdst =>
      exact ⟨hrouter.route hdst now, fun id => by simp⟩

theorem Server.Channelled.step {hmac : Hmac} {server next : Server}
    {label : ServerLabel} (h : server.Channelled)
    (hstep : server.step hmac label = some next) : next.Channelled := by
  rcases Server.step_cases hstep with ⟨henvironment, hsessions⟩ |
    ⟨handler, rfl⟩ | ⟨index, event, session, moved, _, hsession, hmoved, rfl⟩
  · obtain ⟨hsound, howner⟩ := henvironment.sound h.router
    refine ⟨hsound, ?_, ?_, ?_⟩
    · rw [hsessions]
      exact h.early
    · rw [hsessions]
      exact h.held
    · rw [hsessions]
      intro session hsession id hqueue
      obtain ⟨ip, hid, hassigned⟩ := h.queue session hsession id hqueue
      exact ⟨ip, (howner id).trans hid, hassigned⟩
  · constructor
    · exact h.router
    · intro session hsession hearly
      rcases List.mem_append.mp hsession with hold | hnew
      · exact h.early session hold hearly
      · rw [List.mem_singleton.mp hnew]
        rfl
    · intro session hsession ip hheld
      rcases List.mem_append.mp hsession with hold | hnew
      · exact h.held session hold ip hheld
      · rw [List.mem_singleton.mp hnew] at hheld
        cases hheld
    · intro session hsession id hqueue
      rcases List.mem_append.mp hsession with hold | hnew
      · exact h.queue session hold id hqueue
      · rw [List.mem_singleton.mp hnew] at hqueue
        cases hqueue
  · have hmove := Session.step_move hmoved
    have hmem := List.mem_of_getElem? hsession
    constructor
    · exact hmove.resources.sound h.router
    · intro other hother hearly
      rcases List.mem_or_eq_of_mem_set hother with hold | rfl
      · exact h.early other hold hearly
      · rcases hmove.resources.assigned with hsame | ⟨_, hheld, _⟩
        · exact hsame.trans (h.early session hmem (hmove.early hearly))
        · have hnone : moved.2.holdings.held = none := early_held hearly
          rw [hnone] at hheld
          cases hheld
    · intro other hother ip hheld
      rcases List.mem_or_eq_of_mem_set hother with hold | rfl
      · exact h.held other hold ip hheld
      · exact hmove.resources.held_assigned (h.held session hmem) hheld
    · intro other hother id hqueue
      rcases List.mem_or_eq_of_mem_set hother with hold | rfl
      · obtain ⟨ip, howner, hassigned⟩ := h.queue other hold id hqueue
        exact ⟨ip, hmove.resources.owner howner, hassigned⟩
      · exact hmove.resources.queue_owner (h.early session hmem)
          (h.held session hmem) (h.queue session hmem) hqueue

theorem nonEmpty_id {packet ipPkt : TunPacket}
    (h : ipPkt ∈ nonEmpty packet) : ipPkt.id = packet.id := by
  unfold nonEmpty at h
  split at h
  · cases h
  · rw [← Option.some.inj h]

theorem nonEmpty_ids (packet : TunPacket) :
    ((nonEmpty packet).toList.map TunPacket.id).Sublist [packet.id] := by
  cases hread : nonEmpty packet with
  | none => exact List.nil_sublist _
  | some ipPkt =>
      rw [Option.toList_some, List.map_cons, List.map_nil, nonEmpty_id hread]

theorem subperm_ids {first second : List TunPacket} (h : first.Subperm second) :
    (first.map TunPacket.id).Subperm (second.map TunPacket.id) := by
  obtain ⟨middle, hperm, hsublist⟩ := h
  exact ⟨middle.map TunPacket.id, hperm.map _, hsublist.map _⟩

theorem append_rotate (first second third fourth : List Nat) :
    (first ++ second ++ (third ++ fourth)).Perm
      (first ++ (fourth ++ second) ++ third) := by
  rw [List.append_assoc, List.append_assoc, List.append_assoc]
  apply List.Perm.append_left
  rw [← List.append_assoc]
  exact List.perm_append_comm

/-- A session step creates no packet. -/
theorem ResourceStep.packetIds {index : Nat} {state : ServerState}
    {session : Session} {event : SessionEvent} {resources : Resources}
    {holdings : Holdings}
    (h : ResourceStep index state session event resources holdings) :
    resources.packetIds.Subperm state.resources.packetIds ∧
      resources.nextId = state.nextId := by
  cases h with
  | keep => exact ⟨List.Subperm.refl _, rfl⟩
  | openConnection => exact ⟨List.Subperm.refl _, rfl⟩
  | openSession username => exact ⟨List.Subperm.refl _, rfl⟩
  | allocate clientIp pool hpool hearly => exact ⟨List.Subperm.refl _, rfl⟩
  | release clientIp hheld => exact ⟨List.Subperm.refl _, rfl⟩
  | register clientIp buffer hheld =>
      refine ⟨?_, rfl⟩
      simp only [Resources.packetIds, ClientRouter.register_waiting]
      exact List.Subperm.refl _
  | drop guard rest hevent hphase hguards =>
      cases guard with
      | connection => exact ⟨List.Subperm.refl _, rfl⟩
      | session username => exact ⟨List.Subperm.refl _, rfl⟩
      | clientHandle clientIp => exact ⟨List.Subperm.refl _, rfl⟩
  | forward id now hqueue =>
      refine ⟨?_, rfl⟩
      have hpop := subperm_ids (state.router.tryPop_waiting id now)
      rw [List.map_append] at hpop
      simp only [Resources.packetIds, List.map_append, List.map_map]
      apply (append_rotate _ _ _ _).subperm.trans
      exact ((List.Subperm.refl _).append hpop).append (List.Subperm.refl _)
  | readTun packet rest htun hevent hhandler hforwarding =>
      refine ⟨?_, rfl⟩
      have hread := nonEmpty_ids packet
      simp only [Resources.packetIds, ServerState.resources, htun,
        List.map_append, List.map_map, List.map_cons]
      apply (append_rotate _ _ _ _).subperm.trans
      rw [← List.append_assoc]
      apply List.Subperm.append _ (List.Subperm.refl _)
      apply List.Subperm.append _ (List.Subperm.refl _)
      apply List.perm_append_comm.subperm.trans
      exact (hread.append_right _).subperm

/-- The environment creates a packet only when one arrives, with a fresh
number. -/
theorem EnvironmentStep.packetIds {state : ServerState} {resources : Resources}
    (h : EnvironmentStep state resources) :
    (resources.packetIds.Subperm state.resources.packetIds ∧
        resources.nextId = state.nextId) ∨
      (resources.packetIds.Perm (state.nextId :: state.resources.packetIds) ∧
        resources.nextId = state.nextId + 1) := by
  cases h with
  | idle => exact Or.inl ⟨List.Subperm.refl _, rfl⟩
  | arrive bytes =>
      refine Or.inr ⟨?_, rfl⟩
      simp only [Resources.packetIds, ServerState.resources, List.map_append,
        List.map_cons, List.map_nil, List.append_assoc, List.cons_append,
        List.nil_append]
      exact List.perm_middle
  | discard packet rest htun =>
      refine Or.inl ⟨?_, rfl⟩
      simp only [Resources.packetIds, ServerState.resources, htun,
        List.map_cons, List.cons_append]
      exact (List.sublist_cons_self _ _).subperm
  | route packet rest dstIp now htun hdst =>
      refine Or.inl ⟨?_, rfl⟩
      have hroute := subperm_ids (state.router.route_waiting dstIp
        ⟨packet.id, packet.bytes.take tunBufLen⟩ now)
      rw [List.map_cons] at hroute
      simp only [Resources.packetIds, ServerState.resources, htun,
        List.map_cons, List.cons_append]
      apply List.Subperm.trans
        (((List.Subperm.refl _).append hroute).append (List.Subperm.refl _))
      rw [← List.cons_append]
      exact (List.perm_middle.append_right _).subperm

theorem Server.Numbered.of_subperm {server next : Server} (h : server.Numbered)
    (hids : next.state.resources.packetIds.Subperm
      server.state.resources.packetIds)
    (hnext : next.state.nextId = server.state.nextId) : next.Numbered where
  distinct := by
    obtain ⟨ids, hperm, hsublist⟩ := hids
    exact hperm.nodup_iff.mp (h.distinct.sublist hsublist)
  bounded id hid := by
    rw [hnext]
    exact h.bounded id (hids.subset hid)

theorem Server.Numbered.step {hmac : Hmac} {server next : Server}
    {label : ServerLabel} (h : server.Numbered)
    (hstep : server.step hmac label = some next) : next.Numbered := by
  rcases Server.step_cases hstep with ⟨henvironment, _⟩ | ⟨handler, rfl⟩ |
    ⟨index, event, session, moved, _, hsession, hmoved, rfl⟩
  · rcases henvironment.packetIds with ⟨hids, hnext⟩ | ⟨hids, hnext⟩
    · exact h.of_subperm hids hnext
    · have hfresh : server.state.nextId ∉ server.state.resources.packetIds :=
        fun hmem => Nat.lt_irrefl _ (h.bounded _ hmem)
      constructor
      · exact hids.nodup_iff.mpr (List.nodup_cons.mpr ⟨hfresh, h.distinct⟩)
      · intro id hid
        have hbound : next.state.nextId = server.state.nextId + 1 := hnext
        rw [hbound]
        rcases List.mem_cons.mp (hids.mem_iff.mp hid) with rfl | hold
        · exact Nat.lt_succ_self _
        · exact Nat.lt_succ_of_lt (h.bounded id hold)
  · exact ⟨h.distinct, h.bounded⟩
  · obtain ⟨hids, hnext⟩ := (Session.step_move hmoved).resources.packetIds
    exact h.of_subperm hids hnext

theorem Server.Numbered.once {server : Server} (h : server.Numbered) :
    (server.state.deliveries.map fun delivery => delivery.packet.id).Nodup :=
  (List.nodup_append.mp h.distinct).2.1

/-- Padding does not change the destination of a packet. -/
theorem extractDstIpv4_of_extension {data padded : Bytes} {ip : Ipv4Addr}
    (hext : data <+: padded) (h : extractDstIpv4 data = some ip) :
    extractDstIpv4 padded = some ip := by
  obtain ⟨hlen, hnibble, hdst⟩ := extractDstIpv4_eq_some.mp h
  have hne : data ≠ [] := by
    intro hnil
    rw [hnil] at hlen
    simp at hlen
  apply extractDstIpv4_eq_some.mpr
  refine ⟨Nat.le_trans hlen hext.length_le, ?_, ?_⟩
  · rw [versionNibble_of_extension hne hext, hnibble]
  · obtain ⟨tail, rfl⟩ := hext
    rw [List.drop_append_of_le_length (by omega),
      List.take_append_of_le_length (by simp; omega), hdst]

/-- Where a delivery of a session step comes from. -/
theorem ResourceStep.deliveries {index : Nat} {state : ServerState}
    {session : Session} {event : SessionEvent} {resources : Resources}
    {holdings : Holdings}
    (h : ResourceStep index state session event resources holdings)
    (hsound : state.router.Sound) {delivery : Delivery}
    (hdelivery : delivery ∈ resources.deliveries) :
    delivery ∈ state.deliveries ∨
      delivery.session = index ∧ holdings.assigned = session.assigned ∧
        ((∃ id, session.queue = some id ∧ ∀ ip, state.router.owner id = some ip →
            extractDstIpv4 delivery.payload = some ip) ∨
          (event = .readTun ∧ session.handler = .ws ∧
            session.forwarding = true ∧ ∃ packet ∈ state.tun.head?,
              ∃ ipPkt ∈ nonEmpty packet, delivery.payload = ipPkt.bytes)) := by
  cases h with
  | keep => exact Or.inl hdelivery
  | openConnection => exact Or.inl hdelivery
  | openSession username => exact Or.inl hdelivery
  | allocate clientIp pool hpool hearly => exact Or.inl hdelivery
  | release clientIp hheld => exact Or.inl hdelivery
  | register clientIp buffer hheld => exact Or.inl hdelivery
  | drop guard rest hevent hphase hguards =>
      cases guard with
      | connection => exact Or.inl hdelivery
      | session username => exact Or.inl hdelivery
      | clientHandle clientIp => exact Or.inl hdelivery
  | forward id now hqueue =>
      rcases List.mem_append.mp hdelivery with hold | hnew
      · exact Or.inl hold
      · obtain ⟨packet, hpacket, rfl⟩ := List.mem_map.mp hnew
        refine Or.inr ⟨rfl, rfl, Or.inl ⟨id, hqueue, ?_⟩⟩
        intro ip howner
        have hdst := (hsound.tryPop id now).2 packet (Option.mem_toList.mp hpacket)
        exact extractDstIpv4_of_extension (camouflagedSend_extends _ _)
          (hdst.trans howner)
  | readTun packet rest htun hevent hhandler hforwarding =>
      rcases List.mem_append.mp hdelivery with hold | hnew
      · exact Or.inl hold
      · obtain ⟨ipPkt, hipPkt, rfl⟩ := List.mem_map.mp hnew
        refine Or.inr ⟨rfl, rfl, Or.inr ⟨hevent, hhandler, hforwarding, packet, ?_,
          ipPkt, Option.mem_toList.mp hipPkt, rfl⟩⟩
        rw [htun]
        rfl

/-- A delivery stays addressed, since assigned addresses do not change. -/
theorem Delivery.Addressed.step {hmac : Hmac} {server next : Server}
    {label : ServerLabel} {delivery : Delivery} (hchannelled : server.Channelled)
    (h : delivery.Addressed server.sessions)
    (hstep : server.step hmac label = some next) :
    delivery.Addressed next.sessions := by
  obtain ⟨session, hsession, ip, hip, hdst⟩ := h
  rcases Server.step_cases hstep with ⟨_, hsessions⟩ | ⟨handler, rfl⟩ |
    ⟨index, event, mover, moved, _, hmover, hmoved, rfl⟩
  · rw [hsessions]
    exact ⟨session, hsession, ip, hip, hdst⟩
  · refine ⟨session, ?_, ip, hip, hdst⟩
    obtain ⟨hlt, _⟩ := List.getElem?_eq_some_iff.mp hsession
    exact (List.getElem?_append_left hlt).trans hsession
  · by_cases heq : delivery.session = index
    · have hsame : session = mover := by
        rw [heq] at hsession
        exact Option.some.inj (hsession.symm.trans hmover)
      subst hsame
      refine ⟨moved.2, ?_, ip, ?_, hdst⟩
      · rw [heq]
        exact Population.getElem?_set_new hmover
      · have hmem := List.mem_of_getElem? hmover
        rcases (Session.step_move hmoved).resources.assigned with
          hassigned | ⟨hearly, _⟩
        · exact hassigned.trans hip
        · rw [hchannelled.early session hmem hearly] at hip
          cases hip
    · exact ⟨session, Population.getElem?_set_of_ne heq hsession, ip, hip, hdst⟩

/-- The new delivery of a session step is addressed, if what a WebSocket
tunnel reads is for its own client. -/
theorem ResourceStep.addressed {index : Nat} {server : Server}
    {session moved : Session} {event : SessionEvent} {resources : Resources}
    (h : ResourceStep index server.state session event resources moved.holdings)
    (hchannelled : server.Channelled)
    (hsession : server.sessions[index]? = some session)
    (hreads : server.WsReadsOwn (.session index event)) {delivery : Delivery}
    (hnew : delivery ∈ resources.deliveries)
    (hold : delivery ∉ server.state.deliveries) :
    delivery.Addressed (server.sessions.set index moved) := by
  have hmem := List.mem_of_getElem? hsession
  rcases h.deliveries hchannelled.router hnew with hin |
    ⟨hindex, hassigned, ⟨id, hqueue, hdst⟩ |
      ⟨rfl, hhandler, hforwarding, packet, hpacket, ipPkt, hipPkt, hpayload⟩⟩
  · exact absurd hin hold
  · obtain ⟨ip, howner, hip⟩ := hchannelled.queue session hmem id hqueue
    refine ⟨moved, ?_, ip, hassigned.trans hip, hdst ip howner⟩
    rw [hindex]
    exact Population.getElem?_set_new hsession
  · obtain ⟨ip, hip, hdst⟩ :=
      hreads index rfl session hsession hhandler hforwarding packet hpacket
        ipPkt hipPkt
    refine ⟨moved, ?_, ip, hassigned.trans hip, ?_⟩
    · rw [hindex]
      exact Population.getElem?_set_new hsession
    · rw [hpayload]
      exact hdst

/-- A step that meets the condition keeps the downlink isolated. -/
theorem Server.Isolated.step {hmac : Hmac} {server next : Server}
    {label : ServerLabel} (h : server.Isolated)
    (hchannelled : server.Channelled) (hnumbered : server.Numbered)
    (hreads : server.WsReadsOwn label)
    (hstep : server.step hmac label = some next) : next.Isolated := by
  refine ⟨?_, (hnumbered.step hstep).once⟩
  intro delivery hdelivery
  by_cases hin : delivery ∈ server.state.deliveries
  · exact (h.addressed delivery hin).step hchannelled hstep
  · rcases Server.step_cases hstep with ⟨henvironment, _⟩ | ⟨handler, rfl⟩ |
      ⟨index, event, session, moved, rfl, hsession, hmoved, rfl⟩
    · obtain ⟨router, tun, nextId, _, hresources⟩ := henvironment.packets_only
      have hsame : next.state.deliveries = server.state.deliveries :=
        congrArg Resources.deliveries hresources
      rw [hsame] at hdelivery
      exact absurd hdelivery hin
    · exact absurd hdelivery hin
    · exact (Session.step_move hmoved).resources.addressed hchannelled hsession
        hreads hdelivery hin

/-- A WebSocket read that leaves the downlink isolated was for its own
client. -/
theorem Server.wsReadsOwn_of_isolated {hmac : Hmac} {server next : Server}
    {label : ServerLabel} (hnext : next.Isolated)
    (hstep : server.step hmac label = some next) :
    server.WsReadsOwn label := by
  intro index hreader session hsession _ _ packet hpacket ipPkt hipPkt
  unfold ServerLabel.wsReader at hreader
  split at hreader
  · rename_i reader
    have hindex : reader = index := Option.some.inj hreader
    subst hindex
    have hlookup : server.sessions[reader]? = some session := hsession
    simp only [Server.step, hlookup, Session.step] at hstep
    obtain ⟨moved, hread, rfl⟩ := Option.map_eq_some_iff.mp hstep
    obtain ⟨first, rest, htun, _, _, rfl⟩ := Session.readTun_cases hread
    have hfirst : first = packet := by
      rw [htun] at hpacket
      exact Option.some.inj hpacket
    subst hfirst
    have hmem : (⟨reader, ipPkt, ipPkt.bytes⟩ : Delivery) ∈
        server.state.deliveries ++ (nonEmpty first).toList.map fun ipPkt =>
          ⟨reader, ipPkt, ipPkt.bytes⟩ := by
      apply List.mem_append_right
      exact List.mem_map.mpr ⟨ipPkt, Option.mem_toList.mpr hipPkt, rfl⟩
    obtain ⟨found, hfound, ip, hip, hdst⟩ := hnext.addressed _ hmem
    have hsame : found = session := by
      have hset : (server.sessions.set reader session)[reader]? = some found :=
        hfound
      rw [Population.getElem?_set_new hlookup] at hset
      exact (Option.some.inj hset).symm
    rw [hsame] at hip
    exact ⟨ip, hip, hdst⟩
  · cases hreader

section Start

variable (auth : AuthMode) (base serverIp dnsIp : Ipv4Addr)
  (mtu maxConnections mbps : Nat)

theorem Server.Channelled.start :
    (Server.start auth base serverIp dnsIp mtu maxConnections mbps).Channelled where
  router := ClientRouter.Sound.new
  early := by simp [Server.start]
  held := by simp [Server.start]
  queue := by simp [Server.start]

theorem Server.Numbered.start :
    (Server.start auth base serverIp dnsIp mtu maxConnections mbps).Numbered where
  distinct := List.nodup_nil
  bounded _ hid := absurd hid List.not_mem_nil

theorem Server.Isolated.start :
    (Server.start auth base serverIp dnsIp mtu maxConnections mbps).Isolated where
  addressed _ hdelivery := absurd hdelivery List.not_mem_nil
  once := List.nodup_nil

end Start

/-- Downlink isolation along a run: every delivery goes to the client it is
addressed to, and no packet is delivered twice, in every state of the run
exactly if each packet that a WebSocket tunnel reads from the TUN is for its
own client. -/
theorem downlink_isolated_iff {hmac : Hmac} (auth : AuthMode)
    (base serverIp dnsIp : Ipv4Addr) (mtu maxConnections mbps : Nat)
    {schedule : List ServerLabel} {final : Server}
    (hrun : Machine.run (Server.step hmac)
      (Server.start auth base serverIp dnsIp mtu maxConnections mbps) schedule =
        some final) :
    Machine.Always (Server.step hmac) Server.Isolated
        (Server.start auth base serverIp dnsIp mtu maxConnections mbps)
        schedule ↔
      Machine.Meets (Server.step hmac) Server.WsReadsOwn
        (Server.start auth base serverIp dnsIp mtu maxConnections mbps)
        schedule := by
  apply Machine.always_iff_meets
    (fun server => server.Channelled ∧ server.Numbered) _ _ _ _ hrun
  · intro state label next hinv hstep
    exact ⟨hinv.1.step hstep, hinv.2.step hstep⟩
  · intro state label next hinv hisolated hstep
    constructor
    · intro hnext
      exact Server.wsReadsOwn_of_isolated hnext hstep
    · intro hreads
      exact hisolated.step hinv.1 hinv.2 hreads hstep
  · exact ⟨Server.Channelled.start auth base serverIp dnsIp mtu maxConnections mbps,
      Server.Numbered.start auth base serverIp dnsIp mtu maxConnections mbps⟩
  · exact Server.Isolated.start auth base serverIp dnsIp mtu maxConnections mbps

/-- An IPv4 header without payload, from 1.1.1.1 to a host of 10.0.1.0/24. -/
def headerFor (host : UInt8) : Bytes :=
  [0x45, 0, 0, 20, 0, 0, 0, 0, 64, 1, 0, 0, 1, 1, 1, 1, 10, 0, 1, host]

/-- A QUIC client at 10.0.1.2 and a WebSocket client at 10.0.1.3, each with a
packet that its own reader takes. -/
def ownReads : List ServerLabel :=
  connectVpn 0 ++ connectWs 1 ++
    [.arrive (headerFor 2), .readTun 0, .session 0 (.forward 0),
      .arrive (headerFor 3), .session 1 .readTun]

theorem downlink_isolated_iff_own_reads :
    Machine.Always (Server.step zeroHmac) Server.Isolated zeroServer ownReads := by
  have hmeets : Machine.Meets (Server.step zeroHmac) Server.WsReadsOwn
      zeroServer ownReads := by
    decide
  have hdone : (Machine.run (Server.step zeroHmac) zeroServer ownReads).isSome =
      true := by
    decide
  obtain ⟨final, hrun⟩ := Option.isSome_iff_exists.mp hdone
  exact (downlink_isolated_iff zeroAuth ⟨10, 0, 1, 0⟩ ⟨10, 0, 1, 1⟩ ⟨1, 1, 1, 1⟩
    1200 16 100 hrun).mpr hmeets

/-- The WebSocket task takes a packet of the QUIC client. -/
def stolenRead : List ServerLabel :=
  connectVpn 0 ++ connectWs 1 ++ [.arrive (headerFor 2), .session 1 .readTun]

/-- The packet for 10.0.1.2 was sent to the client at 10.0.1.3. -/
theorem ws_read_breaks_isolation :
    ∃ server, Machine.run (Server.step zeroHmac) zeroServer stolenRead =
        some server ∧
      server.heldAddresses = [some ⟨10, 0, 1, 2⟩, some ⟨10, 0, 1, 3⟩] ∧
      server.state.deliveries = [⟨1, ⟨0, headerFor 2⟩, headerFor 2⟩] ∧
      ¬ server.Isolated := by
  have hstolen : (Machine.run (Server.step zeroHmac) zeroServer stolenRead).map
      (fun server => (server.heldAddresses, server.state.deliveries,
        decide (∀ delivery ∈ server.state.deliveries,
          delivery.Addressed server.sessions))) =
      some ([some ⟨10, 0, 1, 2⟩, some ⟨10, 0, 1, 3⟩],
        [⟨1, ⟨0, headerFor 2⟩, headerFor 2⟩], false) := by
    decide
  obtain ⟨server, hrun, hserver⟩ := Option.map_eq_some_iff.mp hstolen
  obtain ⟨hheld, hrest⟩ := Prod.mk.inj hserver
  obtain ⟨hdeliveries, haddressed⟩ := Prod.mk.inj hrest
  refine ⟨server, hrun, hheld, hdeliveries, ?_⟩
  intro hisolated
  exact of_decide_eq_false haddressed hisolated.addressed

end Redpill
