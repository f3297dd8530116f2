/-
Which packets the shaper has seen.  The server is watched together with a log
of the calls of `AdaptiveShaper::check`: for which packet, with which length and
with which verdict.  A packet of the uplink is named by the place that its write
takes, a packet of the downlink by its number in the TUN.
-/
import Redpill.DownlinkIsolation
import Redpill.ShaperInterference

namespace Redpill

open ByteStream

inductive CheckTarget where
  | uplink (position : Nat)
  | downlink (id : Nat)
deriving Repr, DecidableEq

structure ShaperCheck where
  target : CheckTarget
  bytes : Nat
  admitted : Bool
deriving Repr, DecidableEq

/-- The lengths with which a packet was admitted. -/
def admittedFor (checks : List ShaperCheck) (target : CheckTarget) : List Nat :=
  (checks.filter fun check =>
    check.admitted && decide (check.target = target)).map ShaperCheck.bytes

/-- The call of `check` that an event of the shaper stands for. -/
def ServerState.checkOf (state : ServerState) (target : CheckTarget) :
    Option DataEvent → Option ShaperCheck
  | some (.packet _ now bytes) =>
      some ⟨target, bytes, (state.shaper.check bytes now).1⟩
  | _ => none

/-- The packet that a step may have checked. -/
def Server.checkTarget (server : Server) : ServerLabel → CheckTarget
  | .readTun _ => .downlink ((server.state.tun.head?.map TunPacket.id).getD 0)
  | _ => .uplink server.state.tunWrites.length

def Server.shaperCheck (server : Server) (label : ServerLabel) :
    Option ShaperCheck :=
  server.state.checkOf (server.checkTarget label) (server.dataEvent label)

/-- A packet of a WebSocket session is written to the TUN, or read from it and
sent. -/
def Session.bypassesShaper (state : ServerState) (session : Session) :
    SessionEvent → Bool
  | .receive data _ =>
      match session.phase with
      | .tunnelling _ clientIp =>
          decide (session.handler = .ws) && validateSourceIp data clientIp
      | _ => false
  | .readTun => (state.tun.head?.bind nonEmpty).isSome
  | _ => false

def Server.bypassesShaper (server : Server) : ServerLabel → Bool
  | .session index event =>
      server.sessions[index]?.any fun session =>
        session.bypassesShaper server.state event
  | _ => false

/-- The server with the log of its checks. -/
structure ShapedServer where
  server : Server
  checks : List ShaperCheck

namespace ShapedServer

def start (server : Server) : ShapedServer := ⟨server, []⟩

def step (hmac : Hmac) (shaped : ShapedServer) (label : ServerLabel) :
    Option ShapedServer :=
  (shaped.server.step hmac label).map fun next =>
    ⟨next, shaped.checks ++ (shaped.server.shaperCheck label).toList⟩

/-- Every packet that was written to the TUN or sent to a client was admitted
once, with its own length. -/
structure Shaped (shaped : ShapedServer) : Prop where
  uplink : ∀ position write,
    shaped.server.state.tunWrites[position]? = some write →
      admittedFor shaped.checks (.uplink position) = [write.packet.length]
  downlink : ∀ delivery ∈ shaped.server.state.deliveries,
    admittedFor shaped.checks (.downlink delivery.packet.id) =
      [delivery.packet.bytes.length]

/-- What holds beside: packets have their own numbers, no check precedes its
packet, and what waits in the queues was admitted once. -/
structure Logged (shaped : ShapedServer) : Prop where
  numbered : shaped.server.Numbered
  uplink : ∀ check ∈ shaped.checks, check.admitted = true →
    ∀ position, check.target = .uplink position →
      position < shaped.server.state.tunWrites.length
  downlink : ∀ check ∈ shaped.checks, ∀ id, check.target = .downlink id →
    id < shaped.server.state.nextId ∧
      id ∉ shaped.server.state.tun.map TunPacket.id
  waiting : ∀ packet ∈ shaped.server.state.router.waiting,
    admittedFor shaped.checks (.downlink packet.id) = [packet.bytes.length]

end ShapedServer

/-- What a step of the server can do to packets and checks. -/
inductive ShapingStep (server : Server) (state : ServerState) :
    Option ShaperCheck → Bool → Prop where
  | quiet (check : Option ShaperCheck)
      (hrefused : ∀ seen ∈ check, seen.admitted = false ∧
        seen.target = .uplink server.state.tunWrites.length)
      (hwrites : state.tunWrites = server.state.tunWrites)
      (hdeliveries : state.deliveries = server.state.deliveries)
      (hwaiting : ∀ packet ∈ state.router.waiting,
        packet ∈ server.state.router.waiting)
      (htun : ∀ packet ∈ state.tun, packet ∈ server.state.tun ∨
        server.state.nextId ≤ packet.id) : ShapingStep server state check false
  | write (check : Option ShaperCheck) (write : TunWrite)
      (hstate : ∃ shaper, state =
        { server.state with
          tunWrites := server.state.tunWrites ++ [write], shaper := shaper })
      (hcheck : check = none ∨ check = some
        ⟨.uplink server.state.tunWrites.length, write.packet.length, true⟩) :
      ShapingStep server state check check.isNone
  | read (check : Option ShaperCheck) (packet : TunPacket)
      (rest : List TunPacket) (htun : server.state.tun = packet :: rest)
      (hrest : state.tun = rest)
      (hwrites : state.tunWrites = server.state.tunWrites)
      (hdeliveries : state.deliveries = server.state.deliveries)
      (hcheck : ∀ seen ∈ check, seen.target = .downlink packet.id)
      (hwaiting : ∀ queued ∈ state.router.waiting,
        queued ∈ server.state.router.waiting ∨
          queued.id = packet.id ∧ check = some
            ⟨.downlink packet.id, queued.bytes.length, true⟩) :
      ShapingStep server state check false
  | forward (deliveries : List Delivery)
      (hwrites : state.tunWrites = server.state.tunWrites)
      (htun : state.tun = server.state.tun)
      (hdeliveries : state.deliveries = server.state.deliveries ++ deliveries)
      (hqueued : ∀ delivery ∈ deliveries,
        delivery.packet ∈ server.state.router.waiting)
      (hwaiting : ∀ packet ∈ state.router.waiting,
        packet ∈ server.state.router.waiting) :
      ShapingStep server state none false
  | wsRead (packet : TunPacket) (rest : List TunPacket)
      (delivery : Delivery) (htun : server.state.tun = packet :: rest)
      (hpacket : delivery.packet.id = packet.id)
      (hstate : state = { server.state with
        tun := rest, deliveries := server.state.deliveries ++ [delivery] }) :
      ShapingStep server state none true

theorem admittedFor_append (first second : List ShaperCheck)
    (target : CheckTarget) :
    admittedFor (first ++ second) target =
      admittedFor first target ++ admittedFor second target := by
  simp [admittedFor, List.filter_append]

theorem admittedFor_eq_nil {checks : List ShaperCheck} {target : CheckTarget}
    (h : ∀ check ∈ checks, check.admitted = true → check.target ≠ target) :
    admittedFor checks target = [] := by
  rw [admittedFor, List.map_eq_nil_iff, List.filter_eq_nil_iff]
  intro check hcheck
  rw [Bool.and_eq_true, decide_eq_true_eq]
  exact fun hboth => h check hcheck hboth.1 hboth.2

theorem admittedFor_self (target : CheckTarget) (bytes : Nat) :
    admittedFor [⟨target, bytes, true⟩] target = [bytes] := by
  simp [admittedFor]

/-- The source check, the shaper and the write of the QUIC and TCP loops: what
is written was admitted with its length. -/
theorem ServerState.checkOf_uplink (state : ServerState) (target : CheckTarget)
    (clientIp : Ipv4Addr) (packet : Bytes) (now : Nat) :
    (validatedWrite clientIp (state.admits now) packet = none ∧
        ∀ seen ∈ state.checkOf target (uplinkEvent clientIp packet now),
          seen.admitted = false ∧ seen.target = target) ∨
      ∃ written,
        validatedWrite clientIp (state.admits now) packet = some written ∧
        state.checkOf target (uplinkEvent clientIp packet now) =
          some ⟨target, written.length, true⟩ := by
  by_cases hvalid : validateSourceIp packet clientIp = true
  · by_cases hshaper : state.admits now packet.length = true
    · right
      refine ⟨packet, validatedWrite_eq_some.mpr ⟨hvalid, hshaper, rfl⟩, ?_⟩
      rw [uplinkEvent, if_pos hvalid]
      simp only [checkOf]
      rw [show (state.shaper.check packet.length (now / 1000)).1 = true from
        hshaper]
    · left
      constructor
      · simp [validatedWrite, hvalid, hshaper]
      · intro seen hseen
        rw [uplinkEvent, if_pos hvalid] at hseen
        obtain rfl := Option.some.inj hseen
        exact ⟨by simpa [admits] using hshaper, rfl⟩
  · left
    constructor
    · simp [validatedWrite, hvalid]
    · intro seen hseen
      rw [uplinkEvent, if_neg hvalid] at hseen
      exact absurd hseen.symm (Option.some_ne_none seen)

/-- No session step puts a packet into a queue. -/
theorem ResourceStep.waiting {index : Nat} {state : ServerState}
    {session : Session} {event : SessionEvent} {resources : Resources}
    {holdings : Holdings}
    (h : ResourceStep index state session event resources holdings) :
    ∀ packet ∈ resources.router.waiting, packet ∈ state.router.waiting := by
  intro packet hpacket
  cases h with
  | register clientIp buffer hheld =>
      rw [ClientRouter.register_waiting] at hpacket
      exact hpacket
  | drop guard rest hevent hphase hguards =>
      cases guard with
      | connection => exact hpacket
      | session username => exact hpacket
      | clientHandle clientIp => exact hpacket
  | forward id now hqueue =>
      exact (state.router.tryPop_waiting id now).subset
        (List.mem_append_right _ hpacket)
  | _ => exact hpacket

section SessionSteps

variable {server : Server} {index : Nat} {session : Session}

/-- A step that neither writes, sends nor queues a packet. -/
theorem ShapingStep.of_same {state : ServerState}
    {check : Option ShaperCheck}
    (hrefused : ∀ seen ∈ check, seen.admitted = false ∧
      seen.target = .uplink server.state.tunWrites.length)
    (hwrites : state.tunWrites = server.state.tunWrites)
    (hdeliveries : state.deliveries = server.state.deliveries)
    (hwaiting : ∀ packet ∈ state.router.waiting,
      packet ∈ server.state.router.waiting)
    (htun : state.tun = server.state.tun) :
    ShapingStep server state check false :=
  .quiet check hrefused hwrites hdeliveries hwaiting
    fun _ hpacket => Or.inl (htun ▸ hpacket)

/-- The same without a check by the shaper. -/
theorem ShapingStep.of_unchecked {state : ServerState}
    (hwrites : state.tunWrites = server.state.tunWrites)
    (hdeliveries : state.deliveries = server.state.deliveries)
    (hwaiting : ∀ packet ∈ state.router.waiting,
      packet ∈ server.state.router.waiting)
    (htun : state.tun = server.state.tun) :
    ShapingStep server state none false :=
  .of_same (by simp) hwrites hdeliveries hwaiting htun

/-- A packet that went through `shapedWrite`. -/
theorem ShapingStep.of_uplink (clientIp : Ipv4Addr) (packet source : Bytes)
    (now : Nat) (shaper : AdaptiveShaper) :
    ShapingStep server
      (server.state.afterUplink index source
        (validatedWrite clientIp (server.state.admits now) packet) shaper)
      (server.state.checkOf (.uplink server.state.tunWrites.length)
        (uplinkEvent clientIp packet now)) false := by
  rcases server.state.checkOf_uplink (.uplink server.state.tunWrites.length)
    clientIp packet now with ⟨hnone, hrefused⟩ | ⟨written, hsome, hcheck⟩
  · rw [hnone]
    refine .of_same hrefused ?_ rfl (fun _ h => h) rfl
    simp [ServerState.afterUplink]
  · rw [hsome, hcheck]
    exact .write _ ⟨index, written, source⟩ ⟨shaper, rfl⟩ (Or.inr rfl)

/-- The event of a datagram is the one of the packet in it. -/
theorem Session.dataEvent_datagram {username : String} {clientIp : Ipv4Addr}
    {data : Bytes} {now : Nat}
    (hphase : session.phase = .tunnelling username clientIp)
    (hlimited : session.handler.limited = true) (shaper : AdaptiveShaper) :
    ShapingStep server
      (server.state.afterUplink index data
        (datagramToTun (decide (session.handler = .vpnH3)) clientIp
          (server.state.admits now) data) shaper)
      (server.state.checkOf (.uplink server.state.tunWrites.length)
        (session.dataEvent (.receive data now))) false := by
  have hnothing : ShapingStep server
      (server.state.afterUplink index data none shaper) none false := by
    refine .of_same (fun seen hseen => ?_) ?_ rfl (fun _ h => h) rfl
    · exact absurd hseen.symm (Option.some_ne_none seen)
    · simp [ServerState.afterUplink]
  by_cases hempty : data = []
  · cases hhandler : session.handler <;>
      simp_all [Session.dataEvent, datagramToTun, ServerState.checkOf,
        Handler.limited]
  · cases hhandler : session.handler with
    | vpn =>
        simp only [Session.dataEvent, hphase, hhandler, datagramToTun, hempty,
          if_false, decide_false, reduceCtorEq, Bool.false_eq_true]
        exact .of_uplink clientIp data data now shaper
    | vpnH3 =>
        simp only [Session.dataEvent, hphase, hhandler, datagramToTun, hempty,
          if_false, decide_true, if_true]
        by_cases hnibble : versionNibble data ≠ 4 ∧ versionNibble data ≠ 6
        · rw [if_pos hnibble, if_pos hnibble]
          exact hnothing
        · rw [if_neg hnibble, if_neg hnibble]
          exact .of_uplink clientIp (stripPadding data) data now shaper
    | tcpReality =>
        rw [hhandler] at hlimited
        exact absurd hlimited Bool.false_ne_true
    | ws =>
        rw [hhandler] at hlimited
        exact absurd hlimited Bool.false_ne_true

theorem ShapingStep.of_receive {data : Bytes} {now : Nat}
    {next : ServerState × Session}
    (h : session.receive index server.state data now = some next) :
    ShapingStep server next.1
      (server.state.checkOf (.uplink server.state.tunWrites.length)
        (session.dataEvent (.receive data now)))
      (session.bypassesShaper server.state (.receive data now)) := by
  obtain ⟨username, clientIp, hphase, hcases⟩ := Session.receive_cases h
  rcases hcases with ⟨hhandler, rfl⟩ | ⟨written, shaper, rfl, hwritten⟩
  · have hcheck : session.dataEvent (.receive data now) = none := by
      simp [Session.dataEvent, hphase, hhandler]
    have hbypass :
        session.bypassesShaper server.state (.receive data now) = false := by
      simp [Session.bypassesShaper, hphase, hhandler]
    rw [hcheck, hbypass]
    exact .of_unchecked rfl rfl (fun _ h => h) rfl
  · rcases hwritten with ⟨rfl, hlimited⟩ | ⟨rfl, hws⟩
    · have hbypass :
          session.bypassesShaper server.state (.receive data now) = false := by
        have hws : session.handler ≠ .ws := by
          intro hws
          rw [hws] at hlimited
          exact absurd hlimited Bool.false_ne_true
        simp [Session.bypassesShaper, hphase, hws]
      rw [hbypass]
      exact Session.dataEvent_datagram hphase hlimited shaper
    · have hcheck : session.dataEvent (.receive data now) = none := by
        simp [Session.dataEvent, hphase, hws]
      rw [hcheck]
      simp only [Session.bypassesShaper, hphase, hws, decide_true,
        Bool.true_and]
      by_cases hvalid : validateSourceIp data clientIp = true
      · have hne := ne_nil_of_validateSourceIp hvalid
        rw [hvalid, messageToTun, hvalid]
        simp only [writeToTun, hne, Bool.not_true, Bool.false_eq_true, if_false]
        exact .write none ⟨index, data, data⟩ ⟨shaper, rfl⟩ (Or.inl rfl)
      · rw [Bool.not_eq_true] at hvalid
        rw [hvalid, messageToTun, hvalid]
        refine .of_unchecked ?_ rfl (fun _ h => h) rfl
        simp [ServerState.afterUplink]

theorem ShapingStep.of_frame {now : Nat} {next : ServerState × Session}
    (h : session.frame index server.state now = some next) :
    ShapingStep server next.1
      (server.state.checkOf (.uplink server.state.tunWrites.length)
        (session.dataEvent (.frame now))) false := by
  unfold Session.frame at h
  split at h
  · rename_i username clientIp hphase hhandler
    split at h
    · exact absurd h (Option.some_ne_none next).symm
    · rename_i hread
      obtain rfl := Option.some.inj h
      have hcheck : session.dataEvent (.frame now) = none := by
        simp [Session.dataEvent, hphase, hread]
      rw [hcheck]
      exact .of_unchecked rfl rfl (fun _ h => h) rfl
    · rename_i packet pktBuf rest hread
      obtain rfl := Option.some.inj h
      obtain ⟨shaper, hstate⟩ :=
        server.state.shapedWrite_eq index clientIp packet packet now
      have hcheck : session.dataEvent (.frame now) =
          uplinkEvent clientIp packet now := by
        simp [Session.dataEvent, hphase, hread]
      rw [hcheck, hstate]
      exact .of_uplink clientIp packet packet now shaper
  · exact absurd h (Option.some_ne_none next).symm

theorem ShapingStep.of_forward {now : Nat} {next : ServerState × Session}
    (h : session.forward index server.state now = some next) :
    ShapingStep server next.1 none false := by
  obtain ⟨id, _, rfl⟩ := Session.forward_cases h
  have hpop := (server.state.router.tryPop_waiting id now).subset
  refine .forward _ rfl rfl rfl ?_ ?_
  · intro delivery hdelivery
    obtain ⟨packet, hpacket, rfl⟩ := List.mem_map.mp hdelivery
    exact hpop (List.mem_append_left _ hpacket)
  · intro packet hpacket
    exact hpop (List.mem_append_right _ hpacket)

theorem ShapingStep.of_sessionReadTun {next : ServerState × Session}
    (h : session.readTun index server.state = some next) :
    ShapingStep server next.1 none
      (session.bypassesShaper server.state .readTun) := by
  obtain ⟨packet, rest, htun, _, _, rfl⟩ := Session.readTun_cases h
  simp only [Session.bypassesShaper, htun, List.head?_cons, Option.bind_some]
  cases hread : nonEmpty packet with
  | none =>
      refine .quiet none (by simp) rfl ?_ (fun _ h => h) ?_
      · simp
      · intro other hother
        exact Or.inl (htun ▸ List.mem_cons_of_mem packet hother)
  | some ipPkt =>
      exact .wsRead packet rest ⟨index, ipPkt, ipPkt.bytes⟩ htun
        (nonEmpty_id hread) rfl

/-- What a step of a session can do. -/
theorem ShapingStep.of_session {hmac : Hmac} {event : SessionEvent}
    {next : ServerState × Session}
    (h : session.step hmac index server.state event = some next) :
    ShapingStep server next.1
      (server.state.checkOf (.uplink server.state.tunWrites.length)
        (session.dataEvent event))
      (session.bypassesShaper server.state event) := by
  cases event with
  | resume outcome =>
      have hmove : SessionMove index server.state session (.resume outcome)
          next := Session.resume_move h
      have hwaiting := hmove.resources.waiting
      obtain ⟨ipPool, activeConnections, router, metrics, hstate⟩ :=
        Session.resume_frame h
      refine .of_unchecked ?_ ?_ hwaiting ?_
      · rw [hstate]
      · rw [hstate]
      · rw [hstate]
  | receive data now => exact .of_receive h
  | frame now => exact .of_frame h
  | rttSample rtt =>
      obtain rfl := Session.rttSample_cases h
      exact .of_unchecked rfl rfl (fun _ h => h) rfl
  | forward now => exact .of_forward h
  | readTun => exact .of_sessionReadTun h
  | stopForwarding =>
      obtain rfl := Session.stopForwarding_cases h
      exact .of_unchecked rfl rfl (fun _ h => h) rfl

end SessionSteps

/-- The global reader: a packet gets into a queue only when it was admitted
with its length. -/
theorem ShapingStep.of_readTun {server : Server} {now : Nat}
    {state : ServerState} (h : server.state.readTun now = some state) :
    ShapingStep server state (server.shaperCheck (.readTun now)) false := by
  unfold ServerState.readTun at h
  split at h
  · exact absurd h (Option.some_ne_none state).symm
  · rename_i packet rest htun
    simp only at h
    split at h
    · rename_i hempty
      obtain rfl := Option.some.inj h
      have hcheck : server.shaperCheck (.readTun now) = none := by
        simp [Server.shaperCheck, Server.dataEvent, htun, hempty,
          ServerState.checkOf]
      rw [hcheck]
      exact .read none packet rest htun rfl rfl rfl (by simp)
        fun _ hqueued => Or.inl hqueued
    · rename_i hbytes
      have hcheck : server.shaperCheck (.readTun now) = some
          ⟨.downlink packet.id, (packet.bytes.take tunBufLen).length,
            (server.state.shaper.check (packet.bytes.take tunBufLen).length
              (now / 1000)).1⟩ := by
        simp only [Server.shaperCheck, Server.dataEvent, htun, hbytes,
          ServerState.checkOf, Server.checkTarget, List.head?_cons,
          Option.map_some, Option.getD_some, if_false]
      have htarget : ∀ seen ∈ server.shaperCheck (.readTun now),
          seen.target = .downlink packet.id := by
        intro seen hseen
        rw [hcheck] at hseen
        obtain rfl := Option.some.inj hseen
        rfl
      split at h
      · obtain rfl := Option.some.inj h
        exact .read _ packet rest htun rfl rfl rfl htarget
          fun _ hqueued => Or.inl hqueued
      · rename_i hadmitted
        split at h
        · obtain rfl := Option.some.inj h
          exact .read _ packet rest htun rfl rfl rfl htarget
            fun _ hqueued => Or.inl hqueued
        · rename_i dstIp _
          obtain rfl := Option.some.inj h
          refine .read _ packet rest htun rfl rfl rfl htarget ?_
          intro queued hqueued
          have hmem := (server.state.router.route_waiting dstIp
            ⟨packet.id, packet.bytes.take tunBufLen⟩ now).subset hqueued
          rcases List.mem_cons.mp hmem with rfl | hold
          · refine Or.inr ⟨rfl, ?_⟩
            rw [hcheck]
            simpa using hadmitted
          · exact Or.inl hold

/-- What a step of the server can do. -/
theorem ShapingStep.of_step {hmac : Hmac} {server next : Server}
    {label : ServerLabel} (h : server.step hmac label = some next) :
    ShapingStep server next.state (server.shaperCheck label)
      (server.bypassesShaper label) := by
  cases label with
  | accept handler =>
      simp only [Server.step] at h
      split at h
      · obtain rfl := Option.some.inj h
        exact .of_unchecked rfl rfl (fun _ h => h) rfl
      · obtain rfl := Option.some.inj h
        exact .of_unchecked rfl rfl (fun _ h => h) rfl
  | reload auth maxConnections =>
      obtain rfl := Option.some.inj h
      exact .of_unchecked rfl rfl (fun _ h => h) rfl
  | arrive bytes =>
      obtain rfl := Option.some.inj h
      refine .quiet none (by simp) rfl rfl (fun _ h => h) ?_
      intro packet hpacket
      rcases List.mem_append.mp hpacket with hold | hnew
      · exact Or.inl hold
      · rw [List.mem_singleton.mp hnew]
        exact Or.inr (Nat.le_refl _)
  | readTun now =>
      obtain ⟨state, hread, rfl⟩ := Option.map_eq_some_iff.mp h
      exact .of_readTun hread
  | session index event =>
      simp only [Server.step] at h
      split at h
      · exact absurd h (Option.some_ne_none next).symm
      · rename_i session hsession
        obtain ⟨moved, hmoved, rfl⟩ := Option.map_eq_some_iff.mp h
        have hstep := ShapingStep.of_session hmoved
        simpa [Server.shaperCheck, Server.checkTarget, Server.dataEvent,
          Server.bypassesShaper, hsession] using hstep

namespace ShapedServer

variable {shaped : ShapedServer}

/-- A refused check admits nothing. -/
theorem admittedFor_refused {check : Option ShaperCheck}
    (h : ∀ seen ∈ check, seen.admitted = false) (target : CheckTarget) :
    admittedFor check.toList target = [] := by
  apply admittedFor_eq_nil
  intro seen hseen hadmitted
  rw [h seen (Option.mem_toList.mp hseen)] at hadmitted
  exact absurd hadmitted Bool.false_ne_true

/-- A check of one packet says nothing about another. -/
theorem admittedFor_other {check : Option ShaperCheck}
    {target other : CheckTarget}
    (h : ∀ seen ∈ check, seen.target = target) (hne : target ≠ other) :
    admittedFor check.toList other = [] := by
  apply admittedFor_eq_nil
  intro seen hseen _
  rw [h seen (Option.mem_toList.mp hseen)]
  exact hne

/-- The next place of the TUN has no check yet. -/
theorem Logged.uplink_fresh (h : shaped.Logged) :
    admittedFor shaped.checks
      (.uplink shaped.server.state.tunWrites.length) = [] := by
  apply admittedFor_eq_nil
  intro check hcheck hadmitted htarget
  exact Nat.lt_irrefl _ (h.uplink check hcheck hadmitted _ htarget)

/-- What is still in the TUN has no check yet. -/
theorem Logged.downlink_fresh (h : shaped.Logged) {packet : TunPacket}
    (hpacket : packet ∈ shaped.server.state.tun) :
    admittedFor shaped.checks (.downlink packet.id) = [] := by
  apply admittedFor_eq_nil
  intro check hcheck _ htarget
  exact (h.downlink check hcheck _ htarget).2
    (List.mem_map_of_mem hpacket)

/-- The numbers of a packet in the TUN, one in a queue and a delivered one
differ. -/
theorem Logged.numbers (h : shaped.Logged) {packet : TunPacket}
    {rest : List TunPacket} (htun : shaped.server.state.tun = packet :: rest) :
    packet.id ∉ rest.map TunPacket.id ∧
      (∀ queued ∈ shaped.server.state.router.waiting,
        packet.id ≠ queued.id) ∧
      ∀ delivery ∈ shaped.server.state.deliveries,
        packet.id ≠ delivery.packet.id := by
  have hdistinct := h.numbered.distinct
  simp only [Resources.packetIds, ServerState.resources, htun, List.map_cons,
    List.cons_append, List.nodup_cons, List.mem_append, List.mem_map,
    not_or, not_exists, not_and] at hdistinct
  obtain ⟨⟨⟨hrest, hwaiting⟩, hdeliveries⟩, _⟩ := hdistinct
  refine ⟨?_, ?_, ?_⟩
  · intro hmem
    obtain ⟨other, hother, hid⟩ := List.mem_map.mp hmem
    exact hrest other hother hid
  · intro queued hqueued hid
    exact hwaiting queued hqueued hid.symm
  · intro delivery hdelivery hid
    exact hdeliveries delivery hdelivery hid.symm

theorem Logged.head_lt (h : shaped.Logged) {packet : TunPacket}
    {rest : List TunPacket} (htun : shaped.server.state.tun = packet :: rest) :
    packet.id < shaped.server.state.nextId := by
  apply h.numbered.bounded
  simp [Resources.packetIds, ServerState.resources, htun]

/-- An earlier check of the downlink stays behind its packet. -/
theorem Logged.downlink_of_tun (h : shaped.Logged) {state : ServerState}
    (hnext : shaped.server.state.nextId ≤ state.nextId)
    (htun : ∀ packet ∈ state.tun, packet ∈ shaped.server.state.tun ∨
      shaped.server.state.nextId ≤ packet.id) {check : ShaperCheck}
    (hcheck : check ∈ shaped.checks) {id : Nat}
    (htarget : check.target = .downlink id) :
    id < state.nextId ∧ id ∉ state.tun.map TunPacket.id := by
  obtain ⟨hlt, hgone⟩ := h.downlink check hcheck id htarget
  refine ⟨Nat.lt_of_lt_of_le hlt hnext, ?_⟩
  intro hmem
  obtain ⟨packet, hpacket, rfl⟩ := List.mem_map.mp hmem
  rcases htun packet hpacket with hold | hnew
  · exact hgone (List.mem_map_of_mem hold)
  · omega

end ShapedServer

theorem Server.step_nextId {hmac : Hmac} {server next : Server}
    {label : ServerLabel} (h : server.step hmac label = some next) :
    server.state.nextId ≤ next.state.nextId := by
  rcases Server.step_cases h with ⟨henvironment, _⟩ | ⟨handler, rfl⟩ |
    ⟨index, event, session, moved, _, _, hmoved, rfl⟩
  · have hids : next.state.nextId = next.state.resources.nextId := rfl
    rcases henvironment.packetIds with ⟨_, hnext⟩ | ⟨_, hnext⟩
    · rw [hids, hnext]
    · rw [hids, hnext]
      exact Nat.le_succ _
  · exact Nat.le_refl _
  · have hnext : moved.1.nextId = server.state.nextId :=
      (Session.step_move hmoved).resources.packetIds.2
    exact Nat.le_of_eq hnext.symm

namespace ShapedServer

variable {shaped : ShapedServer} {next : Server}
  {check : Option ShaperCheck} {bypass : Bool}

/-- The writes of a step, and the place that its check names. -/
theorem uplink_of_shapingStep
    (hstep : ShapingStep shaped.server next.state check bypass) :
    shaped.server.state.tunWrites.length ≤ next.state.tunWrites.length ∧
      ∀ seen ∈ check, seen.admitted = true → ∀ position,
        seen.target = .uplink position →
          position < next.state.tunWrites.length := by
  cases hstep with
  | quiet _ hrefused hwrites =>
      refine ⟨Nat.le_of_eq (by rw [hwrites]), ?_⟩
      intro seen hseen hadmitted
      rw [(hrefused seen hseen).1] at hadmitted
      exact absurd hadmitted Bool.false_ne_true
  | write _ write hstate hcheck =>
      obtain ⟨shaper, hstate⟩ := hstate
      rw [hstate]
      refine ⟨by simp, ?_⟩
      intro seen hseen _ position htarget
      rcases hcheck with rfl | rfl
      · exact absurd hseen.symm (Option.some_ne_none seen)
      · obtain rfl := Option.some.inj hseen
        obtain rfl := CheckTarget.uplink.inj htarget
        simp
  | read _ _ _ _ _ hwrites _ hcheck =>
      refine ⟨Nat.le_of_eq (by rw [hwrites]), ?_⟩
      intro seen hseen _ position htarget
      rw [hcheck seen hseen] at htarget
      exact absurd htarget (by simp)
  | forward _ hwrites => exact ⟨Nat.le_of_eq (by rw [hwrites]), nofun⟩
  | wsRead _ _ _ _ _ hstate =>
      rw [hstate]
      exact ⟨Nat.le_refl _, nofun⟩

/-- The TUN after a step, and the packet that its check names. -/
theorem downlink_of_shapingStep (h : shaped.Logged)
    (hstep : ShapingStep shaped.server next.state check bypass) :
    (∀ packet ∈ next.state.tun, packet ∈ shaped.server.state.tun ∨
        shaped.server.state.nextId ≤ packet.id) ∧
      ∀ seen ∈ check, ∀ id, seen.target = .downlink id →
        id < shaped.server.state.nextId ∧
          id ∉ next.state.tun.map TunPacket.id := by
  cases hstep with
  | quiet _ hrefused _ _ _ htun =>
      refine ⟨htun, ?_⟩
      intro seen hseen id htarget
      rw [(hrefused seen hseen).2] at htarget
      exact absurd htarget (by simp)
  | write _ _ hstate hcheck =>
      obtain ⟨shaper, hstate⟩ := hstate
      rw [hstate]
      refine ⟨fun _ hpacket => Or.inl hpacket, ?_⟩
      intro seen hseen id htarget
      rcases hcheck with rfl | rfl
      · exact absurd hseen.symm (Option.some_ne_none seen)
      · obtain rfl := Option.some.inj hseen
        exact absurd htarget (by simp)
  | read _ head rest htun hrest _ _ hcheck =>
      rw [hrest]
      constructor
      · intro packet hpacket
        exact Or.inl (htun ▸ List.mem_cons_of_mem head hpacket)
      · intro seen hseen id htarget
        rw [hcheck seen hseen] at htarget
        obtain rfl := CheckTarget.downlink.inj htarget
        exact ⟨h.head_lt htun, (h.numbers htun).1⟩
  | forward _ _ htun =>
      rw [htun]
      exact ⟨fun _ hpacket => Or.inl hpacket, nofun⟩
  | wsRead head rest _ htun _ hstate =>
      rw [hstate]
      refine ⟨?_, nofun⟩
      intro packet hpacket
      exact Or.inl (htun ▸ List.mem_cons_of_mem head hpacket)

/-- A check of the uplink admits no packet of the downlink. -/
theorem admittedFor_write {position length : Nat} (id : Nat)
    (hcheck : check = none ∨ check = some ⟨.uplink position, length, true⟩) :
    admittedFor check.toList (.downlink id) = [] := by
  rcases hcheck with rfl | rfl
  · rfl
  · simp [admittedFor]

/-- What waits after a step was admitted once. -/
theorem waiting_of_shapingStep (h : shaped.Logged)
    (hstep : ShapingStep shaped.server next.state check bypass) :
    ∀ queued ∈ next.state.router.waiting,
      admittedFor (shaped.checks ++ check.toList) (.downlink queued.id) =
        [queued.bytes.length] := by
  intro queued hqueued
  rw [admittedFor_append]
  cases hstep with
  | quiet _ hrefused _ _ hwaiting =>
      rw [h.waiting queued (hwaiting queued hqueued),
        admittedFor_refused fun seen hseen => (hrefused seen hseen).1]
      rfl
  | write _ _ hstate hcheck =>
      obtain ⟨shaper, hstate⟩ := hstate
      rw [hstate] at hqueued
      rw [h.waiting queued hqueued, admittedFor_write queued.id hcheck]
      rfl
  | read _ packet rest htun _ _ _ hcheck hwaiting =>
      rcases hwaiting queued hqueued with hold | ⟨hid, rfl⟩
      · have hne := (h.numbers htun).2.1 queued hold
        rw [h.waiting queued hold,
          admittedFor_other hcheck (by simpa using hne)]
        rfl
      · have hpacket : packet ∈ shaped.server.state.tun :=
          htun ▸ List.mem_cons_self
        rw [hid, h.downlink_fresh hpacket]
        exact admittedFor_self _ _
  | forward _ _ _ _ _ hwaiting =>
      rw [h.waiting queued (hwaiting queued hqueued)]
      rfl
  | wsRead _ _ _ _ _ hstate =>
      rw [hstate] at hqueued
      rw [h.waiting queued hqueued]
      rfl

theorem Logged.of_shapingStep (h : shaped.Logged) (hnumbered : next.Numbered)
    (hnext : shaped.server.state.nextId ≤ next.state.nextId)
    (hstep : ShapingStep shaped.server next.state check bypass) :
    Logged ⟨next, shaped.checks ++ check.toList⟩ := by
  obtain ⟨hlength, huplink⟩ := uplink_of_shapingStep hstep
  obtain ⟨htun, hdownlink⟩ := downlink_of_shapingStep h hstep
  refine ⟨hnumbered, ?_, ?_, waiting_of_shapingStep h hstep⟩
  · intro seen hseen hadmitted position htarget
    rcases List.mem_append.mp hseen with hold | hnew
    · exact Nat.lt_of_lt_of_le
        (h.uplink seen hold hadmitted position htarget) hlength
    · exact huplink seen (Option.mem_toList.mp hnew) hadmitted position htarget
  · intro seen hseen id htarget
    rcases List.mem_append.mp hseen with hold | hnew
    · exact h.downlink_of_tun hnext htun hold htarget
    · obtain ⟨hlt, hgone⟩ :=
        hdownlink seen (Option.mem_toList.mp hnew) id htarget
      exact ⟨Nat.lt_of_lt_of_le hlt hnext, hgone⟩

/-- The new write of a step is the last one, and was admitted with it. -/
theorem uplink_of_write (hshaped : shaped.Shaped) (h : shaped.Logged)
    {position : Nat} {write new : TunWrite}
    (hwrite : (shaped.server.state.tunWrites ++ [new])[position]? =
      some write) :
    admittedFor shaped.checks (.uplink position) ++
        admittedFor
          [⟨.uplink shaped.server.state.tunWrites.length, new.packet.length,
            true⟩] (.uplink position) =
      [write.packet.length] := by
  by_cases hposition : position < shaped.server.state.tunWrites.length
  · rw [List.getElem?_append_left hposition] at hwrite
    rw [hshaped.uplink position write hwrite]
    simp [admittedFor, Nat.ne_of_gt hposition]
  · obtain ⟨hlt, hget⟩ := List.getElem?_eq_some_iff.mp hwrite
    rw [List.length_append, List.length_singleton] at hlt
    obtain rfl : position = shaped.server.state.tunWrites.length := by
      omega
    rw [List.getElem_concat_length] at hget
    · rw [h.uplink_fresh, ← hget]
      exact admittedFor_self _ _
    · rfl

/-- A step that no packet takes past the shaper keeps the uplink shaped. -/
theorem uplink_of_unbypassed (hshaped : shaped.Shaped) (h : shaped.Logged)
    (hstep : ShapingStep shaped.server next.state check bypass)
    (hbypass : bypass = false) {position : Nat} {write : TunWrite}
    (hwrite : next.state.tunWrites[position]? = some write) :
    admittedFor (shaped.checks ++ check.toList) (.uplink position) =
      [write.packet.length] := by
  rw [admittedFor_append]
  cases hstep with
  | quiet _ hrefused hwrites =>
      rw [hshaped.uplink position write (hwrites ▸ hwrite),
        admittedFor_refused fun seen hseen => (hrefused seen hseen).1]
      rfl
  | write _ new hstate hcheck =>
      obtain ⟨shaper, hstate⟩ := hstate
      rw [hstate] at hwrite
      rcases hcheck with rfl | rfl
      · exact absurd hbypass (by simp)
      · exact uplink_of_write hshaped h hwrite
  | read _ _ _ _ _ hwrites _ hcheck =>
      rw [hshaped.uplink position write (hwrites ▸ hwrite),
        admittedFor_other hcheck (by simp)]
      rfl
  | forward _ hwrites =>
      rw [hshaped.uplink position write (hwrites ▸ hwrite)]
      rfl
  | wsRead => exact absurd hbypass (by simp)

/-- And it keeps the downlink shaped. -/
theorem downlink_of_unbypassed (hshaped : shaped.Shaped) (h : shaped.Logged)
    (hstep : ShapingStep shaped.server next.state check bypass)
    (hbypass : bypass = false) {delivery : Delivery}
    (hdelivery : delivery ∈ next.state.deliveries) :
    admittedFor (shaped.checks ++ check.toList)
        (.downlink delivery.packet.id) =
      [delivery.packet.bytes.length] := by
  rw [admittedFor_append]
  cases hstep with
  | quiet _ hrefused _ hdeliveries =>
      rw [hshaped.downlink delivery (hdeliveries ▸ hdelivery),
        admittedFor_refused fun seen hseen => (hrefused seen hseen).1]
      rfl
  | write _ _ hstate hcheck =>
      obtain ⟨shaper, hstate⟩ := hstate
      rw [hstate] at hdelivery
      rw [hshaped.downlink delivery hdelivery, admittedFor_write _ hcheck]
      rfl
  | read _ packet rest htun _ _ hdeliveries hcheck =>
      have hold := hdeliveries ▸ hdelivery
      have hne := (h.numbers htun).2.2 delivery hold
      rw [hshaped.downlink delivery hold,
        admittedFor_other hcheck (by simpa using hne)]
      rfl
  | forward deliveries _ _ hdeliveries hqueued =>
      have hmem := hdeliveries ▸ hdelivery
      rcases List.mem_append.mp hmem with hold | hnew
      · rw [hshaped.downlink delivery hold]
        rfl
      · rw [h.waiting delivery.packet (hqueued delivery hnew)]
        rfl
  | wsRead => exact absurd hbypass (by simp)

theorem Shaped.of_shapingStep (hshaped : shaped.Shaped) (h : shaped.Logged)
    (hstep : ShapingStep shaped.server next.state check bypass)
    (hbypass : bypass = false) :
    Shaped ⟨next, shaped.checks ++ check.toList⟩ := by
  constructor
  · intro position write hwrite
    exact uplink_of_unbypassed hshaped h hstep hbypass hwrite
  · intro delivery hdelivery
    exact downlink_of_unbypassed hshaped h hstep hbypass hdelivery

/-- A packet that passes the shaper by has not been admitted. -/
theorem not_shaped_of_bypass (h : shaped.Logged)
    (hstep : ShapingStep shaped.server next.state check bypass)
    (hbypass : bypass = true) :
    ¬ Shaped ⟨next, shaped.checks ++ check.toList⟩ := by
  intro hshaped
  cases hstep with
  | write _ new hstate hcheck =>
      obtain ⟨shaper, hstate⟩ := hstate
      rcases hcheck with rfl | rfl
      · have hwrite := hshaped.uplink shaped.server.state.tunWrites.length new
          (by rw [hstate]; exact List.getElem?_concat_length)
        rw [Option.toList_none, List.append_nil, h.uplink_fresh] at hwrite
        exact absurd hwrite (by simp)
      · exact absurd hbypass (by simp)
  | wsRead packet rest delivery htun hpacket hstate =>
      have hsent := hshaped.downlink delivery (by rw [hstate]; simp)
      have hfresh := h.downlink_fresh
        (htun ▸ List.mem_cons_self : packet ∈ shaped.server.state.tun)
      rw [Option.toList_none, List.append_nil, hpacket, hfresh] at hsent
      exact absurd hsent (by simp)
  | _ => exact absurd hbypass (by simp)

theorem logged_step {hmac : Hmac} {label : ServerLabel}
    {after : ShapedServer} (h : shaped.Logged)
    (hstep : shaped.step hmac label = some after) : after.Logged := by
  obtain ⟨next, hnext, rfl⟩ := Option.map_eq_some_iff.mp hstep
  exact h.of_shapingStep (h.numbered.step hnext) (Server.step_nextId hnext)
    (.of_step hnext)

theorem shaped_step_iff {hmac : Hmac} {label : ServerLabel}
    {after : ShapedServer} (h : shaped.Logged) (hshaped : shaped.Shaped)
    (hstep : shaped.step hmac label = some after) :
    after.Shaped ↔ shaped.server.bypassesShaper label = false := by
  obtain ⟨next, hnext, rfl⟩ := Option.map_eq_some_iff.mp hstep
  have hshaping := ShapingStep.of_step hnext
  constructor
  · intro hafter
    by_contra hbypass
    rw [Bool.not_eq_false] at hbypass
    exact not_shaped_of_bypass h hshaping hbypass hafter
  · intro hbypass
    exact hshaped.of_shapingStep h hshaping hbypass

section Runs

variable (hmac : Hmac) (auth : AuthMode) (base serverIp dnsIp : Ipv4Addr)
  (mtu maxConnections maxBandwidthMbps : Nat)

theorem logged_start :
    (start (Server.start auth base serverIp dnsIp mtu maxConnections
      maxBandwidthMbps)).Logged where
  numbered := Server.Numbered.start auth base serverIp dnsIp mtu maxConnections
    maxBandwidthMbps
  uplink _ hcheck := absurd hcheck List.not_mem_nil
  downlink _ hcheck := absurd hcheck List.not_mem_nil
  waiting _ hpacket := absurd hpacket List.not_mem_nil

theorem shaped_start :
    (start (Server.start auth base serverIp dnsIp mtu maxConnections
      maxBandwidthMbps)).Shaped where
  uplink position write hwrite := by
    rw [start, Server.start, List.getElem?_nil] at hwrite
    exact absurd hwrite.symm (Option.some_ne_none write)
  downlink delivery hdelivery := absurd hdelivery List.not_mem_nil

/-- Along every run, with any mix of transports: all packets are shaped exactly
if none takes the path of a WebSocket session. -/
theorem every_path_shaped_iff (schedule : List ServerLabel)
    (final : ShapedServer)
    (hrun : Machine.run (step hmac)
      (start (Server.start auth base serverIp dnsIp mtu maxConnections
        maxBandwidthMbps)) schedule = some final) :
    Machine.Always (step hmac) Shaped
        (start (Server.start auth base serverIp dnsIp mtu maxConnections
          maxBandwidthMbps)) schedule ↔
      Machine.Meets (step hmac)
        (fun shaped label => shaped.server.bypassesShaper label = false)
        (start (Server.start auth base serverIp dnsIp mtu maxConnections
          maxBandwidthMbps)) schedule := by
  apply Machine.always_iff_meets Logged _ _ _ _ hrun
  · intro shaped label after hlogged hstep
    exact logged_step hlogged hstep
  · intro shaped label after hlogged hshaped hstep
    exact shaped_step_iff hlogged hshaped hstep
  · exact logged_start auth base serverIp dnsIp mtu maxConnections
      maxBandwidthMbps
  · exact shaped_start auth base serverIp dnsIp mtu maxConnections
      maxBandwidthMbps

end Runs

/-- A packet up and one down for a QUIC client, with a cap. -/
def quicTraffic : List ServerLabel :=
  connectVpn 0 ++
    [.session 0 (.receive [0x60] 1000000), .arrive (headerFor 2),
      .readTun 2000000, .session 0 (.forward 2000000)]

theorem quic_traffic_shaped :
    Machine.Always (step zeroHmac) Shaped (start zeroServer) quicTraffic := by
  have hmeets : Machine.Meets (step zeroHmac)
      (fun shaped label => shaped.server.bypassesShaper label = false)
      (start zeroServer) quicTraffic := by
    decide
  have hdone : (Machine.run (step zeroHmac) (start zeroServer)
      quicTraffic).isSome = true := by
    decide
  obtain ⟨final, hrun⟩ := Option.isSome_iff_exists.mp hdone
  exact (every_path_shaped_iff zeroHmac zeroAuth ⟨10, 0, 1, 0⟩ ⟨10, 0, 1, 1⟩
    ⟨1, 1, 1, 1⟩ 1200 16 100 quicTraffic final hrun).mpr hmeets

/-- A WebSocket client sends a packet and gets one: with a cap of 100 Mbps the
shaper is asked about neither. -/
theorem ws_traffic_unshaped :
    ∃ final, Machine.run (step zeroHmac) (start zeroServer)
        (connectWs 0 ++ [.session 0 (.receive [0x60] 1000000),
          .arrive (headerFor 2), .session 0 .readTun]) = some final ∧
      final.server.state.tunWrites = [⟨0, [0x60], [0x60]⟩] ∧
      final.server.state.deliveries = [⟨0, ⟨0, headerFor 2⟩, headerFor 2⟩] ∧
      final.checks = [] ∧ ¬ final.Shaped := by
  have hsummary : (Machine.run (step zeroHmac) (start zeroServer)
      (connectWs 0 ++ [.session 0 (.receive [0x60] 1000000),
        .arrive (headerFor 2), .session 0 .readTun])).map
        (fun final => (final.server.state.tunWrites,
          final.server.state.deliveries, final.checks)) =
      some ([⟨0, [0x60], [0x60]⟩], [⟨0, ⟨0, headerFor 2⟩, headerFor 2⟩],
        []) := by
    decide
  obtain ⟨final, hrun, hfinal⟩ := Option.map_eq_some_iff.mp hsummary
  obtain ⟨hwrites, hrest⟩ := Prod.mk.inj hfinal
  obtain ⟨hdeliveries, hchecks⟩ := Prod.mk.inj hrest
  refine ⟨final, hrun, hwrites, hdeliveries, hchecks, ?_⟩
  intro hshaped
  have hwrite := hshaped.uplink 0 ⟨0, [0x60], [0x60]⟩ (by rw [hwrites]; rfl)
  rw [hchecks] at hwrite
  exact absurd hwrite (by decide)

end ShapedServer

end Redpill
