/-
What one step of the server can do.  A session step moves the resources of the
server (the address pool, the connection and session counters, the router, the
packets on their way to clients) in one of nine ways.  The results about whole
runs are derived from this inversion.
-/
import Redpill.Server

namespace Redpill

open ByteStream

namespace Session

/-- What a handler does when it goes on, one rule for each arm of its code. -/
inductive Resumes (hmac : Hmac) (state : ServerState) (session : Session) :
    Outcome → ServerState × Session → Prop where
  | accept (hphase : session.phase = .accepting) :
      Resumes hmac state session .ok
        (state, session.goto session.handler.afterAccept)
  | acceptFailed (hphase : session.phase = .accepting) :
      Resumes hmac state session .fail (state, session.goto .returning)
  | openConnection (hphase : session.phase = .openingConnection) :
      Resumes hmac state session .ok
        (state.openConnection,
          session.guarded .connection session.handler.afterOpenConnection)
  | acceptBi (hphase : session.phase = .acceptingBi) :
      Resumes hmac state session .ok (state, session.goto .readingAuth)
  | acceptBiFailed (hphase : session.phase = .acceptingBi) :
      Resumes hmac state session .fail (state, session.goto .returning)
  | readFailed (hphase : session.phase = .readingAuth) :
      Resumes hmac state session .fail
        (state, session.goto session.handler.reject)
  | unreadable (chunks : List Bytes) (hphase : session.phase = .readingAuth)
      (hread : session.handler.readAuth chunks = none) :
      Resumes hmac state session (.message chunks)
        (state, session.goto session.handler.reject)
  | read (chunks : List Bytes) (auth : ClientAuth) (rest : Bytes)
      (hphase : session.phase = .readingAuth)
      (hread : session.handler.readAuth chunks = some (auth, rest)) :
      Resumes hmac state session (.message chunks)
        (state, { session.goto (.verifying auth) with received := rest })
  | refused (auth : ClientAuth) (hphase : session.phase = .verifying auth)
      (hverify : (session.verify hmac state auth).1 = none) :
      Resumes hmac state session .ok
        ((session.verify hmac state auth).2,
          session.goto session.handler.reject)
  | verified (auth : ClientAuth) (username : String)
      (hphase : session.phase = .verifying auth)
      (hverify : (session.verify hmac state auth).1 = some username) :
      Resumes hmac state session .ok
        ((session.verify hmac state auth).2,
          session.goto (session.handler.afterVerify username))
  | openSession (username : String)
      (hphase : session.phase = .openingSession username) :
      Resumes hmac state session .ok
        (state.openSession username,
          session.guarded (.session username) (.allocating username))
  | exhausted (username : String)
      (hphase : session.phase = .allocating username)
      (hpool : state.ipPool.allocate = none) :
      Resumes hmac state session .ok (state, session.goto .returning)
  | allocate (username : String) (clientIp : Ipv4Addr) (pool : IpPool)
      (hphase : session.phase = .allocating username)
      (hpool : state.ipPool.allocate = some (clientIp, pool)) :
      Resumes hmac state session .ok
        ({ state with ipPool := pool },
          { session.goto (session.handler.afterAllocate username clientIp) with
            assigned := some clientIp })
  | register (username : String) (clientIp : Ipv4Addr)
      (hphase : session.phase = .registering username clientIp) :
      Resumes hmac state session .ok
        ({ state with
            router :=
              (state.router.register clientIp session.handler.channelSize).1 },
          { session.guarded (.clientHandle clientIp)
              (session.handler.afterRegister username clientIp) with
            queue := some
              (state.router.register clientIp session.handler.channelSize).2 })
  | sendConfig (username : String) (clientIp : Ipv4Addr)
      (hphase : session.phase = .sendingConfig username clientIp) :
      Resumes hmac state session .ok
        (state,
          { session.goto (session.handler.afterSendConfig username clientIp) with
            config := some (state.sessionConfig session.handler clientIp) })
  | configFailed (username : String) (clientIp : Ipv4Addr)
      (hphase : session.phase = .sendingConfig username clientIp) :
      Resumes hmac state session .fail
        (state, session.goto (.releasing clientIp))
  | countConnection (username : String) (clientIp : Ipv4Addr)
      (hphase : session.phase = .countingConnection username clientIp) :
      Resumes hmac state session .ok
        (state.openConnection,
          session.guarded .connection (.countingSession username clientIp))
  | countSession (username : String) (clientIp : Ipv4Addr)
      (hphase : session.phase = .countingSession username clientIp) :
      Resumes hmac state session .ok
        (state.openSession username,
          session.guarded (.session username)
            (session.handler.afterCountSession username clientIp))
  | endTunnel (username : String) (clientIp : Ipv4Addr)
      (hphase : session.phase = .tunnelling username clientIp) :
      Resumes hmac state session .fail
        (state, session.goto (.releasing clientIp))
  | release (clientIp : Ipv4Addr)
      (hphase : session.phase = .releasing clientIp) :
      Resumes hmac state session .ok
        ({ state with ipPool := state.ipPool.release clientIp },
          session.goto .returning)
  | endProxy (hphase : session.phase = .proxying) :
      Resumes hmac state session .fail (state, session.goto .returning)
  | finish (hphase : session.phase = .returning)
      (hguards : session.guards = []) :
      Resumes hmac state session .ok (state, session.goto .returned)
  | drop (guard : Guard) (rest : List Guard)
      (hphase : session.phase = .returning)
      (hguards : session.guards = guard :: rest) :
      Resumes hmac state session .ok
        (state.dropGuard guard, { session with guards := rest })

/-- A handler goes on by one of these rules only. -/
theorem resumes {hmac : Hmac} {state : ServerState} {session : Session}
    {outcome : Outcome} {next : ServerState × Session}
    (h : session.resume hmac state outcome = some next) :
    session.Resumes hmac state outcome next := by
  unfold resume at h
  split at h
  · rename_i hphase
    obtain rfl := Option.some.inj h
    exact .accept hphase
  · rename_i hphase
    obtain rfl := Option.some.inj h
    exact .acceptFailed hphase
  · rename_i hphase
    obtain rfl := Option.some.inj h
    exact .openConnection hphase
  · rename_i hphase
    obtain rfl := Option.some.inj h
    exact .acceptBi hphase
  · rename_i hphase
    obtain rfl := Option.some.inj h
    exact .acceptBiFailed hphase
  · rename_i hphase
    obtain rfl := Option.some.inj h
    exact .readFailed hphase
  · rename_i chunks hphase
    split at h
    · rename_i hread
      obtain rfl := Option.some.inj h
      exact .unreadable chunks hphase hread
    · rename_i auth rest hread
      obtain rfl := Option.some.inj h
      exact .read chunks auth rest hphase hread
  · rename_i auth hphase
    split at h
    · rename_i verified hverify
      obtain rfl := Option.some.inj h
      have hrefused := Resumes.refused auth hphase
        (congrArg Prod.fst hverify)
      rwa [hverify] at hrefused
    · rename_i username verified hverify
      obtain rfl := Option.some.inj h
      have hverified := Resumes.verified auth username hphase
        (congrArg Prod.fst hverify)
      rwa [hverify] at hverified
  · rename_i username hphase
    obtain rfl := Option.some.inj h
    exact .openSession username hphase
  · rename_i username hphase
    split at h
    · rename_i hpool
      obtain rfl := Option.some.inj h
      exact .exhausted username hphase hpool
    · rename_i clientIp pool hpool
      obtain rfl := Option.some.inj h
      exact .allocate username clientIp pool hphase hpool
  · rename_i username clientIp hphase
    obtain rfl := Option.some.inj h
    exact .register username clientIp hphase
  · rename_i username clientIp hphase
    obtain rfl := Option.some.inj h
    exact .sendConfig username clientIp hphase
  · rename_i username clientIp hphase
    obtain rfl := Option.some.inj h
    exact .configFailed username clientIp hphase
  · rename_i username clientIp hphase
    obtain rfl := Option.some.inj h
    exact .countConnection username clientIp hphase
  · rename_i username clientIp hphase
    obtain rfl := Option.some.inj h
    exact .countSession username clientIp hphase
  · rename_i username clientIp hphase
    obtain rfl := Option.some.inj h
    exact .endTunnel username clientIp hphase
  · rename_i clientIp hphase
    obtain rfl := Option.some.inj h
    exact .release clientIp hphase
  · rename_i hphase
    obtain rfl := Option.some.inj h
    exact .endProxy hphase
  · rename_i hphase
    split at h
    · rename_i hguards
      obtain rfl := Option.some.inj h
      exact .finish hphase hguards
    · rename_i guard rest hguards
      obtain rfl := Option.some.inj h
      exact .drop guard rest hphase hguards
  · cases h

end Session

/-- The part of the shared state that sessions take from and give back to. -/
structure Resources where
  ipPool : IpPool
  activeConnections : Int
  activeSessions : Int
  sessionsByUser : IntGaugeVec
  router : ClientRouter
  tun : List TunPacket
  nextId : Nat
  deliveries : List Delivery

def ServerState.resources (state : ServerState) : Resources where
  ipPool := state.ipPool
  activeConnections := state.activeConnections
  activeSessions := state.metrics.activeSessions
  sessionsByUser := state.metrics.sessionsByUser
  router := state.router
  tun := state.tun
  nextId := state.nextId
  deliveries := state.deliveries

/-- The part of a session that accounts for them. -/
@[ext] structure Holdings where
  guards : List Guard
  held : Option Ipv4Addr
  assigned : Option Ipv4Addr
  queue : Option QueueId

def Session.holdings (session : Session) : Holdings where
  guards := session.guards
  held := session.phase.held
  assigned := session.assigned
  queue := session.queue

/-- The phases up to the allocation of an address. -/
def Phase.early : Phase → Bool
  | .accepting => true
  | .openingConnection => true
  | .acceptingBi => true
  | .readingAuth => true
  | .verifying _ => true
  | .openingSession _ => true
  | .allocating _ => true
  | _ => false

/-- The packet a reader of the TUN gets: cut to its buffer, and nothing if it
is empty. -/
def nonEmpty (packet : TunPacket) : Option TunPacket :=
  if packet.bytes.take tunBufLen = [] then none
  else some ⟨packet.id, packet.bytes.take tunBufLen⟩

/-- The nine ways in which a session step moves resources. -/
inductive ResourceStep (index : Nat) (state : ServerState) (session : Session)
    (event : SessionEvent) : Resources → Holdings → Prop where
  | keep : ResourceStep index state session event state.resources session.holdings
  | openConnection : ResourceStep index state session event
      { state.resources with
        activeConnections := state.activeConnections + 1 }
      { session.holdings with guards := .connection :: session.guards }
  | openSession (username : String) : ResourceStep index state session event
      { state.resources with
        activeSessions := state.metrics.activeSessions + 1
        sessionsByUser := state.metrics.sessionsByUser.inc username }
      { session.holdings with guards := .session username :: session.guards }
  | allocate (clientIp : Ipv4Addr) (pool : IpPool)
      (hpool : state.ipPool.allocate = some (clientIp, pool))
      (hearly : session.phase.early = true) : ResourceStep index state session event
      { state.resources with ipPool := pool }
      { session.holdings with held := some clientIp, assigned := some clientIp }
  | release (clientIp : Ipv4Addr) (hheld : session.phase.held = some clientIp) :
      ResourceStep index state session event
        { state.resources with ipPool := state.ipPool.release clientIp }
        { session.holdings with held := none }
  | register (clientIp : Ipv4Addr) (buffer : Nat)
      (hheld : session.phase.held = some clientIp) : ResourceStep index state session event
      { state.resources with
        router := (state.router.register clientIp buffer).1 }
      { session.holdings with
        guards := .clientHandle clientIp :: session.guards
        queue := some state.router.queues.length }
  | drop (guard : Guard) (rest : List Guard) (hevent : event = .resume .ok)
      (hphase : session.phase = .returning)
      (hguards : session.guards = guard :: rest) : ResourceStep index state session event
      (state.dropGuard guard).resources
      { session.holdings with guards := rest }
  | forward (id : QueueId) (now : Nat) (hqueue : session.queue = some id) :
      ResourceStep index state session event
        { state.resources with
          router := (state.router.tryPop id now).2
          deliveries := state.deliveries ++
            (state.router.tryPop id now).1.toList.map fun packet =>
              ⟨index, packet, camouflagedSend
                (decide (session.handler = .vpnH3)) packet.bytes⟩ }
        session.holdings
  | readTun (packet : TunPacket) (rest : List TunPacket)
      (htun : state.tun = packet :: rest) (hevent : event = .readTun)
      (hhandler : session.handler = .ws)
      (hforwarding : session.forwarding = true) :
      ResourceStep index state session event
        { state.resources with
          tun := rest
          deliveries := state.deliveries ++
            (nonEmpty packet).toList.map fun ipPkt =>
              ⟨index, ipPkt, ipPkt.bytes⟩ }
        session.holdings

theorem ResourceStep.congr {index : Nat} {state : ServerState} {session : Session}
    {event : SessionEvent}
    {resources resources' : Resources} {holdings holdings' : Holdings}
    (h : ResourceStep index state session event resources holdings)
    (hresources : resources' = resources) (hholdings : holdings' = holdings) :
    ResourceStep index state session event resources' holdings' := by
  rw [hresources, hholdings]
  exact h

/-- One step of a session: what it moves, and how it goes through the
phases. -/
structure SessionMove (index : Nat) (state : ServerState) (session : Session)
    (event : SessionEvent) (next : ServerState × Session) : Prop where
  resources : ResourceStep index state session event next.1.resources next.2.holdings
  early : next.2.phase.early = true → session.phase.early = true
  returned : next.2.phase = .returned →
    next.2.guards = [] ∨
      (session.phase = .returned ∧ next.2.guards = session.guards)
  handler : next.2.handler = session.handler

section Phases

variable (handler : Handler) (username : String) (clientIp : Ipv4Addr)

theorem Handler.afterAccept_facts :
    handler.afterAccept.held = none ∧ handler.afterAccept ≠ .returned := by
  cases handler <;> simp [Handler.afterAccept, Phase.held]

theorem Handler.afterOpenConnection_facts :
    handler.afterOpenConnection.held = none ∧
      handler.afterOpenConnection ≠ .returned := by
  cases handler <;> simp [Handler.afterOpenConnection, Phase.held]

theorem Handler.reject_facts :
    handler.reject.held = none ∧ handler.reject.early = false ∧
      handler.reject ≠ .returned := by
  cases handler <;> simp [Handler.reject, Phase.held, Phase.early]

theorem Handler.afterVerify_facts :
    (handler.afterVerify username).held = none ∧
      handler.afterVerify username ≠ .returned := by
  cases handler <;> simp [Handler.afterVerify, Phase.held]

theorem Handler.afterAllocate_facts :
    (handler.afterAllocate username clientIp).held = some clientIp ∧
      (handler.afterAllocate username clientIp).early = false ∧
      handler.afterAllocate username clientIp ≠ .returned := by
  cases handler <;> simp [Handler.afterAllocate, Phase.held, Phase.early]

theorem Handler.afterRegister_facts :
    (handler.afterRegister username clientIp).held = some clientIp ∧
      (handler.afterRegister username clientIp).early = false ∧
      handler.afterRegister username clientIp ≠ .returned := by
  cases handler <;> simp [Handler.afterRegister, Phase.held, Phase.early]

theorem Handler.afterSendConfig_facts :
    (handler.afterSendConfig username clientIp).held = some clientIp ∧
      (handler.afterSendConfig username clientIp).early = false ∧
      handler.afterSendConfig username clientIp ≠ .returned := by
  cases handler <;> simp [Handler.afterSendConfig, Phase.held, Phase.early]

theorem Handler.afterCountSession_facts :
    (handler.afterCountSession username clientIp).held = some clientIp ∧
      (handler.afterCountSession username clientIp).early = false ∧
      handler.afterCountSession username clientIp ≠ .returned := by
  cases handler <;> simp [Handler.afterCountSession, Phase.held, Phase.early]

end Phases

/-- A step that changes no resource and keeps what the session holds. -/
theorem SessionMove.keep {index : Nat} {state state' : ServerState}
    {session session' : Session} {event : SessionEvent}
    (hstate : state'.resources = state.resources)
    (hheld : session'.holdings = session.holdings)
    (hearly : session'.phase.early = true → session.phase.early = true)
    (hreturned : session'.phase = .returned →
      session'.guards = [] ∨
        (session.phase = .returned ∧ session'.guards = session.guards))
    (hhandler : session'.handler = session.handler) :
    SessionMove index state session event (state', session') where
  resources := ResourceStep.keep.congr hstate hheld
  early := hearly
  returned := hreturned
  handler := hhandler

section Moves

variable {index : Nat} {state state' : ServerState} {session : Session}
  {event : SessionEvent} {before phase : Phase}
  (hphase : session.phase = before) (hheld : phase.held = before.held)
  (hearly : phase.early = true → before.early = true)
  (hreturned : phase ≠ .returned)

include hphase hheld hearly hreturned

/-- A step that only moves the handler between two phases that hold the same
address. -/
theorem SessionMove.goto (hstate : state'.resources = state.resources) :
    SessionMove index state session event (state', session.goto phase) := by
  subst hphase
  apply SessionMove.keep hstate
  · exact Holdings.ext rfl hheld rfl rfl
  · exact hearly
  · intro h
    exact absurd h hreturned
  · rfl

theorem SessionMove.openConnection :
    SessionMove index state session event
      (state.openConnection, session.guarded .connection phase) := by
  subst hphase
  refine ⟨?_, hearly, fun h => absurd h hreturned, rfl⟩
  exact ResourceStep.openConnection.congr rfl (Holdings.ext rfl hheld rfl rfl)

theorem SessionMove.openSession (username : String) :
    SessionMove index state session event
      (state.openSession username,
        session.guarded (.session username) phase) := by
  subst hphase
  refine ⟨?_, hearly, fun h => absurd h hreturned, rfl⟩
  exact (ResourceStep.openSession username).congr rfl
    (Holdings.ext rfl hheld rfl rfl)

end Moves

theorem Session.verify_resources (hmac : Hmac) (state : ServerState)
    (session : Session) (auth : ClientAuth) :
    (session.verify hmac state auth).2.resources = state.resources := by
  unfold Session.verify
  split <;> rfl

/-- A handler that goes on makes one of the moves. -/
theorem Session.resume_move {hmac : Hmac} {index : Nat} {state : ServerState}
    {session : Session} {outcome : Outcome} {next : ServerState × Session}
    (h : session.resume hmac state outcome = some next) :
    SessionMove index state session (.resume outcome) next := by
  cases Session.resumes h with
  | accept hphase =>
      obtain ⟨hheld, hreturned⟩ := session.handler.afterAccept_facts
      exact .goto hphase hheld (fun _ => rfl) hreturned rfl
  | acceptFailed hphase => exact .goto hphase rfl nofun nofun rfl
  | openConnection hphase =>
      obtain ⟨hheld, hreturned⟩ := session.handler.afterOpenConnection_facts
      exact .openConnection hphase hheld (fun _ => rfl) hreturned
  | acceptBi hphase => exact .goto hphase rfl (fun _ => rfl) nofun rfl
  | acceptBiFailed hphase => exact .goto hphase rfl nofun nofun rfl
  | readFailed hphase | unreadable _ hphase _ =>
      obtain ⟨hheld, _, hreturned⟩ := session.handler.reject_facts
      exact .goto hphase hheld (fun _ => rfl) hreturned rfl
  | read chunks auth rest hphase _ =>
      apply SessionMove.keep rfl
      · simp [Session.holdings, Session.goto, hphase, Phase.held]
      · intro _
        rw [hphase]
        rfl
      · nofun
      · rfl
  | refused auth hphase _ =>
      obtain ⟨hheld, _, hreturned⟩ := session.handler.reject_facts
      exact .goto hphase hheld (fun _ => rfl) hreturned
        (session.verify_resources hmac state auth)
  | verified auth username hphase _ =>
      obtain ⟨hheld, hreturned⟩ := session.handler.afterVerify_facts username
      exact .goto hphase hheld (fun _ => rfl) hreturned
        (session.verify_resources hmac state auth)
  | openSession username hphase =>
      apply SessionMove.openSession hphase
      · rfl
      · exact fun _ => rfl
      · nofun
  | exhausted username hphase _ => exact .goto hphase rfl nofun nofun rfl
  | allocate username clientIp pool hphase hpool =>
      obtain ⟨hheld, hearly, hreturned⟩ :=
        session.handler.afterAllocate_facts username clientIp
      refine ⟨?_, fun _ => hphase ▸ rfl, fun h => absurd h hreturned, rfl⟩
      exact (ResourceStep.allocate clientIp pool hpool (hphase ▸ rfl)).congr rfl
        (Holdings.ext rfl hheld rfl rfl)
  | register username clientIp hphase =>
      obtain ⟨hheld, hearly, hreturned⟩ :=
        session.handler.afterRegister_facts username clientIp
      have hsame := hheld.trans (congrArg Phase.held hphase).symm
      refine ⟨?_, fun h => ?_, fun h => absurd h hreturned, rfl⟩
      · exact (ResourceStep.register clientIp session.handler.channelSize
          (hphase ▸ rfl)).congr rfl (Holdings.ext rfl hsame rfl rfl)
      · exact absurd (hearly.symm.trans h) nofun
  | sendConfig username clientIp hphase =>
      obtain ⟨hheld, hearly, hreturned⟩ :=
        session.handler.afterSendConfig_facts username clientIp
      have hsame := hheld.trans (congrArg Phase.held hphase).symm
      apply SessionMove.keep rfl
      · exact Holdings.ext rfl hsame rfl rfl
      · intro h
        exact absurd (hearly.symm.trans h) nofun
      · intro h
        exact absurd h hreturned
      · rfl
  | configFailed username clientIp hphase
  | endTunnel username clientIp hphase =>
      exact .goto hphase rfl nofun nofun rfl
  | countConnection username clientIp hphase =>
      exact .openConnection hphase rfl nofun nofun
  | countSession username clientIp hphase =>
      obtain ⟨hheld, hearly, hreturned⟩ :=
        session.handler.afterCountSession_facts username clientIp
      apply SessionMove.openSession hphase hheld _ hreturned username
      intro h
      exact absurd (hearly.symm.trans h) nofun
  | release clientIp hphase =>
      exact ⟨ResourceStep.release clientIp (hphase ▸ rfl), nofun, nofun, rfl⟩
  | endProxy hphase => exact .goto hphase rfl nofun nofun rfl
  | finish hphase hguards =>
      apply SessionMove.keep rfl
      · simp [Session.holdings, Session.goto, hphase, Phase.held]
      · nofun
      · intro _
        exact Or.inl hguards
      · rfl
  | drop guard rest hphase hguards =>
      refine ⟨ResourceStep.drop guard rest rfl hphase hguards, ?_, ?_, rfl⟩
      · intro h
        exact h
      · intro h
        rw [hphase] at h
        cases h

/-- The part of the shared state that is fixed when the server starts. -/
def ServerState.settings (state : ServerState) : Nat × Ipv4Addr × Ipv4Addr :=
  (state.mtu, state.serverIp, state.dnsIp)

theorem ServerState.dropGuard_frame (state : ServerState) (guard : Guard) :
    ∃ activeConnections router metrics, state.dropGuard guard =
      { state with
        activeConnections := activeConnections
        router := router
        metrics := metrics } := by
  cases guard <;> exact ⟨_, _, _, rfl⟩

theorem Session.verify_frame (hmac : Hmac) (state : ServerState)
    (session : Session) (auth : ClientAuth) :
    ∃ metrics, (session.verify hmac state auth).2 =
      { state with metrics := metrics } := by
  unfold Session.verify
  split <;> exact ⟨_, rfl⟩

/-- A handler that goes on touches the pool, the counters and the router
only. -/
theorem Session.resume_frame {hmac : Hmac} {state : ServerState}
    {session : Session} {outcome : Outcome} {next : ServerState × Session}
    (h : session.resume hmac state outcome = some next) :
    ∃ ipPool activeConnections router metrics, next.1 =
      { state with
        ipPool := ipPool
        activeConnections := activeConnections
        router := router
        metrics := metrics } := by
  cases Session.resumes h with
  | refused auth _ _ | verified auth _ _ _ =>
      obtain ⟨metrics, hstate⟩ := session.verify_frame hmac state auth
      exact ⟨_, _, _, metrics, hstate⟩
  | drop guard _ _ _ =>
      obtain ⟨_, _, _, hstate⟩ := state.dropGuard_frame guard
      exact ⟨_, _, _, _, hstate⟩
  | _ => exact ⟨_, _, _, _, rfl⟩

/-- The state after the uplink loops have handled one packet: at most one more
entry in the log of writes, and a shaper that was asked. -/
def ServerState.afterUplink (state : ServerState) (index : Nat)
    (source : Bytes) (written : Option Bytes) (shaper : AdaptiveShaper) :
    ServerState :=
  { state with
    shaper := shaper
    tunWrites := state.tunWrites ++
      written.toList.map fun packet => ⟨index, packet, source⟩ }

theorem ServerState.afterUplink_none (state : ServerState) (index : Nat)
    (source : Bytes) :
    state.afterUplink index source none state.shaper = state := by
  simp [afterUplink]

theorem ServerState.writeTun_eq (state : ServerState) (index : Nat)
    (packet source : Bytes) :
    state.writeTun index packet source =
      state.afterUplink index source (writeToTun packet) state.shaper := by
  unfold writeTun
  split
  · rename_i hnone
    rw [hnone, afterUplink_none]
  · rename_i hsome
    rw [hsome]
    rfl

/-- The verdict of the shaper of a state at an instant. -/
def ServerState.admits (state : ServerState) (now : Nat) (len : Nat) : Bool :=
  (state.shaper.check len (now / 1000)).1

/-- The shared state follows the write of the loops, as it was described for
one packet alone. -/
theorem ServerState.shapedWrite_eq (state : ServerState) (index : Nat)
    (clientIp : Ipv4Addr) (packet source : Bytes) (now : Nat) :
    ∃ shaper, state.shapedWrite index clientIp packet source now =
      state.afterUplink index source
        (validatedWrite clientIp (state.admits now) packet) shaper := by
  by_cases hvalid : validateSourceIp packet clientIp = true
  · by_cases hshaper : state.admits now packet.length = true
    · refine ⟨(state.shaper.check packet.length (now / 1000)).2, ?_⟩
      have hchecked : (state.shaper.check packet.length (now / 1000)).1 = true :=
        hshaper
      simp [shapedWrite, hvalid, hchecked, validatedWrite, hshaper, writeTun_eq,
        afterUplink]
    · refine ⟨(state.shaper.check packet.length (now / 1000)).2, ?_⟩
      have hchecked : (state.shaper.check packet.length (now / 1000)).1 = false :=
        by simpa [admits] using hshaper
      simp [shapedWrite, hvalid, hchecked, validatedWrite, hshaper, afterUplink]
  · refine ⟨state.shaper, ?_⟩
    simp [shapedWrite, hvalid, validatedWrite, afterUplink_none]

theorem ServerState.receiveDatagram_eq (state : ServerState) (index : Nat)
    (padded : Bool) (clientIp : Ipv4Addr) (data : Bytes) (now : Nat) :
    ∃ shaper, state.receiveDatagram index padded clientIp data now =
      state.afterUplink index data
        (datagramToTun padded clientIp (state.admits now) data) shaper := by
  unfold receiveDatagram datagramToTun
  split
  · exact ⟨state.shaper, (state.afterUplink_none index data).symm⟩
  · split
    · split
      · exact ⟨state.shaper, (state.afterUplink_none index data).symm⟩
      · exact state.shapedWrite_eq index clientIp (stripPadding data) data now
    · exact state.shapedWrite_eq index clientIp data data now

theorem ServerState.receiveMessage_eq (state : ServerState) (index : Nat)
    (clientIp : Ipv4Addr) (data : Bytes) :
    state.receiveMessage index clientIp data =
      state.afterUplink index data (messageToTun clientIp data) state.shaper := by
  unfold receiveMessage messageToTun
  split
  · exact (state.afterUplink_none index data).symm
  · exact state.writeTun_eq index data data

/-- What the uplink of a session can do: hand one packet to the TUN as its
loop decides, or buffer the bytes. -/
theorem Session.receive_cases {index : Nat} {state : ServerState}
    {session : Session} {data : Bytes} {now : Nat}
    {next : ServerState × Session}
    (h : session.receive index state data now = some next) :
    ∃ username clientIp, session.phase = .tunnelling username clientIp ∧
      ((session.handler = .tcpReality ∧
          next = (state, { session with received := session.received ++ data })) ∨
        ∃ written shaper,
          next = (state.afterUplink index data written shaper, session) ∧
          (written = datagramToTun (decide (session.handler = .vpnH3)) clientIp
              (state.admits now) data ∧ session.handler.limited = true ∨
            written = messageToTun clientIp data ∧ session.handler = .ws)) := by
  unfold Session.receive at h
  split at h
  · rename_i username clientIp hphase
    refine ⟨username, clientIp, hphase, ?_⟩
    split at h
    · rename_i hhandler
      obtain ⟨shaper, hstate⟩ :=
        state.receiveDatagram_eq index false clientIp data now
      obtain rfl := Option.some.inj h
      exact Or.inr ⟨_, shaper, by rw [hstate], Or.inl ⟨by rw [hhandler]; rfl,
        by rw [hhandler]; rfl⟩⟩
    · rename_i hhandler
      obtain ⟨shaper, hstate⟩ :=
        state.receiveDatagram_eq index true clientIp data now
      obtain rfl := Option.some.inj h
      exact Or.inr ⟨_, shaper, by rw [hstate], Or.inl ⟨by rw [hhandler]; rfl,
        by rw [hhandler]; rfl⟩⟩
    · rename_i hhandler
      exact Or.inl ⟨hhandler, (Option.some.inj h).symm⟩
    · rename_i hhandler
      obtain rfl := Option.some.inj h
      exact Or.inr ⟨_, _, by rw [state.receiveMessage_eq], Or.inr ⟨rfl, hhandler⟩⟩
  · cases h

/-- What reading a frame can do: end the tunnel, or hand the frame to the
TUN. -/
theorem Session.frame_cases {index : Nat} {state : ServerState}
    {session : Session} {now : Nat} {next : ServerState × Session}
    (h : session.frame index state now = some next) :
    ∃ username clientIp, session.phase = .tunnelling username clientIp ∧
      session.handler = .tcpReality ∧
      (next = (state, session.goto (.releasing clientIp)) ∨
        ∃ packet pktBuf rest shaper,
          readFrame session.pktBuf session.received =
            .frame packet pktBuf rest ∧
          next = (state.afterUplink index packet
              (frameToTun clientIp (state.admits now) packet) shaper,
            { session with pktBuf := pktBuf, received := rest })) := by
  unfold Session.frame at h
  split at h
  · rename_i username clientIp hphase hhandler
    refine ⟨username, clientIp, hphase, hhandler, ?_⟩
    split at h
    · cases h
    · exact Or.inl (Option.some.inj h).symm
    · rename_i packet pktBuf rest hframe
      obtain ⟨shaper, hstate⟩ :=
        state.shapedWrite_eq index clientIp packet packet now
      obtain rfl := Option.some.inj h
      exact Or.inr ⟨packet, pktBuf, rest, shaper, hframe, by rw [hstate]; rfl⟩
  · cases h

/-- What the forwarding task of QUIC and TCP can do: find nothing, or deliver
one packet. -/
theorem Session.forward_cases {index : Nat} {state : ServerState}
    {session : Session} {now : Nat} {next : ServerState × Session}
    (h : session.forward index state now = some next) :
    ∃ id, session.queue = some id ∧
      next = ({ state with
        router := (state.router.tryPop id now).2
        deliveries := state.deliveries ++
          (state.router.tryPop id now).1.toList.map fun packet =>
            ⟨index, packet, camouflagedSend
              (decide (session.handler = .vpnH3)) packet.bytes⟩ }, session) := by
  unfold Session.forward at h
  split at h
  · rename_i id _ hqueue
    refine ⟨id, hqueue, ?_⟩
    split at h
    · rename_i hpop
      obtain rfl := Option.some.inj h
      simp [hpop]
    · rename_i hpop
      obtain rfl := Option.some.inj h
      simp [hpop]
  · cases h

/-- What the forwarding task of a WebSocket tunnel can do: take the first
packet of the TUN, and deliver it unless it is empty. -/
theorem Session.readTun_cases {index : Nat} {state : ServerState}
    {session : Session} {next : ServerState × Session}
    (h : session.readTun index state = some next) :
    ∃ packet rest, state.tun = packet :: rest ∧ session.handler = .ws ∧
      session.forwarding = true ∧
      next = ({ state with
        tun := rest
        deliveries := state.deliveries ++
          (nonEmpty packet).toList.map fun ipPkt =>
            ⟨index, ipPkt, ipPkt.bytes⟩ }, session) := by
  unfold Session.readTun at h
  split at h
  · rename_i packet rest hforwarding hhandler htun
    refine ⟨packet, rest, htun, hhandler, hforwarding, ?_⟩
    by_cases hempty : packet.bytes.take tunBufLen = []
    · simp only [hempty, if_true] at h
      rw [← Option.some.inj h]
      simp [nonEmpty, hempty]
    · simp only [hempty, if_false] at h
      rw [← Option.some.inj h]
      simp [nonEmpty, hempty]
  · cases h

theorem Session.rttSample_cases {state : ServerState} {session : Session}
    {rtt : Nat} {next : ServerState × Session}
    (h : session.rttSample state rtt = some next) :
    next = ({ state with shaper := state.shaper.updateRtt rtt }, session) := by
  unfold Session.rttSample at h
  split at h
  · exact (Option.some.inj h).symm
  · cases h

theorem Session.stopForwarding_cases {hmac : Hmac} {index : Nat}
    {state : ServerState} {session : Session} {next : ServerState × Session}
    (h : session.step hmac index state .stopForwarding = some next) :
    next = (state, { session with forwarding := false }) := by
  simp only [Session.step] at h
  split at h
  · exact (Option.some.inj h).symm
  · cases h

/-- What a step of a session leaves alone: the handler goes on, a frame ends the
tunnel, or the data path touches its own part of the state only. -/
theorem Session.step_frame {hmac : Hmac} {index : Nat} {state : ServerState}
    {session : Session} {event : SessionEvent} {next : ServerState × Session}
    (h : session.step hmac index state event = some next) :
    (∃ outcome, session.resume hmac state outcome = some next) ∨
      (∃ username clientIp, session.phase = .tunnelling username clientIp ∧
        next = (state, session.goto (.releasing clientIp))) ∨
      ∃ shaper router tun tunWrites deliveries received pktBuf forwarding,
        next = ({ state with
            shaper := shaper
            router := router
            tun := tun
            tunWrites := tunWrites
            deliveries := deliveries },
          { session with
            received := received
            pktBuf := pktBuf
            forwarding := forwarding }) := by
  cases event with
  | resume outcome => exact Or.inl ⟨outcome, h⟩
  | receive data now =>
      obtain ⟨_, _, _, ⟨_, rfl⟩ | ⟨_, _, rfl, _⟩⟩ := Session.receive_cases h
      · exact Or.inr (Or.inr ⟨_, _, _, _, _, _, _, _, rfl⟩)
      · exact Or.inr (Or.inr ⟨_, _, _, _, _, _, _, _, rfl⟩)
  | frame now =>
      obtain ⟨username, clientIp, hphase, _, rfl | ⟨_, _, _, _, _, rfl⟩⟩ :=
        Session.frame_cases h
      · exact Or.inr (Or.inl ⟨username, clientIp, hphase, rfl⟩)
      · exact Or.inr (Or.inr ⟨_, _, _, _, _, _, _, _, rfl⟩)
  | rttSample rtt =>
      obtain rfl := Session.rttSample_cases h
      exact Or.inr (Or.inr ⟨_, _, _, _, _, _, _, _, rfl⟩)
  | forward now =>
      obtain ⟨_, _, rfl⟩ := Session.forward_cases h
      exact Or.inr (Or.inr ⟨_, _, _, _, _, _, _, _, rfl⟩)
  | readTun =>
      obtain ⟨_, _, _, _, _, rfl⟩ := Session.readTun_cases h
      exact Or.inr (Or.inr ⟨_, _, _, _, _, _, _, _, rfl⟩)
  | stopForwarding =>
      obtain rfl := Session.stopForwarding_cases h
      exact Or.inr (Or.inr ⟨_, _, _, _, _, _, _, _, rfl⟩)

/-- A step of the data path moves no resource and keeps the phase. -/
theorem SessionMove.data {index : Nat} {state state' : ServerState}
    {session session' : Session} {event : SessionEvent}
    (hstate : state'.resources = state.resources)
    (hheld : session'.holdings = session.holdings)
    (hphase : session'.phase = session.phase)
    (hhandler : session'.handler = session.handler) :
    SessionMove index state session event (state', session') := by
  apply SessionMove.keep hstate hheld
  · intro h
    rwa [hphase] at h
  · intro h
    exact Or.inr ⟨hphase.symm.trans h, congrArg Holdings.guards hheld⟩
  · exact hhandler

/-- Any event of a session makes one of the moves. -/
theorem Session.step_move {hmac : Hmac} {index : Nat} {state : ServerState}
    {session : Session} {event : SessionEvent} {next : ServerState × Session}
    (h : session.step hmac index state event = some next) :
    SessionMove index state session event next := by
  cases event with
  | resume outcome => exact Session.resume_move h
  | receive data now =>
      obtain ⟨_, _, _, ⟨_, rfl⟩ | ⟨_, _, rfl, _⟩⟩ := Session.receive_cases h
      · exact SessionMove.data rfl rfl rfl rfl
      · exact SessionMove.data rfl rfl rfl rfl
  | frame now =>
      obtain ⟨_, _, hphase, _, rfl | ⟨_, _, _, _, _, rfl⟩⟩ :=
        Session.frame_cases h
      · exact SessionMove.goto hphase rfl nofun nofun rfl
      · exact SessionMove.data rfl rfl rfl rfl
  | rttSample rtt =>
      obtain rfl := Session.rttSample_cases h
      exact SessionMove.data rfl rfl rfl rfl
  | forward now =>
      obtain ⟨id, hqueue, rfl⟩ := Session.forward_cases h
      refine ⟨ResourceStep.forward id now hqueue, ?_, ?_, rfl⟩
      · intro hearly
        exact hearly
      · intro hreturned
        exact Or.inr ⟨hreturned, rfl⟩
  | readTun =>
      obtain ⟨packet, rest, htun, hhandler, hforwarding, rfl⟩ :=
        Session.readTun_cases h
      refine ⟨ResourceStep.readTun packet rest htun rfl hhandler hforwarding,
        ?_, ?_, rfl⟩
      · intro hearly
        exact hearly
      · intro hreturned
        exact Or.inr ⟨hreturned, rfl⟩
  | stopForwarding =>
      obtain rfl := Session.stopForwarding_cases h
      exact SessionMove.data rfl rfl rfl rfl

/-- What the environment of the sessions does: nothing that matters here, a
packet that arrives at the TUN, and one that the global reader takes, drops or
routes. -/
inductive EnvironmentStep (state : ServerState) : Resources → Prop where
  | idle : EnvironmentStep state state.resources
  | arrive (bytes : Bytes) : EnvironmentStep state
      { state.resources with
        tun := state.tun ++ [⟨state.nextId, bytes⟩]
        nextId := state.nextId + 1 }
  | discard (packet : TunPacket) (rest : List TunPacket)
      (htun : state.tun = packet :: rest) : EnvironmentStep state
      { state.resources with tun := rest }
  | route (packet : TunPacket) (rest : List TunPacket) (dstIp : Ipv4Addr)
      (now : Nat) (htun : state.tun = packet :: rest)
      (hdst : extractDstIpv4 (packet.bytes.take tunBufLen) = some dstIp) :
      EnvironmentStep state
        { state.resources with
          tun := rest
          router := (state.router.route dstIp
            ⟨packet.id, packet.bytes.take tunBufLen⟩ now).2 }

/-- The environment moves packets only. -/
theorem EnvironmentStep.packets_only {state : ServerState}
    {resources : Resources} (h : EnvironmentStep state resources) :
    ∃ router tun nextId, router.routes = state.router.routes ∧
      resources = { state.resources with
        router := router, tun := tun, nextId := nextId } := by
  cases h with
  | idle => exact ⟨state.router, state.tun, state.nextId, rfl, rfl⟩
  | arrive bytes => exact ⟨state.router, _, _, rfl, rfl⟩
  | discard packet rest htun =>
      exact ⟨state.router, rest, state.nextId, rfl, rfl⟩
  | route packet rest dstIp now htun hdst =>
      exact ⟨_, rest, state.nextId, ClientRouter.route_routes _ _ _ _, rfl⟩

theorem ServerState.readTun_environment {state next : ServerState} {now : Nat}
    (h : state.readTun now = some next) :
    EnvironmentStep state next.resources := by
  unfold ServerState.readTun at h
  split at h
  · cases h
  · rename_i packet rest htun
    simp only at h
    split at h
    · obtain rfl := Option.some.inj h
      exact EnvironmentStep.discard packet rest htun
    · split at h
      · obtain rfl := Option.some.inj h
        exact EnvironmentStep.discard packet rest htun
      · split at h
        · obtain rfl := Option.some.inj h
          exact EnvironmentStep.discard packet rest htun
        · rename_i dstIp hdst
          obtain rfl := Option.some.inj h
          exact EnvironmentStep.route packet rest dstIp now htun hdst

/-- The global reader touches the TUN, the shaper and the router only. -/
theorem ServerState.readTun_frame {state next : ServerState} {now : Nat}
    (h : state.readTun now = some next) :
    ∃ tun shaper router, next =
      { state with tun := tun, shaper := shaper, router := router } := by
  unfold ServerState.readTun at h
  split at h
  · cases h
  · simp only at h
    split at h
    · cases h
      exact ⟨_, _, _, rfl⟩
    · split at h
      · cases h
        exact ⟨_, _, _, rfl⟩
      · split at h
        · cases h
          exact ⟨_, _, _, rfl⟩
        · cases h
          exact ⟨_, _, _, rfl⟩

/-- What one step of the server does to sessions and resources: a step of the
environment, a new session, or a move of one session. -/
theorem Server.step_cases {hmac : Hmac} {server next : Server}
    {label : ServerLabel} (h : server.step hmac label = some next) :
    (EnvironmentStep server.state next.state.resources ∧
        next.sessions = server.sessions) ∨
      (∃ handler, next = { server with
        sessions := server.sessions ++
          [Session.start handler server.state.auth] }) ∨
      ∃ index event session moved, label = .session index event ∧
        server.sessions[index]? = some session ∧
        session.step hmac index server.state event = some moved ∧
        next = ⟨moved.1, server.sessions.set index moved.2⟩ := by
  cases label with
  | accept handler =>
      simp only [Server.step] at h
      split at h
      · obtain rfl := Option.some.inj h
        exact Or.inl ⟨EnvironmentStep.idle, rfl⟩
      · exact Or.inr (Or.inl ⟨handler, (Option.some.inj h).symm⟩)
  | reload auth maxConnections =>
      obtain rfl := Option.some.inj h
      exact Or.inl ⟨EnvironmentStep.idle, rfl⟩
  | arrive bytes =>
      obtain rfl := Option.some.inj h
      exact Or.inl ⟨EnvironmentStep.arrive bytes, rfl⟩
  | readTun now =>
      obtain ⟨state, hread, rfl⟩ := Option.map_eq_some_iff.mp h
      exact Or.inl ⟨ServerState.readTun_environment hread, rfl⟩
  | session index event =>
      simp only [Server.step] at h
      split at h
      · cases h
      · rename_i session hsession
        obtain ⟨moved, hmoved, rfl⟩ := Option.map_eq_some_iff.mp h
        exact Or.inr (Or.inr
          ⟨index, event, session, moved, rfl, hsession, hmoved, rfl⟩)

end Redpill
