/-
Session resource accounting.  In every reachable state of the server the pool
holds exactly the addresses of the sessions, no two sessions hold the same one,
and every counter is the number of the guards that will undo it.
-/
import Redpill.Machine
import Redpill.Population
import Redpill.ServerSteps

namespace Redpill

open Population

def Guard.isConnection : Guard → Bool
  | .connection => true
  | _ => false

def Guard.isSession : Guard → Bool
  | .session _ => true
  | _ => false

def Guard.isSessionOf (username : String) : Guard → Bool
  | .session name => decide (name = username)
  | _ => false

/-- The guards of a kind that a session has not dropped yet. -/
def Session.live (kind : Guard → Bool) (session : Session) : Int :=
  session.guards.countP kind

/-- The guards of a kind that are live in the whole server. -/
def Server.live (kind : Guard → Bool) (server : Server) : Int :=
  total (Session.live kind) server.sessions

/-- The host octet of the address a session holds. -/
def Session.heldHost (session : Session) : Option UInt8 :=
  session.phase.held.map Ipv4Addr.d

/-- A counter of the server, with the guards it counts: creating and dropping
a guard are the only moves that touch it. -/
structure Meter where
  read : Resources → Int
  kind : Guard → Bool
  openConnection : ∀ state : ServerState,
    read state.openConnection.resources =
      read state.resources + if kind .connection then 1 else 0
  openSession : ∀ (state : ServerState) (username : String),
    read (state.openSession username).resources =
      read state.resources + if kind (.session username) then 1 else 0
  dropGuard : ∀ (state : ServerState) (guard : Guard),
    read (state.dropGuard guard).resources =
      read state.resources - if kind guard then 1 else 0
  allocated : ∀ (resources : Resources) (pool : IpPool),
    read { resources with ipPool := pool } = read resources
  packets : ∀ (resources : Resources) (router : ClientRouter)
    (tun : List TunPacket) (nextId : Nat) (deliveries : List Delivery),
    read { resources with
      router := router, tun := tun, nextId := nextId,
      deliveries := deliveries } = read resources
  clientHandle : ∀ clientIp, kind (.clientHandle clientIp) = false

namespace Meter

variable {index : Nat} {state : ServerState} {session : Session}
  {event : SessionEvent} {resources : Resources} {holdings : Holdings}

/-- A meter moves together with the guards of its kind. -/
theorem move (meter : Meter)
    (h : ResourceStep index state session event resources holdings) :
    meter.read resources = meter.read state.resources +
      ((holdings.guards.countP meter.kind : Int) - session.live meter.kind) := by
  cases h with
  | keep => simp [Session.live, Session.holdings]
  | openConnection =>
      have hopen := meter.openConnection state
      simp only [Session.live, List.countP_cons]
      push_cast
      exact hopen.trans (by ring)
  | openSession username =>
      have hopen := meter.openSession state username
      simp only [Session.live, List.countP_cons]
      push_cast
      exact hopen.trans (by ring)
  | allocate clientIp pool hpool hearly =>
      simp [Session.live, Session.holdings, meter.allocated]
  | release clientIp hheld =>
      simp [Session.live, Session.holdings, meter.allocated]
  | register clientIp buffer hheld =>
      have hread := meter.packets state.resources
        (state.router.register clientIp buffer).1 state.tun state.nextId
        state.deliveries
      simp only [Session.live, List.countP_cons, meter.clientHandle]
      exact hread.trans (by simp)
  | drop guard rest hevent hphase hguards =>
      have hdrop := meter.dropGuard state guard
      simp only [Session.live, hguards, List.countP_cons]
      push_cast
      exact hdrop.trans (by ring)
  | forward id now hqueue =>
      simp only [Session.live, Session.holdings, sub_self, add_zero]
      exact meter.packets state.resources _ state.tun state.nextId _
  | readTun packet rest htun hevent hhandler hforwarding =>
      simp only [Session.live, Session.holdings, sub_self, add_zero]
      exact meter.packets state.resources state.router rest state.nextId _

/-- The connection counter. -/
def connections : Meter where
  read := Resources.activeConnections
  kind := Guard.isConnection
  openConnection _ := rfl
  openSession _ _ := by simp [Guard.isConnection, ServerState.openSession,
    ServerState.resources]
  dropGuard state guard := by
    cases guard <;> simp [Guard.isConnection, ServerState.dropGuard,
      ServerState.resources]
  allocated _ _ := rfl
  packets _ _ _ _ _ := rfl
  clientHandle _ := rfl

/-- The gauge of active sessions. -/
def active : Meter where
  read := Resources.activeSessions
  kind := Guard.isSession
  openConnection _ := by simp [Guard.isSession, ServerState.openConnection,
    ServerState.resources]
  openSession _ _ := rfl
  dropGuard state guard := by
    cases guard <;> simp [Guard.isSession, ServerState.dropGuard,
      ServerState.resources]
  allocated _ _ := rfl
  packets _ _ _ _ _ := rfl
  clientHandle _ := rfl

/-- The sum of the gauge per user. -/
def allUsers : Meter where
  read resources := resources.sessionsByUser.total
  kind := Guard.isSession
  openConnection _ := by simp [Guard.isSession, ServerState.openConnection,
    ServerState.resources]
  openSession _ username := by
    simp [Guard.isSession, ServerState.openSession, ServerState.resources,
      IntGaugeVec.inc, IntGaugeVec.total_add]
  dropGuard state guard := by
    cases guard <;> simp [Guard.isSession, ServerState.dropGuard,
      ServerState.resources, IntGaugeVec.dec, IntGaugeVec.total_add, sub_eq_add_neg]
  allocated _ _ := rfl
  packets _ _ _ _ _ := rfl
  clientHandle _ := rfl

/-- The gauge of one user. -/
def user (username : String) : Meter where
  read resources := resources.sessionsByUser.value username
  kind := Guard.isSessionOf username
  openConnection _ := by simp [Guard.isSessionOf, ServerState.openConnection,
    ServerState.resources]
  openSession _ name := by
    simp [Guard.isSessionOf, ServerState.openSession, ServerState.resources,
      IntGaugeVec.inc, IntGaugeVec.value_add, eq_comm]
  dropGuard state guard := by
    cases guard with
    | connection => simp [Guard.isSessionOf, ServerState.dropGuard,
        ServerState.resources]
    | session name =>
        by_cases hname : name = username
        · simp [Guard.isSessionOf, ServerState.dropGuard,
            ServerState.resources, IntGaugeVec.dec, IntGaugeVec.value_add,
            hname, sub_eq_add_neg]
        · simp [Guard.isSessionOf, ServerState.dropGuard,
            ServerState.resources, IntGaugeVec.dec, IntGaugeVec.value_add,
            hname, Ne.symm hname]
    | clientHandle clientIp => simp [Guard.isSessionOf, ServerState.dropGuard,
        ServerState.resources]
  allocated _ _ := rfl
  packets _ _ _ _ _ := rfl
  clientHandle _ := rfl

/-- The meter shows the number of live guards of its kind. -/
def Right (meter : Meter) (server : Server) : Prop :=
  meter.read server.state.resources = server.live meter.kind

theorem Right.step {meter : Meter} {hmac : Hmac} {server next : Server}
    {label : ServerLabel} (h : meter.Right server)
    (hstep : server.step hmac label = some next) : meter.Right next := by
  unfold Right at h ⊢
  rcases Server.step_cases hstep with ⟨henvironment, hsessions⟩ |
    ⟨handler, rfl⟩ | ⟨index, event, session, moved, _, hsession, hmoved, rfl⟩
  · obtain ⟨router, tun, nextId, _, hresources⟩ := henvironment.packets_only
    rw [Server.live, hsessions, hresources]
    exact (meter.packets _ router tun nextId _).trans h
  · have hnone : (Session.start handler server.state.auth).live meter.kind = 0 :=
      rfl
    simp only [Server.live, total_append_singleton, hnone, add_zero]
    exact h
  · have hmove := (Session.step_move hmoved).resources
    rw [meter.move hmove, h, Server.live, Server.live,
      total_set _ hsession]
    rfl

end Meter

/-- The pool and the sessions agree on the addresses in use, and a handler
that has returned has dropped its guards. -/
structure Server.Accounted (server : Server) : Prop where
  owned : Owned Session.heldHost server.state.ipPool.allocated server.sessions
  subnet : ∀ session ∈ server.sessions, ∀ ip, session.phase.held = some ip →
    ip = server.state.ipPool.address ip.d
  returned : ∀ session ∈ server.sessions, session.phase = .returned →
    session.guards = []

theorem Server.Accounted.start (auth : AuthMode)
    (base serverIp dnsIp : Ipv4Addr) (mtu maxConnections mbps : Nat) :
    (Server.start auth base serverIp dnsIp mtu maxConnections mbps).Accounted where
  owned := Owned.nil _
  subnet := by simp [Server.start]
  returned := by simp [Server.start]

theorem address_of_base {pool pool' : IpPool} (h : pool'.base = pool.base)
    (host : UInt8) : pool'.address host = pool.address host := by
  rw [IpPool.address, IpPool.address, h]

theorem Server.Accounted.spawn {server : Server} (h : server.Accounted)
    (handler : Handler) (auth : AuthMode) :
    ({ server with sessions := server.sessions ++ [Session.start handler auth] } :
      Server).Accounted where
  owned := h.owned.append rfl
  subnet session hsession := by
    rcases List.mem_append.mp hsession with hold | hnew
    · exact h.subnet session hold
    · rw [List.mem_singleton.mp hnew]
      nofun
  returned session hsession := by
    rcases List.mem_append.mp hsession with hold | hnew
    · exact h.returned session hold
    · intro _
      rw [List.mem_singleton.mp hnew]
      rfl

/-- What a session holds after a move lies in the subnet of the pool. -/
theorem ResourceStep.subnet {index : Nat} {state : ServerState}
    {session : Session} {event : SessionEvent} {resources : Resources} {holdings : Holdings}
    (h : ResourceStep index state session event resources holdings)
    (hold : ∀ ip, session.phase.held = some ip →
      ip = state.ipPool.address ip.d) :
    resources.ipPool.base = state.ipPool.base ∧
      ∀ ip, holdings.held = some ip → ip = state.ipPool.address ip.d := by
  cases h with
  | keep => exact ⟨rfl, hold⟩
  | openConnection => exact ⟨rfl, hold⟩
  | openSession username => exact ⟨rfl, hold⟩
  | allocate clientIp pool hpool hearly =>
      obtain ⟨haddress, _, hbase, _⟩ := IpPool.allocate_eq_some hpool
      refine ⟨hbase, ?_⟩
      intro ip hip
      obtain rfl := Option.some.inj hip
      exact haddress
  | release clientIp hheld =>
      refine ⟨IpPool.release_base _ _, ?_⟩
      nofun
  | register clientIp buffer hheld => exact ⟨rfl, hold⟩
  | drop guard rest hevent hphase hguards =>
      refine ⟨?_, hold⟩
      cases guard <;> rfl
  | forward id now hqueue => exact ⟨rfl, hold⟩
  | readTun packet rest htun hevent hhandler hforwarding => exact ⟨rfl, hold⟩

theorem early_held {phase : Phase} (h : phase.early = true) :
    phase.held = none := by
  cases phase with
  | accepting => rfl
  | openingConnection => rfl
  | acceptingBi => rfl
  | readingAuth => rfl
  | verifying auth => rfl
  | openingSession username => rfl
  | allocating username => rfl
  | proxying => rfl
  | returning => rfl
  | returned => rfl
  | registering username clientIp => cases h
  | sendingConfig username clientIp => cases h
  | countingConnection username clientIp => cases h
  | countingSession username clientIp => cases h
  | tunnelling username clientIp => cases h
  | releasing clientIp => cases h

/-- The ownership of addresses follows the moves of one session. -/
theorem ResourceStep.owned {index : Nat} {state : ServerState}
    {session moved : Session}
    {event : SessionEvent} {resources : Resources} {sessions : List Session}
    (h : ResourceStep index state session event resources moved.holdings)
    (howned : Owned Session.heldHost state.ipPool.allocated sessions)
    (hsession : sessions[index]? = some session)
    (hsubnet : ∀ ip, session.phase.held = some ip →
      ip = state.ipPool.address ip.d) :
    Owned Session.heldHost resources.ipPool.allocated
      (sessions.set index moved) := by
  generalize hholdings : moved.holdings = holdings at h
  have hheld : moved.phase.held = holdings.held :=
    congrArg Holdings.held hholdings
  have hsame : holdings.held = session.phase.held →
      moved.heldHost = session.heldHost := by
    intro hkept
    rw [Session.heldHost, Session.heldHost, hheld, hkept]
  cases h with
  | keep => exact howned.keep hsession (hsame rfl)
  | openConnection => exact howned.keep hsession (hsame rfl)
  | openSession username => exact howned.keep hsession (hsame rfl)
  | allocate clientIp pool hpool hearly =>
      obtain ⟨_, hfree, _, hinsert⟩ := IpPool.allocate_eq_some hpool
      change Owned _ pool.allocated _
      rw [hinsert]
      apply howned.acquire hsession _ hfree
      · rw [Session.heldHost, hheld]
        rfl
      · rw [Session.heldHost, early_held hearly]
        rfl
  | release clientIp hclientIp =>
      change Owned _ (state.ipPool.release clientIp).allocated _
      rw [IpPool.release_allocated (hsubnet clientIp hclientIp)]
      apply howned.release hsession
      · rw [Session.heldHost, hclientIp]
        rfl
      · rw [Session.heldHost, hheld]
        rfl
  | register clientIp buffer hclientIp => exact howned.keep hsession (hsame rfl)
  | drop guard rest hevent hphase hguards =>
      have hpool : (state.dropGuard guard).resources.ipPool = state.ipPool := by
        cases guard <;> rfl
      rw [hpool]
      exact howned.keep hsession (hsame rfl)
  | forward id now hqueue => exact howned.keep hsession (hsame rfl)
  | readTun packet rest htun hevent hhandler hforwarding =>
      exact howned.keep hsession (hsame rfl)

theorem Server.Accounted.step {hmac : Hmac} {server next : Server}
    {label : ServerLabel} (h : server.Accounted)
    (hstep : server.step hmac label = some next) : next.Accounted := by
  rcases Server.step_cases hstep with ⟨henvironment, hsessions⟩ |
    ⟨handler, rfl⟩ | ⟨index, event, session, moved, _, hsession, hmoved, rfl⟩
  · obtain ⟨router, tun, nextId, _, hresources⟩ := henvironment.packets_only
    have hpool : next.state.ipPool = server.state.ipPool :=
      congrArg Resources.ipPool hresources
    constructor
    · rw [hpool, hsessions]
      exact h.owned
    · rw [hpool, hsessions]
      exact h.subnet
    · rw [hsessions]
      exact h.returned
  · exact h.spawn handler server.state.auth
  · have hmove := Session.step_move hmoved
    have hmem := List.mem_of_getElem? hsession
    obtain ⟨hbase, hsubnet⟩ := hmove.resources.subnet (h.subnet session hmem)
    constructor
    · exact hmove.resources.owned h.owned hsession (h.subnet session hmem)
    · intro other hother ip hip
      change ip = moved.1.resources.ipPool.address ip.d
      rw [address_of_base hbase]
      rcases List.mem_or_eq_of_mem_set hother with hold | rfl
      · exact h.subnet other hold ip hip
      · exact hsubnet ip hip
    · intro other hother hreturned
      rcases List.mem_or_eq_of_mem_set hother with hold | rfl
      · exact h.returned other hold hreturned
      · rcases hmove.returned hreturned with hnil | ⟨hbefore, hguards⟩
        · exact hnil
        · rw [hguards]
          exact h.returned session hmem hbefore

/-- A state of the server that some interleaving of its sessions reaches. -/
def Server.Reached (hmac : Hmac) (server : Server) : Prop :=
  ∃ auth base serverIp dnsIp mtu maxConnections mbps,
    Machine.Reachable (Server.step hmac)
      (Server.start auth base serverIp dnsIp mtu maxConnections mbps) server

theorem Server.Reached.accounted {hmac : Hmac} {server : Server}
    (h : server.Reached hmac) : server.Accounted := by
  obtain ⟨auth, base, serverIp, dnsIp, mtu, maxConnections, mbps, hreach⟩ := h
  apply Machine.Reachable.invariant _ _ hreach
  · intro state label next hstate hstep
    exact hstate.step hstep
  · exact Server.Accounted.start auth base serverIp dnsIp mtu maxConnections mbps

theorem Server.Reached.meter {hmac : Hmac} {server : Server}
    (h : server.Reached hmac) (meter : Meter)
    (hstart : ∀ auth base serverIp dnsIp mtu maxConnections mbps,
      meter.Right
        (Server.start auth base serverIp dnsIp mtu maxConnections mbps)) :
    meter.Right server := by
  obtain ⟨auth, base, serverIp, dnsIp, mtu, maxConnections, mbps, hreach⟩ := h
  apply Machine.Reachable.invariant _ _ hreach
  · intro state label next hstate hstep
    exact hstate.step hstep
  · exact hstart auth base serverIp dnsIp mtu maxConnections mbps

theorem Server.live_nonneg (kind : Guard → Bool) (server : Server) :
    0 ≤ server.live kind :=
  total_nonneg _ (fun _ => Int.natCast_nonneg _) _

theorem Server.Accounted.live_eq_zero {server : Server} (h : server.Accounted)
    (hall : ∀ session ∈ server.sessions, session.phase = .returned)
    (kind : Guard → Bool) : server.live kind = 0 := by
  apply total_eq_zero
  intro session hsession
  rw [Session.live, h.returned session hsession (hall session hsession)]
  rfl

/-- Resource accounting: in every reachable state the held addresses are
pairwise distinct, the pool contains exactly their host octets, and every
counter equals the number of live guards; once all handlers have returned,
nothing is left. -/
theorem session_resources_accounted {hmac : Hmac} {server : Server}
    (h : server.Reached hmac) :
    (∀ {i j : Nat} {s t : Session} {ip : Ipv4Addr},
        server.sessions[i]? = some s → server.sessions[j]? = some t →
        s.phase.held = some ip → t.phase.held = some ip → i = j) ∧
      (∀ host, host ∈ server.state.ipPool.allocated ↔
        ∃ session ∈ server.sessions, session.phase.held =
          some (server.state.ipPool.address host)) ∧
      (∀ session ∈ server.sessions, ∀ ip, session.phase.held = some ip →
        ip = server.state.ipPool.address ip.d) ∧
      (∀ host ∈ server.state.ipPool.allocated, 2 ≤ host ∧ host ≤ 254) ∧
      server.state.activeConnections = server.live Guard.isConnection ∧
      0 ≤ server.state.activeConnections ∧
      server.state.metrics.activeSessions = server.live Guard.isSession ∧
      server.state.metrics.activeSessions =
        server.state.metrics.sessionsByUser.total ∧
      (∀ username, server.state.metrics.sessionsByUser.value username =
        server.live (Guard.isSessionOf username)) ∧
      ((∀ session ∈ server.sessions, session.phase = .returned) →
        server.state.ipPool.isEmpty = true ∧
        server.state.activeConnections = 0 ∧
        server.state.metrics.activeSessions = 0 ∧
        ∀ username, server.state.metrics.sessionsByUser.value username = 0) := by
  have haccounted := h.accounted
  have hconnections : server.state.activeConnections = _ :=
    h.meter Meter.connections (fun _ _ _ _ _ _ _ => rfl)
  have hactive : server.state.metrics.activeSessions = _ :=
    h.meter Meter.active (fun _ _ _ _ _ _ _ => rfl)
  have hallUsers : server.state.metrics.sessionsByUser.total = _ :=
    h.meter Meter.allUsers (fun _ _ _ _ _ _ _ => rfl)
  have husers : ∀ username,
      server.state.metrics.sessionsByUser.value username = _ := fun username =>
    h.meter (Meter.user username) (fun _ _ _ _ _ _ _ => rfl)
  refine ⟨?_, ?_, haccounted.subnet, server.state.ipPool.inRange,
    hconnections, ?_, hactive, hactive.trans hallUsers.symm, husers, ?_⟩
  · intro i j s t ip hs ht hheldS hheldT
    apply haccounted.owned.distinct hs ht (r := ip.d)
    · rw [Session.heldHost, hheldS]
      rfl
    · rw [Session.heldHost, hheldT]
      rfl
  · intro host
    rw [haccounted.owned.mem_iff]
    constructor
    · intro ⟨index, session, hsession, hhost⟩
      have hmem := List.mem_of_getElem? hsession
      obtain ⟨ip, hheld, rfl⟩ := Option.map_eq_some_iff.mp hhost
      exact ⟨session, hmem,
        hheld.trans (congrArg some (haccounted.subnet session hmem ip hheld))⟩
    · intro ⟨session, hmem, hheld⟩
      obtain ⟨index, hsession⟩ := List.mem_iff_getElem?.mp hmem
      refine ⟨index, session, hsession, ?_⟩
      rw [Session.heldHost, hheld]
      rfl
  · rw [hconnections]
    exact server.live_nonneg _
  · intro hall
    have hzero := haccounted.live_eq_zero hall
    refine ⟨?_, hconnections.trans (hzero _), hactive.trans (hzero _), ?_⟩
    · apply decide_eq_true
      apply Finset.eq_empty_of_forall_notMem
      intro host hhost
      obtain ⟨index, session, hsession, hheld⟩ :=
        (haccounted.owned.mem_iff host).mp hhost
      rw [Session.heldHost, hall session (List.mem_of_getElem? hsession)] at hheld
      cases hheld
    · intro username
      exact (husers username).trans (hzero _)

def zeroBytes32 : Bytes32 := .replicate 0

/-- `HMAC-SHA256` of the zero nonce under the zero key. -/
def zeroMac : Bytes32 :=
  ⟨[
    0x33, 0xad, 0x0a, 0x1c, 0x60, 0x7e, 0xc0, 0x3b, 0x09, 0xe6, 0xcd,
    0x98, 0x93, 0x68, 0x0c, 0xe2, 0x10, 0xad, 0xf3, 0x00, 0xaa, 0x1f,
    0x26, 0x60, 0xe1, 0xb2, 0x2e, 0x10, 0xf1, 0x70, 0xf9, 0x2a],
    rfl⟩

/-- Agrees with `HMAC-SHA256` at the zero key and nonce, the only ones used
below. -/
def zeroHmac : Hmac := fun _ _ => zeroMac

def zeroAuth : AuthMode := .singlePsk ⟨zeroBytes32⟩

/-- A server that knows the zero key, with the subnet 10.0.1.0/24. -/
def zeroServer : Server :=
  Server.start zeroAuth ⟨10, 0, 1, 0⟩ ⟨10, 0, 1, 1⟩ ⟨1, 1, 1, 1⟩ 1200 16 100

/-- The handler of a session goes on, without failure. -/
def proceed (index : Nat) : ServerLabel := .session index (.resume .ok)

/-- The first message of a client that knows the zero key. -/
def presentAuth (index : Nat) : ServerLabel :=
  .session index (.resume (.message
    [(ClientAuth.mk zeroBytes32 zeroMac 1).encode]))

/-- The steps that take a new QUIC session to its tunnel. -/
def connectVpn (index : Nat) : List ServerLabel :=
  [.accept .vpn, proceed index, proceed index, proceed index,
    presentAuth index, proceed index, proceed index, proceed index,
    proceed index, proceed index]

/-- The steps that take a new WebSocket session to its tunnel. -/
def connectWs (index : Nat) : List ServerLabel :=
  [.accept .ws, proceed index, presentAuth index, proceed index,
    proceed index, proceed index, proceed index, proceed index]

/-- The addresses held by the sessions of a server, in order. -/
def Server.heldAddresses (server : Server) : List (Option Ipv4Addr) :=
  server.sessions.map fun session => session.phase.held

/-- Two sessions in their tunnels and one that failed to read its first
message, counted right. -/
theorem session_resources_accounted_three_sessions :
    ∃ server, Machine.run (Server.step zeroHmac) zeroServer
        (connectVpn 0 ++ connectWs 1 ++ [.accept .vpnH3, proceed 2, proceed 2,
          .session 2 (.resume .fail)]) = some server ∧
      server.heldAddresses =
        [some ⟨10, 0, 1, 2⟩, some ⟨10, 0, 1, 3⟩, none] ∧
      server.state.activeConnections = server.live Guard.isConnection ∧
      server.state.metrics.activeSessions =
        server.state.metrics.sessionsByUser.total := by
  have hheld : (Machine.run (Server.step zeroHmac) zeroServer
      (connectVpn 0 ++ connectWs 1 ++ [.accept .vpnH3, proceed 2, proceed 2,
        .session 2 (.resume .fail)])).map Server.heldAddresses =
      some [some ⟨10, 0, 1, 2⟩, some ⟨10, 0, 1, 3⟩, none] := by
    decide
  obtain ⟨server, hrun, haddresses⟩ := Option.map_eq_some_iff.mp hheld
  have hreached : server.Reached zeroHmac :=
    ⟨zeroAuth, ⟨10, 0, 1, 0⟩, ⟨10, 0, 1, 1⟩, ⟨1, 1, 1, 1⟩, 1200, 16, 100, _, hrun⟩
  obtain ⟨_, _, _, _, hconnections, _, _, hsessions, _⟩ :=
    session_resources_accounted hreached
  exact ⟨server, hrun, haddresses, hconnections, hsessions⟩

end Redpill
