/-
The subnet of the server and the addresses of its clients.  `main` cuts the last
octet of the TUN address off to get the base of the pool, and the pool hands out
hosts 2 to 254 of it, whatever the length of the configured prefix.
-/
import Redpill.Accounting
import Redpill.Config

namespace Redpill

/-- An address as a number of 32 bits. -/
def Ipv4Addr.toNat (ip : Ipv4Addr) : Nat :=
  ((ip.a.toNat * 256 + ip.b.toNat) * 256 + ip.c.toNat) * 256 + ip.d.toNat

/-- How many addresses share a prefix. -/
def subnetSize (prefixLen : Nat) : Nat := 2 ^ (32 - prefixLen)

/-- The lowest address of the subnet that an address lies in. -/
def Ipv4Addr.network (ip : Ipv4Addr) (prefixLen : Nat) : Nat :=
  ip.toNat / subnetSize prefixLen * subnetSize prefixLen

/-- The highest address of the subnet that an address lies in. -/
def Ipv4Addr.broadcast (ip : Ipv4Addr) (prefixLen : Nat) : Nat :=
  ip.network prefixLen + (subnetSize prefixLen - 1)

/-- An address that a client of the server can use. -/
structure Usable (serverIp : Ipv4Addr) (prefixLen : Nat) (ip : Ipv4Addr) :
    Prop where
  notServer : ip ≠ serverIp
  inSubnet : ip.network prefixLen = serverIp.network prefixLen
  notNetwork : ip.toNat ≠ serverIp.network prefixLen
  notBroadcast : ip.toNat ≠ serverIp.broadcast prefixLen

/-- The addresses of the /24 of an address. -/
def Ipv4Addr.withHost (ip : Ipv4Addr) (host : UInt8) : Ipv4Addr :=
  { ip with d := host }

theorem subnetSize_pos (prefixLen : Nat) : 0 < subnetSize prefixLen :=
  Nat.two_pow_pos _

/-- A prefix of at most 24 bits covers whole blocks of 256 addresses. -/
theorem subnetSize_of_le {prefixLen : Nat} (h : prefixLen ≤ 24) :
    subnetSize prefixLen = 256 * 2 ^ (24 - prefixLen) := by
  have hexponent : 32 - prefixLen = 8 + (24 - prefixLen) := by omega
  rw [subnetSize, hexponent, Nat.pow_add]

/-- A longer prefix covers a part of half a block. -/
theorem subnetSize_of_gt {prefixLen : Nat} (h : 24 < prefixLen) :
    ∃ parts, 128 = subnetSize prefixLen * parts := by
  refine ⟨2 ^ (7 - (32 - prefixLen)), ?_⟩
  have hexponent : 32 - prefixLen + (7 - (32 - prefixLen)) = 7 := by omega
  rw [subnetSize, ← Nat.pow_add, hexponent]

theorem Ipv4Addr.toNat_withHost (ip : Ipv4Addr) (host : UInt8) :
    ∃ block, ip.toNat = block * 256 + ip.d.toNat ∧
      (ip.withHost host).toNat = block * 256 + host.toNat :=
  ⟨(ip.a.toNat * 256 + ip.b.toNat) * 256 + ip.c.toNat, rfl, rfl⟩

/-- Under a prefix of at most 24 bits a host of the pool is usable unless it is
the server itself. -/
theorem usable_of_le {serverIp : Ipv4Addr} {prefixLen : Nat} {host : UInt8}
    (hbits : prefixLen ≤ 24) (hlow : 2 ≤ host) (hhigh : host ≤ 254)
    (hserver : serverIp.d ≠ host) :
    Usable serverIp prefixLen (serverIp.withHost host) := by
  obtain ⟨block, hserverNat, hhostNat⟩ := serverIp.toNat_withHost host
  have hd := serverIp.d.toNat_lt
  have hhost := host.toNat_lt
  rw [UInt8.le_iff_toNat_le] at hlow hhigh
  have hlow' : 2 ≤ host.toNat := hlow
  have hhigh' : host.toNat ≤ 254 := hhigh
  have hblock {n : Nat} (hn : n < 256) :
      (block * 256 + n) / subnetSize prefixLen =
        block / 2 ^ (24 - prefixLen) := by
    rw [subnetSize_of_le hbits, ← Nat.div_div_eq_div_mul]
    congr 1
    omega
  have hnetwork : serverIp.network prefixLen =
      256 * (block / 2 ^ (24 - prefixLen) * 2 ^ (24 - prefixLen)) := by
    rw [Ipv4Addr.network, hserverNat, hblock hd, subnetSize_of_le hbits]
    exact Nat.mul_left_comm _ _ _
  have hsize := subnetSize_of_le hbits
  have hparts := Nat.two_pow_pos (24 - prefixLen)
  constructor
  · intro heq
    exact hserver (congrArg Ipv4Addr.d heq).symm
  · rw [Ipv4Addr.network, Ipv4Addr.network, hserverNat, hhostNat, hblock hd,
      hblock hhost]
  · rw [hnetwork, hhostNat]
    omega
  · rw [Ipv4Addr.broadcast, hnetwork, hhostNat]
    omega

/-- Under a longer prefix some host of the pool lies outside the subnet. -/
theorem exists_outside {serverIp : Ipv4Addr} {prefixLen : Nat}
    (hbits : 24 < prefixLen) :
    ∃ host : UInt8, 2 ≤ host ∧ host ≤ 254 ∧
      (serverIp.withHost host).network prefixLen ≠
        serverIp.network prefixLen := by
  obtain ⟨parts, hparts⟩ := subnetSize_of_gt hbits
  have houtside (host : UInt8)
      (hhalf : host.toNat / 128 ≠ serverIp.d.toNat / 128) :
      (serverIp.withHost host).network prefixLen ≠
        serverIp.network prefixLen := by
    obtain ⟨block, hserverNat, hhostNat⟩ := serverIp.toNat_withHost host
    intro heq
    have hdiv := Nat.eq_of_mul_eq_mul_right (subnetSize_pos prefixLen) heq
    have hhalves : (serverIp.withHost host).toNat / 128 =
        serverIp.toNat / 128 := by
      rw [hparts, ← Nat.div_div_eq_div_mul, hdiv, Nat.div_div_eq_div_mul]
    rw [hserverNat, hhostNat] at hhalves
    omega
  have hd := serverIp.d.toNat_lt
  rcases Nat.lt_or_ge serverIp.d.toNat 128 with hsmall | hlarge
  · refine ⟨254, by decide, by decide, houtside 254 ?_⟩
    have h254 : (254 : UInt8).toNat = 254 := rfl
    omega
  · refine ⟨2, by decide, by decide, houtside 2 ?_⟩
    have h2 : (2 : UInt8).toNat = 2 := rfl
    omega

/-- Every address that was ever assigned is a host of the pool. -/
structure Server.AssignsFrom (serverIp : Ipv4Addr) (server : Server) :
    Prop where
  base : server.state.ipPool.base = (serverIp.a, serverIp.b, serverIp.c)
  assigned : ∀ session ∈ server.sessions, ∀ ip, session.assigned = some ip →
    ∃ host, 2 ≤ host ∧ host ≤ 254 ∧ ip = serverIp.withHost host

theorem address_withHost {pool : IpPool} {serverIp : Ipv4Addr}
    (hbase : pool.base = (serverIp.a, serverIp.b, serverIp.c))
    (host : UInt8) : pool.address host = serverIp.withHost host := by
  rw [IpPool.address, hbase]
  rfl

/-- A move assigns an address of the pool or none. -/
theorem ResourceStep.assigned_host {index : Nat} {state : ServerState}
    {session : Session} {event : SessionEvent} {resources : Resources}
    {holdings : Holdings}
    (h : ResourceStep index state session event resources holdings) :
    resources.ipPool.base = state.ipPool.base ∧
      ∀ ip, holdings.assigned = some ip → session.assigned = some ip ∨
        ∃ host, 2 ≤ host ∧ host ≤ 254 ∧ ip = state.ipPool.address host := by
  cases h with
  | allocate clientIp pool hpool hearly =>
      rcases state.ipPool.allocate_cases with ⟨hnone, _⟩ |
        ⟨host, next, hsome, hlow, hhigh, _, hbase, _⟩
      · rw [hnone] at hpool
        cases hpool
      · rw [hsome, Option.some.injEq, Prod.mk.injEq] at hpool
        obtain ⟨rfl, rfl⟩ := hpool
        refine ⟨hbase, ?_⟩
        intro ip hip
        obtain rfl := Option.some.inj hip
        exact Or.inr ⟨host, hlow, hhigh, rfl⟩
  | release clientIp hheld =>
      exact ⟨IpPool.release_base _ _, fun ip hip => Or.inl hip⟩
  | drop guard rest hevent hphase hguards =>
      refine ⟨?_, fun ip hip => Or.inl hip⟩
      cases guard <;> rfl
  | _ => exact ⟨rfl, fun ip hip => Or.inl hip⟩

theorem Server.AssignsFrom.step {hmac : Hmac} {server next : Server}
    {serverIp : Ipv4Addr} {label : ServerLabel}
    (h : server.AssignsFrom serverIp)
    (hstep : server.step hmac label = some next) :
    next.AssignsFrom serverIp := by
  rcases Server.step_cases hstep with ⟨henvironment, hsessions⟩ |
    ⟨handler, rfl⟩ | ⟨index, event, session, moved, _, hsession, hmoved, rfl⟩
  · obtain ⟨router, tun, nextId, _, hresources⟩ := henvironment.packets_only
    have hpool : next.state.ipPool = server.state.ipPool :=
      congrArg Resources.ipPool hresources
    constructor
    · rw [hpool]
      exact h.base
    · rw [hsessions]
      exact h.assigned
  · constructor
    · exact h.base
    · intro session hsession
      rcases List.mem_append.mp hsession with hold | hnew
      · exact h.assigned session hold
      · rw [List.mem_singleton.mp hnew]
        nofun
  · obtain ⟨hbase, hassigned⟩ := (Session.step_move hmoved).resources.assigned_host
    constructor
    · exact hbase.trans h.base
    · intro other hother ip hip
      rcases List.mem_or_eq_of_mem_set hother with hold | rfl
      · exact h.assigned other hold ip hip
      · rcases hassigned ip hip with hbefore | ⟨host, hlow, hhigh, rfl⟩
        · exact h.assigned session (List.mem_of_getElem? hsession) ip hbefore
        · exact ⟨host, hlow, hhigh, address_withHost h.base host⟩

theorem ServerConfig.startServer_assignsFrom {config : ServerConfig}
    {auth : AuthMode} {start : Server} {serverIp : Ipv4Addr}
    (hparse : parseIpv4Addr config.tunAddress = some serverIp)
    (h : config.startServer auth = some start) :
    start.AssignsFrom serverIp := by
  obtain ⟨parsed, hparsed, h⟩ := Option.bind_eq_some_iff.mp h
  obtain ⟨dnsIp, _, rfl⟩ := Option.map_eq_some_iff.mp h
  rw [hparse, Option.some.injEq] at hparsed
  subst hparsed
  exact ⟨rfl, by simp [Server.start]⟩

theorem ServerConfig.startServer_fresh {config : ServerConfig}
    {auth : AuthMode} {start : Server}
    (h : config.startServer auth = some start) :
    start.state.auth = auth ∧ start.state.ipPool.allocated = ∅ := by
  obtain ⟨parsed, _, h⟩ := Option.bind_eq_some_iff.mp h
  obtain ⟨dnsIp, _, rfl⟩ := Option.map_eq_some_iff.mp h
  exact ⟨rfl, rfl⟩

theorem host_outside_pool {host : UInt8} :
    ¬ (2 ≤ host ∧ host ≤ 254) ↔ host = 0 ∨ host = 1 ∨ host = 255 := by
  simp only [UInt8.le_iff_toNat_le, ← UInt8.toNat_inj]
  have hlt := host.toNat_lt
  change ¬ (2 ≤ host.toNat ∧ host.toNat ≤ 254) ↔
    host.toNat = 0 ∨ host.toNat = 1 ∨ host.toNat = 255
  omega

section Allocation

/-- A step of the session that came last. -/
theorem Server.step_last {hmac : Hmac} {state : ServerState}
    {sessions : List Session} {session : Session} {event : SessionEvent}
    {moved : ServerState × Session}
    (h : session.step hmac sessions.length state event = some moved) :
    Server.step hmac ⟨state, sessions ++ [session]⟩
      (.session sessions.length event) =
        some ⟨moved.1, sessions ++ [moved.2]⟩ := by
  simp [Server.step, h]

/-- The first message of a client that knows the zero key. -/
def zeroClientAuth : ClientAuth := ⟨zeroBytes32, zeroMac, 1⟩

/-- What a WebSocket session does up to its allocation. -/
theorem Session.ws_steps (index : Nat) (session : Session)
    {state : ServerState} {ip : Ipv4Addr} {pool : IpPool}
    (hhandler : session.handler = .ws) (hphase : session.phase = .accepting)
    (hauth : state.auth = zeroAuth)
    (hpool : state.ipPool.allocate = some (ip, pool)) :
    ∃ reading verifying allocating assigned,
      session.step zeroHmac index state (.resume .ok) =
        some (state, reading) ∧
      reading.step zeroHmac index state
        (.resume (.message [zeroClientAuth.encode])) =
          some (state, verifying) ∧
      verifying.step zeroHmac index state (.resume .ok) =
        some (state.countHandshake false, allocating) ∧
      allocating.step zeroHmac index (state.countHandshake false)
        (.resume .ok) =
          some ({ state.countHandshake false with ipPool := pool }, assigned) ∧
      assigned.assigned = some ip := by
  have hread : Handler.ws.readAuth [zeroClientAuth.encode] =
      some (zeroClientAuth, []) := by
    decide
  have hverify : zeroAuth.verify zeroHmac zeroClientAuth.nonce
      zeroClientAuth.mac = some "default" := by
    decide
  have hpool' : (state.countHandshake false).ipPool.allocate =
      some (ip, pool) := hpool
  refine ⟨session.goto .readingAuth,
    { session.goto (.verifying zeroClientAuth) with received := [] },
    { session.goto (.allocating "default") with received := [] },
    { session.goto (.sendingConfig "default" ip) with
      received := [], assigned := some ip }, ?_, ?_, ?_, ?_, rfl⟩
  · simp [Session.step, Session.resume, hphase, hhandler, Handler.afterAccept]
  · simp [Session.step, Session.resume, Session.goto, hhandler, hread,
      Phase.isTunnelling]
  · simp [Session.step, Session.resume, Session.goto, hhandler,
      Session.verify, hauth, hverify, Handler.afterVerify, Phase.isTunnelling]
  · simp [Session.step, Session.resume, Session.goto, hhandler, hpool',
      Handler.afterAllocate, Phase.isTunnelling]

/-- A new WebSocket client that knows the zero key is assigned the next address
of the pool. -/
theorem Server.ws_allocates {server : Server} {ip : Ipv4Addr} {pool : IpPool}
    (hauth : server.state.auth = zeroAuth)
    (hpool : server.state.ipPool.allocate = some (ip, pool)) :
    ∃ next, Machine.Reachable (Server.step zeroHmac) server next ∧
      next.state.auth = zeroAuth ∧ next.state.ipPool = pool ∧
      ∃ session ∈ next.sessions, session.assigned = some ip := by
  obtain ⟨reading, verifying, allocating, assigned, hreading, hverifying,
    hallocating, hassigned, hip⟩ := Session.ws_steps server.sessions.length
      (Session.start .ws server.state.auth) rfl rfl hauth hpool
  have haccept : server.step zeroHmac (.accept .ws) = some ⟨server.state,
      server.sessions ++ [Session.start .ws server.state.auth]⟩ := rfl
  have hreach := (Machine.Reachable.refl _ server).step haccept
  have hreach := hreach.step (Server.step_last hreading)
  have hreach := hreach.step (Server.step_last hverifying)
  have hreach := hreach.step (Server.step_last hallocating)
  have hreach := hreach.step (Server.step_last hassigned)
  refine ⟨_, hreach, hauth, rfl, assigned, ?_, hip⟩
  exact List.mem_append_right _ List.mem_cons_self

theorem allocated_card_le (pool : IpPool) : pool.allocated.card ≤ 253 := by
  have hsubset : pool.allocated ⊆ IpPool.hosts.toFinset := by
    intro host hhost
    exact List.mem_toFinset.mpr (IpPool.mem_hosts.mpr (pool.inRange host hhost))
  calc pool.allocated.card ≤ IpPool.hosts.toFinset.card :=
        Finset.card_le_card hsubset
    _ ≤ IpPool.hosts.length := List.toFinset_card_le _
    _ = 253 := by simp [IpPool.hosts]

theorem allocate_of_free {pool : IpPool} {host : UInt8} (hlow : 2 ≤ host)
    (hhigh : host ≤ 254) (hfree : host ∉ pool.allocated) :
    ∃ other next, pool.allocate = some (pool.address other, next) ∧
      next.base = pool.base ∧
      next.allocated = insert other pool.allocated ∧
      next.allocated.card = pool.allocated.card + 1 := by
  rcases pool.allocate_cases with ⟨_, hall⟩ |
    ⟨other, next, hsome, _, _, hother, hbase, hinsert⟩
  · exact absurd (hall host hlow hhigh) hfree
  · refine ⟨other, next, hsome, hbase, hinsert, ?_⟩
    rw [hinsert, Finset.card_insert_of_notMem hother]

/-- While a host is free, enough clients will get to it. -/
theorem Server.host_assigned {server : Server} {host : UInt8}
    (hauth : server.state.auth = zeroAuth) (hlow : 2 ≤ host)
    (hhigh : host ≤ 254) (hfree : host ∉ server.state.ipPool.allocated) :
    ∃ next, Machine.Reachable (Server.step zeroHmac) server next ∧
      ∃ session ∈ next.sessions,
        session.assigned = some (server.state.ipPool.address host) := by
  induction hleft : 253 - server.state.ipPool.allocated.card
    generalizing server with
  | zero =>
      obtain ⟨_, next, _, _, _, hcard⟩ := allocate_of_free hlow hhigh hfree
      have hbound := allocated_card_le next
      omega
  | succ left ih =>
      obtain ⟨other, pool, hpool, hbase, hinsert, hcard⟩ :=
        allocate_of_free hlow hhigh hfree
      obtain ⟨next, hnext, hnextAuth, hnextPool, hassigned⟩ :=
        Server.ws_allocates hauth hpool
      by_cases hother : host = other
      · subst hother
        exact ⟨next, hnext, hassigned⟩
      · have hnextFree : host ∉ next.state.ipPool.allocated := by
          rw [hnextPool, hinsert, Finset.mem_insert]
          rintro (heq | hmem)
          · exact hother heq
          · exact hfree hmem
        obtain ⟨final, hfinal, hsession⟩ := ih hnextAuth hnextFree (by
          rw [hnextPool]
          omega)
        rw [hnextPool, address_of_base hbase] at hsession
        exact ⟨final, hnext.trans hfinal, hsession⟩

/-- A server with any valid configuration assigns every host of its pool in
some run. -/
theorem ServerConfig.host_assigned {isSocketAddr : String → Bool}
    {config : ServerConfig} {serverIp : Ipv4Addr} {host : UInt8}
    (hvalid : config.validate isSocketAddr = .ok ())
    (hparse : parseIpv4Addr config.tunAddress = some serverIp)
    (hlow : 2 ≤ host) (hhigh : host ≤ 254) :
    ∃ start server, config.startServer zeroAuth = some start ∧
      Machine.Reachable (Server.step zeroHmac) start server ∧
      ∃ session ∈ server.sessions,
        session.assigned = some (serverIp.withHost host) := by
  obtain ⟨start, hstart⟩ := Option.isSome_iff_exists.mp
    (ServerConfig.startServer_isSome hvalid zeroAuth)
  have hbase := (ServerConfig.startServer_assignsFrom hparse hstart).base
  obtain ⟨hauth, hempty⟩ := ServerConfig.startServer_fresh hstart
  obtain ⟨server, hreach, hsession⟩ :=
    Server.host_assigned hauth hlow hhigh (by simp [hempty])
  rw [address_withHost hbase] at hsession
  exact ⟨start, server, hstart, hreach, hsession⟩

end Allocation

/-- For every configuration that validation accepts: the addresses assigned in
any run of the server are usable exactly if the prefix has at most 24 bits and
the host octet of the server is none of the pool's. -/
theorem assigned_addresses_usable (isSocketAddr : String → Bool)
    (config : ServerConfig) (serverIp : Ipv4Addr)
    (hvalid : config.validate isSocketAddr = .ok ())
    (hparse : parseIpv4Addr config.tunAddress = some serverIp) :
    (∀ (hmac : Hmac) (auth : AuthMode) (start server : Server),
      config.startServer auth = some start →
      Machine.Reachable (Server.step hmac) start server →
      ∀ session ∈ server.sessions, ∀ ip, session.assigned = some ip →
        Usable serverIp config.tunPrefixLen ip) ↔
    config.tunPrefixLen ≤ 24 ∧
      (serverIp.d = 0 ∨ serverIp.d = 1 ∨ serverIp.d = 255) := by
  constructor
  · intro hall
    have husable (host : UInt8) (hlow : 2 ≤ host) (hhigh : host ≤ 254) :
        Usable serverIp config.tunPrefixLen (serverIp.withHost host) := by
      obtain ⟨start, server, hstart, hreach, session, hsession, hip⟩ :=
        ServerConfig.host_assigned hvalid hparse hlow hhigh
      exact hall zeroHmac zeroAuth start server hstart hreach session hsession
        _ hip
    constructor
    · by_contra hlong
      obtain ⟨host, hlow, hhigh, houtside⟩ :=
        exists_outside (Nat.lt_of_not_le hlong)
      exact houtside (husable host hlow hhigh).inSubnet
    · apply host_outside_pool.mp
      intro ⟨hlow, hhigh⟩
      exact (husable serverIp.d hlow hhigh).notServer rfl
  · intro ⟨hbits, hhost⟩ hmac auth start server hstart hreach
    have hassigns : server.AssignsFrom serverIp := by
      apply Machine.Reachable.invariant _ _ hreach
      · intro server label next hserver hstep
        exact hserver.step hstep
      · exact ServerConfig.startServer_assignsFrom hparse hstart
    intro session hsession ip hip
    obtain ⟨host, hlow, hhigh, rfl⟩ := hassigns.assigned session hsession ip hip
    apply usable_of_le hbits hlow hhigh
    rintro rfl
    exact host_outside_pool.mpr hhost ⟨hlow, hhigh⟩

/-- With the default configuration every address is usable. -/
theorem assigned_addresses_usable_default :
    ServerConfig.default.validate isDefaultSocket = .ok () ∧
      ∀ (hmac : Hmac) (auth : AuthMode) (start server : Server),
        ServerConfig.default.startServer auth = some start →
        Machine.Reachable (Server.step hmac) start server →
        ∀ session ∈ server.sessions, ∀ ip, session.assigned = some ip →
          Usable ⟨10, 0, 1, 1⟩ 24 ip := by
  refine ⟨ServerConfig.validate_defaultSockets, ?_⟩
  exact (assigned_addresses_usable isDefaultSocket ServerConfig.default
    ⟨10, 0, 1, 1⟩ ServerConfig.validate_defaultSockets (by decide)).mpr
    (by decide)

/-- A server whose host octet is 2 gives its own address to its first
client. -/
theorem server_address_assigned :
    ¬ ∀ (isSocketAddr : String → Bool) (config : ServerConfig)
        (serverIp : Ipv4Addr), config.validate isSocketAddr = .ok () →
      parseIpv4Addr config.tunAddress = some serverIp →
      ∀ (hmac : Hmac) (auth : AuthMode) (start server : Server),
        config.startServer auth = some start →
        Machine.Reachable (Server.step hmac) start server →
        ∀ session ∈ server.sessions, ∀ ip, session.assigned = some ip →
          Usable serverIp config.tunPrefixLen ip := by
  intro hall
  have hvalid : ({ ServerConfig.default with tunAddress := "10.0.1.2" } :
      ServerConfig).validate isDefaultSocket = .ok () := by
    apply ServerConfig.validate_eq_ok.mpr
    exact ⟨by decide, by decide, by decide, by decide, by decide, by decide,
      by decide⟩
  have hparse : parseIpv4Addr "10.0.1.2" = some ⟨10, 0, 1, 2⟩ := by
    decide
  have hlow : (2 : UInt8) ≤ 2 := by decide
  obtain ⟨start, server, hstart, hreach, session, hsession, hip⟩ :=
    ServerConfig.host_assigned hvalid hparse hlow (by decide)
  exact (hall isDefaultSocket _ _ hvalid hparse zeroHmac zeroAuth start server
    hstart hreach session hsession _ hip).notServer rfl

end Redpill
