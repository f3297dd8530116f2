/-
Route integrity under address reuse.  A handler releases its address before it
drops its client handle, and the drop removes the route by address.  If the
address has been leased and registered again in between, the drop removes the
route of the new session; along a run the routes stay with their sessions
exactly as long as no handle is dropped that late.
-/
import Redpill.Accounting

namespace Redpill

def Guard.isClientHandle : Guard → Bool
  | .clientHandle _ => true
  | _ => false

/-- The session has registered with the router and not yet dropped its
handle. -/
def Session.Registered (session : Session) : Prop :=
  session.guards.any Guard.isClientHandle = true

instance (session : Session) : Decidable session.Registered :=
  inferInstanceAs (Decidable (_ = true))

/-- Every session that has registered and not yet released its address is
reached through the route of that address: it leads to the session's own
queue. -/
def Server.RoutesOwn (server : Server) : Prop :=
  ∀ session ∈ server.sessions, ∀ ip ∈ session.phase.held,
    session.Registered →
    session.queue.isSome ∧ server.state.router.routes ip = session.queue

instance (server : Server) : Decidable server.RoutesOwn :=
  inferInstanceAs (Decidable (∀ session ∈ server.sessions, _))

/-- The address whose client handle a step drops. -/
def Server.droppedHandle (server : Server) : ServerLabel → Option Ipv4Addr
  | .session index (.resume .ok) =>
      match server.sessions[index]? with
      | some session =>
          match session.phase, session.guards with
          | .returning, .clientHandle clientIp :: _ => some clientIp
          | _, _ => none
      | none => none
  | _ => none

/-- A client handle is not dropped while another session has registered its
address and not yet released it. -/
def Server.HandleDropSafe (server : Server) (label : ServerLabel) : Prop :=
  ∀ ip ∈ server.droppedHandle label, ∀ session ∈ server.sessions,
    session.phase.held = some ip → ¬ session.Registered

instance (server : Server) (label : ServerLabel) :
    Decidable (server.HandleDropSafe label) :=
  inferInstanceAs (Decidable (∀ ip ∈ server.droppedHandle label, _))

/-- Nothing is registered before the allocation of an address. -/
def Server.EarlyUnregistered (server : Server) : Prop :=
  ∀ session ∈ server.sessions, session.phase.early = true →
    ¬ session.Registered

theorem Session.Registered.of_cons {guard : Guard} {guards : List Guard}
    (h : (guard :: guards).any Guard.isClientHandle = true)
    (hguard : guard.isClientHandle = false) :
    guards.any Guard.isClientHandle = true := by
  rwa [List.any_cons, hguard, Bool.false_or] at h

section Moves

variable {index : Nat} {state : ServerState} {session : Session}
  {event : SessionEvent} {resources : Resources} {holdings : Holdings}

/-- Only a registration adds a handle. -/
theorem ResourceStep.registered_of_early
    (h : ResourceStep index state session event resources holdings)
    (hearly : session.phase.early = true)
    (hregistered : holdings.guards.any Guard.isClientHandle = true) :
    session.Registered := by
  cases h with
  | keep => exact hregistered
  | openConnection => exact Session.Registered.of_cons hregistered rfl
  | openSession username => exact Session.Registered.of_cons hregistered rfl
  | allocate clientIp pool hpool hearly => exact hregistered
  | release clientIp hheld => exact hregistered
  | register clientIp buffer hheld =>
      rw [early_held hearly] at hheld
      cases hheld
  | drop guard rest hevent hphase hguards =>
      rw [hphase] at hearly
      cases hearly
  | forward id now hqueue => exact hregistered
  | readTun packet rest htun hevent hhandler hforwarding => exact hregistered

/-- After a move that keeps its own route safe, the session is still reached
through the route of its address. -/
theorem ResourceStep.own_route
    (h : ResourceStep index state session event resources holdings)
    (hearly : session.phase.early = true → ¬ session.Registered)
    (hown : ∀ ip ∈ session.phase.held, session.Registered →
      session.queue.isSome ∧ state.router.routes ip = session.queue)
    {ip : Ipv4Addr} (hheld : holdings.held = some ip)
    (hregistered : holdings.guards.any Guard.isClientHandle = true) :
    holdings.queue.isSome ∧ resources.router.routes ip = holdings.queue := by
  cases h with
  | keep => exact hown ip hheld hregistered
  | openConnection =>
      exact hown ip hheld (Session.Registered.of_cons hregistered rfl)
  | openSession username =>
      exact hown ip hheld (Session.Registered.of_cons hregistered rfl)
  | allocate clientIp pool hpool hphase =>
      exact absurd hregistered (hearly hphase)
  | release clientIp hclientIp => cases hheld
  | register clientIp buffer hclientIp =>
      have hsame : ip = clientIp :=
        Option.some.inj (hheld.symm.trans hclientIp)
      rw [hsame]
      exact ⟨rfl, state.router.register_routes_self clientIp buffer⟩
  | drop guard rest hevent hphase hguards =>
      have hnone : session.phase.held = none := by
        rw [hphase]
        rfl
      exact absurd (hheld.symm.trans hnone) nofun
  | forward id now hqueue =>
      have hroutes := congrFun (state.router.tryPop_routes id now) ip
      obtain ⟨hsome, hroute⟩ := hown ip hheld hregistered
      exact ⟨hsome, hroutes.trans hroute⟩
  | readTun packet rest htun hevent hhandler hforwarding =>
      exact hown ip hheld hregistered

/-- A move leaves the route of every other address alone, unless it registers
or drops a handle there. -/
theorem ResourceStep.other_route
    (h : ResourceStep index state session event resources holdings) {ip : Ipv4Addr}
    (hheld : session.phase.held ≠ some ip)
    (hdrop : ∀ clientIp rest, event = .resume .ok →
      session.phase = .returning →
      session.guards = .clientHandle clientIp :: rest → clientIp ≠ ip) :
    resources.router.routes ip = state.router.routes ip := by
  cases h with
  | keep => rfl
  | openConnection => rfl
  | openSession username => rfl
  | allocate clientIp pool hpool hearly => rfl
  | release clientIp hclientIp => rfl
  | register clientIp buffer hclientIp =>
      have hne : ip ≠ clientIp := by
        intro heq
        exact hheld (heq ▸ hclientIp)
      exact ClientRouter.register_routes_of_ne buffer hne
  | drop guard rest hevent hphase hguards =>
      cases guard with
      | connection => rfl
      | session username => rfl
      | clientHandle clientIp =>
          apply ClientRouter.unregister_routes_of_ne
          exact (hdrop clientIp rest hevent hphase hguards).symm
  | forward id now hqueue =>
      exact congrFun (state.router.tryPop_routes id now) ip
  | readTun packet rest htun hevent hhandler hforwarding => rfl

end Moves

theorem Server.droppedHandle_of_returning {server : Server} {index : Nat}
    {session : Session} {clientIp : Ipv4Addr} {rest : List Guard}
    (hsession : server.sessions[index]? = some session)
    (hphase : session.phase = .returning)
    (hguards : session.guards = .clientHandle clientIp :: rest) :
    server.droppedHandle (.session index (.resume .ok)) = some clientIp := by
  simp [Server.droppedHandle, hsession, hphase, hguards]

/-- A step that drops a handle removes the route and touches no other
session. -/
theorem Server.step_of_droppedHandle {hmac : Hmac} {server next : Server}
    {label : ServerLabel} {ip : Ipv4Addr}
    (hdrop : server.droppedHandle label = some ip)
    (hstep : server.step hmac label = some next) :
    next.state.router.routes ip = none ∧
      ∀ session ∈ server.sessions, session.phase.held = some ip →
        session ∈ next.sessions := by
  unfold Server.droppedHandle at hdrop
  split at hdrop
  · rename_i index
    split at hdrop
    · rename_i session hsession
      split at hdrop
      · rename_i rest hphase hguards
        obtain rfl := Option.some.inj hdrop
        simp only [Server.step, hsession, Session.step, Session.resume, hphase,
          hguards, Option.map_some, Option.some.injEq] at hstep
        subst hstep
        refine ⟨ClientRouter.unregister_routes_self _ _, ?_⟩
        intro other hother hheld
        obtain ⟨j, hj⟩ := List.mem_iff_getElem?.mp hother
        have hne : j ≠ index := by
          intro heq
          rw [heq, hsession, Option.some.injEq] at hj
          rw [← hj, hphase] at hheld
          cases hheld
        exact List.mem_of_getElem? (Population.getElem?_set_of_ne hne hj)
      · cases hdrop
    · cases hdrop
  · cases hdrop

theorem Server.EarlyUnregistered.step {hmac : Hmac} {server next : Server}
    {label : ServerLabel} (h : server.EarlyUnregistered)
    (hstep : server.step hmac label = some next) : next.EarlyUnregistered := by
  rcases Server.step_cases hstep with ⟨_, hsessions⟩ | ⟨handler, rfl⟩ |
    ⟨index, event, session, moved, _, hsession, hmoved, rfl⟩
  · intro session hsession
    rw [hsessions] at hsession
    exact h session hsession
  · intro session hsession
    rcases List.mem_append.mp hsession with hold | hnew
    · exact h session hold
    · rw [List.mem_singleton.mp hnew]
      intro _ hregistered
      cases hregistered
  · have hmove := Session.step_move hmoved
    intro other hother hearly
    rcases List.mem_or_eq_of_mem_set hother with hold | rfl
    · exact h other hold hearly
    · intro hregistered
      have hbefore := hmove.early hearly
      exact h session (List.mem_of_getElem? hsession) hbefore
        (hmove.resources.registered_of_early hbefore hregistered)

/-- A safe step keeps the routes with their sessions. -/
theorem Server.RoutesOwn.step {hmac : Hmac} {server next : Server}
    {label : ServerLabel} (h : server.RoutesOwn) (haccounted : server.Accounted)
    (hearly : server.EarlyUnregistered) (hsafe : server.HandleDropSafe label)
    (hstep : server.step hmac label = some next) : next.RoutesOwn := by
  rcases Server.step_cases hstep with ⟨henvironment, hsessions⟩ |
    ⟨handler, rfl⟩ | ⟨index, event, session, moved, rfl, hsession, hmoved, rfl⟩
  · intro session hsession ip hheld hregistered
    rw [hsessions] at hsession
    obtain ⟨router, tun, nextId, hroutes, hresources⟩ :=
      henvironment.packets_only
    have hrouter : next.state.router = router :=
      congrArg Resources.router hresources
    rw [hrouter, hroutes]
    exact h session hsession ip hheld hregistered
  · intro session hsession ip hheld hregistered
    rcases List.mem_append.mp hsession with hold | hnew
    · exact h session hold ip hheld hregistered
    · rw [List.mem_singleton.mp hnew] at hheld
      cases hheld
  · have hmove := (Session.step_move hmoved).resources
    have hmem := List.mem_of_getElem? hsession
    intro other hother ip hheld hregistered
    obtain ⟨j, hj⟩ := List.mem_iff_getElem?.mp hother
    rcases Population.getElem?_set_cases hsession hj with ⟨_, rfl⟩ | ⟨hne, hj⟩
    · exact hmove.own_route (hearly session hmem) (h session hmem) hheld
        hregistered
    · have hotherMem := List.mem_of_getElem? hj
      obtain ⟨hqueue, hroute⟩ := h other hotherMem ip hheld hregistered
      refine ⟨hqueue, ?_⟩
      rw [← hroute]
      apply hmove.other_route
      · intro hsame
        apply hne
        apply haccounted.owned.distinct hj hsession (r := ip.d)
        · rw [Session.heldHost, hheld]
          rfl
        · rw [Session.heldHost, hsame]
          rfl
      · intro clientIp rest hevent hphase hguards heq
        subst hevent
        have hdropped := Server.droppedHandle_of_returning hsession hphase hguards
        exact hsafe clientIp hdropped other hotherMem (heq ▸ hheld) hregistered

/-- One step keeps the routes with their sessions exactly if it is safe. -/
theorem Server.routesOwn_step_iff {hmac : Hmac} {server next : Server}
    {label : ServerLabel} (haccounted : server.Accounted)
    (hearly : server.EarlyUnregistered) (h : server.RoutesOwn)
    (hstep : server.step hmac label = some next) :
    next.RoutesOwn ↔ server.HandleDropSafe label := by
  constructor
  · intro hnext ip hdrop session hsession hheld hregistered
    obtain ⟨hroute, hkept⟩ := Server.step_of_droppedHandle hdrop hstep
    obtain ⟨hqueue, hown⟩ :=
      hnext session (hkept session hsession hheld) ip hheld hregistered
    rw [← hown, hroute] at hqueue
    cases hqueue
  · intro hsafe
    exact h.step haccounted hearly hsafe hstep

/-- Route integrity along a run: the routes stay with their sessions in every
state of the run exactly if no step of it drops a client handle whose address
is registered by another live session. -/
theorem route_integrity_iff {hmac : Hmac} (auth : AuthMode)
    (base serverIp dnsIp : Ipv4Addr) (mtu maxConnections mbps : Nat)
    {schedule : List ServerLabel} {final : Server}
    (hrun : Machine.run (Server.step hmac)
      (Server.start auth base serverIp dnsIp mtu maxConnections mbps) schedule =
        some final) :
    Machine.Always (Server.step hmac) Server.RoutesOwn
        (Server.start auth base serverIp dnsIp mtu maxConnections mbps)
        schedule ↔
      Machine.Meets (Server.step hmac) Server.HandleDropSafe
        (Server.start auth base serverIp dnsIp mtu maxConnections mbps)
        schedule := by
  apply Machine.always_iff_meets
    (fun server => server.Accounted ∧ server.EarlyUnregistered) _ _ _ _ hrun
  · intro state label next hinv hstep
    exact ⟨hinv.1.step hstep, hinv.2.step hstep⟩
  · intro state label next hinv hroutes hstep
    exact Server.routesOwn_step_iff hinv.1 hinv.2 hroutes hstep
  · refine ⟨Server.Accounted.start auth base serverIp dnsIp mtu maxConnections
      mbps, ?_⟩
    intro session hsession
    cases hsession
  · intro session hsession
    cases hsession

/-- The steps of a QUIC session from its tunnel to its return: release, three
drops and the end. -/
def disconnectVpn (index : Nat) : List ServerLabel :=
  [.session index (.resume .fail), proceed index, proceed index, proceed index,
    proceed index, proceed index]

/-- An address that is leased again after its last handle is gone keeps its
route. -/
theorem route_integrity_iff_sequential_reuse :
    Machine.Always (Server.step zeroHmac) Server.RoutesOwn zeroServer
      (connectVpn 0 ++ disconnectVpn 0 ++ connectVpn 1) := by
  have hmeets : Machine.Meets (Server.step zeroHmac) Server.HandleDropSafe
      zeroServer (connectVpn 0 ++ disconnectVpn 0 ++ connectVpn 1) := by
    decide
  have hdone : (Machine.run (Server.step zeroHmac) zeroServer
      (connectVpn 0 ++ disconnectVpn 0 ++ connectVpn 1)).isSome = true := by
    decide
  obtain ⟨final, hrun⟩ := Option.isSome_iff_exists.mp hdone
  exact (route_integrity_iff zeroAuth ⟨10, 0, 1, 0⟩ ⟨10, 0, 1, 1⟩ ⟨1, 1, 1, 1⟩
    1200 16 100 hrun).mpr hmeets

/-- Session 1 waits for an address while session 0 ends.  Once session 0 has
released its address, session 1 leases it, registers and starts its tunnel;
only then does session 0 drop its handle. -/
def lateDrop : List ServerLabel :=
  connectVpn 0 ++ (connectVpn 1).take 7 ++
    [.session 0 (.resume .fail), proceed 0] ++ (connectVpn 1).drop 7 ++
    [proceed 0]

/-- After the late drop session 1 is in its tunnel without a route. -/
theorem late_handle_drop_removes_route :
    ∃ server, Machine.run (Server.step zeroHmac) zeroServer lateDrop =
        some server ∧
      server.heldAddresses = [none, some ⟨10, 0, 1, 2⟩] ∧
      ¬ server.RoutesOwn := by
  have hlost : (Machine.run (Server.step zeroHmac) zeroServer lateDrop).map
      (fun server => (server.heldAddresses, decide server.RoutesOwn)) =
      some ([none, some ⟨10, 0, 1, 2⟩], false) := by
    decide
  obtain ⟨server, hrun, hserver⟩ := Option.map_eq_some_iff.mp hlost
  obtain ⟨hheld, hroutes⟩ := Prod.mk.inj hserver
  exact ⟨server, hrun, hheld, of_decide_eq_false hroutes⟩

end Redpill
