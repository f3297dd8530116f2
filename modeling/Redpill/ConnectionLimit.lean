/-
The limit on connections.  The QUIC endpoint compares the counter with the
limit when a connection comes in; the handler counts the connection later, and
the handlers of TCP Reality and WebSocket count theirs without a comparison.
Between the two a connection is in flight.
-/
import Redpill.Accounting
import Redpill.Config

namespace Redpill

open Population

/-- How many connections a handler can still count from a phase on. -/
def Handler.toCount (handler : Handler) : Phase → Nat
  | .accepting => 1
  | .openingConnection => if handler.limited then 1 else 2
  | .acceptingBi => if handler.limited then 0 else 1
  | .readingAuth => if handler.limited then 0 else 1
  | .verifying _ => if handler.limited then 0 else 1
  | .openingSession _ => if handler.limited then 0 else 1
  | .allocating _ => if handler.limited then 0 else 1
  | .registering _ _ => if handler = .ws then 1 else 0
  | .sendingConfig _ _ => if handler.limited then 0 else 1
  | .countingConnection _ _ => 1
  | _ => 0

def Session.toCount (session : Session) : Nat :=
  session.handler.toCount session.phase

/-- The connections that are accepted and not counted yet. -/
def Server.inFlight (server : Server) : Int :=
  total (fun session => (session.toCount : Int)) server.sessions

section Phases

variable (handler : Handler) (username : String) (clientIp : Ipv4Addr)

theorem Handler.toCount_afterAccept :
    handler.toCount handler.afterAccept ≤ 1 := by
  cases handler <;> decide

theorem Handler.toCount_afterOpenConnection :
    handler.toCount handler.afterOpenConnection + 1 ≤
      handler.toCount .openingConnection := by
  cases handler <;> decide

theorem Handler.toCount_reject : handler.toCount handler.reject = 0 := by
  cases handler <;> rfl

theorem Handler.toCount_afterVerify (auth : ClientAuth) :
    handler.toCount (handler.afterVerify username) ≤
      handler.toCount (.verifying auth) := by
  cases handler <;> simp [toCount, afterVerify, limited]

theorem Handler.toCount_afterAllocate :
    handler.toCount (handler.afterAllocate username clientIp) ≤
      handler.toCount (.allocating username) := by
  cases handler <;> simp [toCount, afterAllocate, limited]

theorem Handler.toCount_afterRegister :
    handler.toCount (handler.afterRegister username clientIp) ≤
      handler.toCount (.registering username clientIp) := by
  cases handler <;> simp [toCount, afterRegister, limited]

theorem Handler.toCount_afterSendConfig :
    handler.toCount (handler.afterSendConfig username clientIp) ≤
      handler.toCount (.sendingConfig username clientIp) := by
  cases handler <;> simp [toCount, afterSendConfig, limited]

theorem Handler.toCount_afterCountSession :
    handler.toCount (handler.afterCountSession username clientIp) = 0 := by
  cases handler <;> simp [toCount, afterCountSession]

end Phases

theorem ServerState.dropGuard_connections_le (state : ServerState)
    (guard : Guard) :
    (state.dropGuard guard).activeConnections ≤ state.activeConnections := by
  cases guard <;> simp [ServerState.dropGuard]

theorem Session.verify_connections (hmac : Hmac) (state : ServerState)
    (session : Session) (auth : ClientAuth) :
    (session.verify hmac state auth).2.activeConnections =
      state.activeConnections :=
  congrArg Resources.activeConnections
    (session.verify_resources hmac state auth)

section Moves

variable {state moved : ServerState} {session next : Session} {before : Phase}

theorem toCount_le_of_move (opened : Nat) (hphase : session.phase = before)
    (hhandler : next.handler = session.handler)
    (hconnections : moved.activeConnections ≤
      state.activeConnections + opened)
    (hcount : session.handler.toCount next.phase + opened ≤
      session.handler.toCount before) :
    moved.activeConnections + next.toCount ≤
      state.activeConnections + session.toCount := by
  rw [Session.toCount, Session.toCount, hhandler, hphase]
  omega

/-- A move that counts nothing. -/
theorem toCount_le_of_keep (hphase : session.phase = before)
    (hhandler : next.handler = session.handler)
    (hconnections : moved.activeConnections = state.activeConnections)
    (hcount : session.handler.toCount next.phase ≤
      session.handler.toCount before) :
    moved.activeConnections + next.toCount ≤
      state.activeConnections + session.toCount :=
  toCount_le_of_move 0 hphase hhandler (by simp [hconnections]) hcount

/-- A move to a phase from which nothing is counted. -/
theorem toCount_le_of_zero (hhandler : next.handler = session.handler)
    (hconnections : moved.activeConnections = state.activeConnections)
    (hcount : session.handler.toCount next.phase = 0) :
    moved.activeConnections + next.toCount ≤
      state.activeConnections + session.toCount :=
  toCount_le_of_keep rfl hhandler hconnections (by simp [hcount])

end Moves

/-- No step of a handler raises the sum of the counted connections and those it
can still count. -/
theorem Session.resume_toCount {hmac : Hmac} {state : ServerState}
    {session : Session} {outcome : Outcome} {next : ServerState × Session}
    (h : session.resume hmac state outcome = some next) :
    next.1.activeConnections + next.2.toCount ≤
      state.activeConnections + session.toCount := by
  have hreject := session.handler.toCount_reject
  cases Session.resumes h with
  | accept hphase =>
      exact toCount_le_of_keep hphase rfl rfl
        session.handler.toCount_afterAccept
  | openConnection hphase =>
      exact toCount_le_of_move 1 hphase rfl (le_refl _)
        session.handler.toCount_afterOpenConnection
  | acceptBi hphase | read _ _ _ hphase _ | openSession _ hphase =>
      exact toCount_le_of_keep hphase rfl rfl (le_refl _)
  | readFailed hphase | unreadable _ hphase _ =>
      exact toCount_le_of_zero rfl rfl hreject
  | refused auth hphase _ =>
      have hconnections := session.verify_connections hmac state auth
      exact toCount_le_of_zero rfl hconnections hreject
  | verified auth username hphase _ =>
      have hconnections := session.verify_connections hmac state auth
      exact toCount_le_of_keep hphase rfl hconnections
        (session.handler.toCount_afterVerify username auth)
  | allocate username clientIp pool hphase _ =>
      exact toCount_le_of_keep hphase rfl rfl
        (session.handler.toCount_afterAllocate username clientIp)
  | register username clientIp hphase =>
      exact toCount_le_of_keep hphase rfl rfl
        (session.handler.toCount_afterRegister username clientIp)
  | sendConfig username clientIp hphase =>
      exact toCount_le_of_keep hphase rfl rfl
        (session.handler.toCount_afterSendConfig username clientIp)
  | countConnection username clientIp hphase =>
      exact toCount_le_of_move 1 hphase rfl (le_refl _) (le_refl _)
  | countSession username clientIp _ =>
      exact toCount_le_of_zero rfl rfl
        (session.handler.toCount_afterCountSession username clientIp)
  | drop guard rest hphase _ =>
      have hdrop := state.dropGuard_connections_le guard
      exact toCount_le_of_move 0 hphase rfl (by simpa using hdrop)
        (le_of_eq (congrArg session.handler.toCount hphase))
  | _ => exact toCount_le_of_zero rfl rfl rfl

theorem Session.step_toCount {hmac : Hmac} {index : Nat} {state : ServerState}
    {session : Session} {event : SessionEvent} {next : ServerState × Session}
    (h : session.step hmac index state event = some next) :
    next.1.activeConnections + next.2.toCount ≤
      state.activeConnections + session.toCount := by
  rcases Session.step_frame h with ⟨outcome, hresume⟩ | ⟨_, _, _, rfl⟩ |
    ⟨_, _, _, _, _, _, _, _, rfl⟩
  · exact Session.resume_toCount hresume
  · exact toCount_le_of_zero rfl rfl rfl
  · exact le_refl _

/-- A reload that leaves the limit as it is. -/
def ServerLabel.KeepsLimit (limit : Nat) : ServerLabel → Prop
  | .reload _ maxConnections => maxConnections = limit
  | _ => True

/-- A connection is accepted below the limit, counted with those in flight.
The comparison of the QUIC endpoint is enough for that if none is. -/
def Server.AcceptsBelow (limit : Nat) (server : Server) : ServerLabel → Prop
  | .accept handler =>
      server.state.activeConnections + server.inFlight < limit ∨
        (handler.limited = true ∧ server.inFlight = 0)
  | _ => True

instance (limit : Nat) (server : Server) (label : ServerLabel) :
    Decidable (server.AcceptsBelow limit label) :=
  match label with
  | .accept _ => inferInstanceAs (Decidable (_ ∨ _))
  | .reload _ _ => isTrue trivial
  | .arrive _ => isTrue trivial
  | .readTun _ => isTrue trivial
  | .session _ _ => isTrue trivial

/-- The counted connections and those in flight are within the limit. -/
structure Server.WithinLimit (limit : Nat) (server : Server) : Prop where
  maxConnections : server.state.maxConnections = limit
  connections : server.state.activeConnections + server.inFlight ≤ limit

theorem Server.inFlight_nonneg (server : Server) : 0 ≤ server.inFlight :=
  total_nonneg _ (fun _ => Int.natCast_nonneg _) _

/-- An accepted connection is in flight at first. -/
theorem Server.inFlight_spawn (server : Server) (handler : Handler)
    (auth : AuthMode) :
    Server.inFlight { server with
      sessions := server.sessions ++ [Session.start handler auth] } =
        server.inFlight + 1 := by
  rw [Server.inFlight, total_append_singleton]
  rfl

/-- What one step does to the sum of the counted connections and those in
flight: it grows by one when a connection is accepted, and not otherwise. -/
theorem Server.step_connections {hmac : Hmac} {server next : Server}
    {label : ServerLabel} (hstep : server.step hmac label = some next) :
    next.state.activeConnections + next.inFlight ≤
        server.state.activeConnections + server.inFlight ∨
      ∃ handler, label = .accept handler ∧
        ¬ (handler.limited = true ∧ (server.state.maxConnections : Int) ≤
          server.state.activeConnections) ∧
        next.state.activeConnections + next.inFlight =
          server.state.activeConnections + server.inFlight + 1 := by
  cases label with
  | accept handler =>
      simp only [Server.step] at hstep
      split at hstep
      · obtain rfl := Option.some.inj hstep
        exact Or.inl (le_refl _)
      · rename_i hadmitted
        obtain rfl := Option.some.inj hstep
        refine Or.inr ⟨handler, rfl, hadmitted, ?_⟩
        rw [Server.inFlight_spawn]
        ring
  | reload auth maxConnections =>
      obtain rfl := Option.some.inj hstep
      exact Or.inl (le_refl _)
  | arrive bytes =>
      obtain rfl := Option.some.inj hstep
      exact Or.inl (le_refl _)
  | readTun now =>
      obtain ⟨state, hread, rfl⟩ := Option.map_eq_some_iff.mp hstep
      obtain ⟨_, _, _, _, hresources⟩ :=
        (ServerState.readTun_environment hread).packets_only
      have hconnections : state.activeConnections =
          server.state.activeConnections :=
        congrArg Resources.activeConnections hresources
      left
      rw [hconnections]
      exact le_refl _
  | session index event =>
      simp only [Server.step] at hstep
      split at hstep
      · cases hstep
      · rename_i session hsession
        obtain ⟨moved, hmoved, rfl⟩ := Option.map_eq_some_iff.mp hstep
        have hcount := Session.step_toCount hmoved
        have htotal := total_set
          (fun session : Session => (session.toCount : Int)) hsession moved.2
        left
        simp only [Server.inFlight, htotal]
        omega

/-- A step that accepts below the limit keeps the server within it. -/
theorem Server.WithinLimit.step {hmac : Hmac} {limit : Nat}
    {server next : Server} {label : ServerLabel}
    (h : server.WithinLimit limit) (hkeeps : label.KeepsLimit limit)
    (haccepts : server.AcceptsBelow limit label)
    (hstep : server.step hmac label = some next) : next.WithinLimit limit := by
  constructor
  · rcases (Server.step_configured hstep).2 with hsame |
      ⟨auth, maxConnections, rfl, hreload⟩
    · exact (congrArg Prod.snd hsame).trans h.maxConnections
    · exact (congrArg Prod.snd hreload).trans hkeeps
  · rcases Server.step_connections hstep with hle |
      ⟨handler, rfl, hadmitted, hone⟩
    · exact hle.trans h.connections
    · rw [h.maxConnections] at hadmitted
      rcases haccepts with hbelow | ⟨hlimited, hnone⟩
      · omega
      · have hcompared : ¬ (limit : Int) ≤ server.state.activeConnections :=
          fun hfull => hadmitted ⟨hlimited, hfull⟩
        omega

/-- In every run that accepts connections below the limit, whatever the
transports and the order of the handlers' steps, the counter stays within it. -/
theorem connection_limit (hmac : Hmac) (auth : AuthMode)
    (base serverIp dnsIp : Ipv4Addr) (mtu limit mbps : Nat)
    (schedule : List ServerLabel) (final : Server)
    (hkeeps : ∀ label ∈ schedule, label.KeepsLimit limit)
    (haccepts : Machine.Meets (Server.step hmac) (Server.AcceptsBelow limit)
      (Server.start auth base serverIp dnsIp mtu limit mbps) schedule)
    (hrun : Machine.run (Server.step hmac)
      (Server.start auth base serverIp dnsIp mtu limit mbps) schedule =
        some final) :
    final.state.activeConnections ≤ limit := by
  have hstart : (Server.start auth base serverIp dnsIp mtu limit
      mbps).WithinLimit limit := by
    constructor
    · rfl
    · exact Int.natCast_nonneg limit
  have hfinal : final.WithinLimit limit := by
    apply Machine.run_invariant_of_meets _ hstart
      (haccepts.and_labels hkeeps) hrun
    intro server label next hserver hlabel hstep
    exact hserver.step hlabel.2 hlabel.1 hstep
  have hflight := final.inFlight_nonneg
  have hconnections := hfinal.connections
  omega

/-- Three connections for a limit of one: one is counted, and two are refused.
-/
theorem connection_limit_refuses :
    ∃ final, Machine.run (Server.step zeroHmac)
        (Server.start zeroAuth ⟨10, 0, 1, 0⟩ ⟨10, 0, 1, 1⟩ ⟨1, 1, 1, 1⟩ 1200 1 0)
        [.accept .vpn, proceed 0, proceed 0, .accept .vpnH3, .accept .vpn] =
          some final ∧
      final.state.activeConnections ≤ (1 : Nat) := by
  refine ⟨_, rfl, ?_⟩
  apply connection_limit zeroHmac zeroAuth ⟨10, 0, 1, 0⟩ ⟨10, 0, 1, 1⟩
    ⟨1, 1, 1, 1⟩ 1200 1 0
    [.accept .vpn, proceed 0, proceed 0, .accept .vpnH3, .accept .vpn] _ _ _ rfl
  · simp [ServerLabel.KeepsLimit, proceed]
  · decide

/-- Two connections that come in before either is counted are both counted
under a limit of one. -/
theorem connection_limit_exceeded :
    ¬ ∀ (hmac : Hmac) (auth : AuthMode) (base serverIp dnsIp : Ipv4Addr)
        (mtu limit mbps : Nat) (schedule : List ServerLabel) (final : Server),
      0 < limit → (∀ label ∈ schedule, label.KeepsLimit limit) →
      Machine.run (Server.step hmac)
        (Server.start auth base serverIp dnsIp mtu limit mbps) schedule =
          some final →
      final.state.activeConnections ≤ limit := by
  intro hall
  have hlimit := hall zeroHmac zeroAuth ⟨10, 0, 1, 0⟩ ⟨10, 0, 1, 1⟩
    ⟨1, 1, 1, 1⟩ 1200 1 0
    [.accept .vpn, .accept .vpn, proceed 0, proceed 0, proceed 1, proceed 1] _
    (by decide) (by simp [ServerLabel.KeepsLimit, proceed]) rfl
  revert hlimit
  decide

end Redpill
