/-
What one step of a session does to its handshake.  A message is read once and
waits to be checked; a session is established only past the check, and what the
check looks at does not change.
-/
import Redpill.ServerSteps

namespace Redpill

/-- The message that waits to be checked. -/
def Phase.message : Phase → Option ClientAuth
  | .verifying auth => some auth
  | _ => none

/-- The handler has not read the first message yet. -/
def Phase.unread : Phase → Bool
  | .accepting => true
  | .openingConnection => true
  | .acceptingBi => true
  | .readingAuth => true
  | _ => false

/-- The phases from a check that was passed to the end of the tunnel. -/
def Phase.established : Phase → Bool
  | .openingSession _ => true
  | .allocating _ => true
  | .registering _ _ => true
  | .sendingConfig _ _ => true
  | .countingConnection _ _ => true
  | .countingSession _ _ => true
  | .tunnelling _ _ => true
  | _ => false

/-- The phases right after the check, if it was passed. -/
def Phase.passed : Phase → Bool
  | .openingSession _ => true
  | .allocating _ => true
  | _ => false

/-- What a step of a session does to its handshake: it reads the message once,
and passes the check only if the message is verified. -/
structure HandshakeMove (hmac : Hmac) (state : ServerState)
    (session next : Session) : Prop where
  handler : next.handler = session.handler
  snapshot : next.authSnapshot = session.authSnapshot
  unread : next.phase.unread = true → session.phase.unread = true
  read : ∀ auth, next.phase.message = some auth →
    session.phase.message = some auth ∨ session.phase.unread = true
  passed : ∀ auth, session.phase.message = some auth →
    next.phase.passed = true →
      ∃ username, (session.verify hmac state auth).1 = some username

/-- Nothing of the handshake is left to do. -/
def Phase.settled (phase : Phase) : Bool :=
  !phase.unread && phase.message.isNone

section Phases

variable (handler : Handler) (username : String) (clientIp : Ipv4Addr)

@[simp] theorem Handler.settled_reject : handler.reject.settled = true := by
  cases handler <;> rfl

@[simp] theorem Handler.settled_afterVerify :
    (handler.afterVerify username).settled = true := by
  cases handler <;> rfl

@[simp] theorem Handler.settled_afterAllocate :
    (handler.afterAllocate username clientIp).settled = true := by
  cases handler <;> rfl

@[simp] theorem Handler.settled_afterRegister :
    (handler.afterRegister username clientIp).settled = true := by
  cases handler <;> rfl

@[simp] theorem Handler.settled_afterSendConfig :
    (handler.afterSendConfig username clientIp).settled = true := by
  cases handler <;> rfl

@[simp] theorem Handler.settled_afterCountSession :
    (handler.afterCountSession username clientIp).settled = true := by
  cases handler <;> rfl

end Phases

theorem Handler.passed_reject (handler : Handler) :
    handler.reject.passed = false := by
  cases handler <;> rfl

@[simp] theorem Handler.passed_afterVerify (handler : Handler)
    (username : String) : (handler.afterVerify username).passed = true := by
  cases handler <;> rfl

@[simp] theorem Handler.established_afterAccept (handler : Handler) :
    handler.afterAccept.established = false := by
  cases handler <;> rfl

@[simp] theorem Handler.established_afterOpenConnection (handler : Handler) :
    handler.afterOpenConnection.established = false := by
  cases handler <;> rfl

@[simp] theorem Handler.established_reject (handler : Handler) :
    handler.reject.established = false := by
  cases handler <;> rfl

theorem Phase.message_of_unread {phase : Phase}
    (hunread : phase.unread = true) : phase.message = none := by
  cases phase with
  | verifying auth => cases hunread
  | _ => rfl

theorem Phase.message_of_passed {phase : Phase}
    (hpassed : phase.passed = true) : phase.message = none := by
  cases phase with
  | verifying auth => cases hpassed
  | _ => rfl

section Handshake

variable {hmac : Hmac} {state : ServerState} {session next : Session}

theorem HandshakeMove.same (hhandler : next.handler = session.handler)
    (hsnapshot : next.authSnapshot = session.authSnapshot)
    (hphase : next.phase = session.phase) :
    HandshakeMove hmac state session next := by
  refine ⟨hhandler, hsnapshot, ?_, ?_, ?_⟩
  · rw [hphase]
    exact id
  · rw [hphase]
    exact fun _ => Or.inl
  · rw [hphase]
    intro auth hmessage hpassed
    rw [Phase.message_of_passed hpassed] at hmessage
    cases hmessage

theorem Phase.settled_iff {phase : Phase} :
    phase.settled = true ↔ phase.unread = false ∧ phase.message = none := by
  simp [Phase.settled]

/-- A handler that goes on before it has read the message. -/
theorem HandshakeMove.of_unread (hhandler : next.handler = session.handler)
    (hsnapshot : next.authSnapshot = session.authSnapshot)
    (hunread : session.phase.unread = true) :
    HandshakeMove hmac state session next := by
  refine ⟨hhandler, hsnapshot, fun _ => hunread, fun _ _ => Or.inr hunread, ?_⟩
  intro auth hmessage
  rw [Phase.message_of_unread hunread] at hmessage
  cases hmessage

/-- A handler that goes on after the check. -/
theorem HandshakeMove.of_settled (hhandler : next.handler = session.handler)
    (hsnapshot : next.authSnapshot = session.authSnapshot)
    (hsession : session.phase.settled = true)
    (hnext : next.phase.settled = true) :
    HandshakeMove hmac state session next := by
  obtain ⟨_, hmessage⟩ := Phase.settled_iff.mp hsession
  obtain ⟨hread, hnone⟩ := Phase.settled_iff.mp hnext
  refine ⟨hhandler, hsnapshot, ?_, ?_, ?_⟩
  · intro hunread
    rw [hread] at hunread
    cases hunread
  · intro auth h
    rw [hnone] at h
    cases h
  · intro auth h
    rw [hmessage] at h
    cases h

theorem HandshakeMove.of_verifying {auth : ClientAuth}
    (hhandler : next.handler = session.handler)
    (hsnapshot : next.authSnapshot = session.authSnapshot)
    (hphase : session.phase = .verifying auth)
    (hnext : next.phase.settled = true)
    (hpassed : next.phase.passed = true →
      ∃ username, (session.verify hmac state auth).1 = some username) :
    HandshakeMove hmac state session next := by
  obtain ⟨hread, hnone⟩ := Phase.settled_iff.mp hnext
  refine ⟨hhandler, hsnapshot, ?_, ?_, ?_⟩
  · intro hunread
    rw [hread] at hunread
    cases hunread
  · intro other h
    rw [hnone] at h
    cases h
  · intro other hother
    rw [hphase, Phase.message, Option.some.injEq] at hother
    exact hother ▸ hpassed


/-- A handler that goes on keeps its transport and its snapshot. -/
theorem Session.resume_keeps {outcome : Outcome}
    {next : ServerState × Session}
    (h : session.resume hmac state outcome = some next) :
    next.2.handler = session.handler ∧
      next.2.authSnapshot = session.authSnapshot := by
  cases Session.resumes h <;> exact ⟨rfl, rfl⟩

/-- After the check the handshake is over. -/
theorem Session.resume_settled {outcome : Outcome}
    {next : ServerState × Session}
    (h : session.resume hmac state outcome = some next)
    (hunread : session.phase.unread = false) :
    next.2.phase.settled = true := by
  cases Session.resumes h with
  | accept hphase | openConnection hphase | acceptBi hphase
  | read _ _ _ hphase _ =>
      rw [hphase] at hunread
      cases hunread
  | drop guard rest hphase _ => exact congrArg Phase.settled hphase
  | _ => first | rfl | simp [Session.goto, Session.guarded]

/-- What the check decides. -/
theorem Session.resume_verifying {outcome : Outcome} {auth : ClientAuth}
    {next : ServerState × Session}
    (h : session.resume hmac state outcome = some next)
    (hphase : session.phase = .verifying auth)
    (hpassed : next.2.phase.passed = true) :
    ∃ username, (session.verify hmac state auth).1 = some username := by
  cases outcome with
  | ok =>
      simp only [Session.resume, hphase] at h
      split at h
      · obtain rfl := Option.some.inj h
        have hrejected := session.handler.passed_reject
        rw [show session.handler.reject.passed = true from hpassed]
          at hrejected
        cases hrejected
      · rename_i username _ hverify
        exact ⟨username, by rw [hverify]⟩
  | fail => simp [Session.resume, hphase] at h
  | message chunks => simp [Session.resume, hphase] at h

theorem Session.resume_handshake {outcome : Outcome}
    {next : ServerState × Session}
    (h : session.resume hmac state outcome = some next) :
    HandshakeMove hmac state session next.2 := by
  obtain ⟨hhandler, hsnapshot⟩ := Session.resume_keeps h
  by_cases hunread : session.phase.unread = true
  · exact .of_unread hhandler hsnapshot hunread
  · have hsettled := Session.resume_settled h (Bool.of_not_eq_true hunread)
    cases hphase : session.phase with
    | verifying auth =>
        exact .of_verifying hhandler hsnapshot hphase hsettled
          (Session.resume_verifying h hphase)
    | _ =>
        refine .of_settled hhandler hsnapshot ?_ hsettled
        rw [hphase] at hunread ⊢
        simp [Phase.settled, hunread, Phase.message]

/-- Only a handler that goes on takes part in the handshake. -/
theorem Session.step_handshake {index : Nat} {event : SessionEvent}
    {next : ServerState × Session}
    (h : session.step hmac index state event = some next) :
    HandshakeMove hmac state session next.2 := by
  rcases Session.step_frame h with ⟨outcome, hresume⟩ |
    ⟨_, _, hphase, rfl⟩ | ⟨_, _, _, _, _, _, _, _, rfl⟩
  · exact Session.resume_handshake hresume
  · exact .of_settled rfl rfl (by rw [hphase]; rfl) rfl
  · exact .same rfl rfl rfl

/-- A handler establishes a session only past the check. -/
theorem Session.resume_established {outcome : Outcome}
    {next : ServerState × Session}
    (h : session.resume hmac state outcome = some next)
    (hnext : next.2.phase.established = true) :
    session.phase.established = true ∨
      (∃ auth, session.phase.message = some auth) ∧
        next.2.phase.passed = true := by
  cases Session.resumes h with
  | accept hphase | openConnection hphase | readFailed hphase
  | unreadable _ hphase _ | refused _ hphase _ =>
      simp [Session.goto, Session.guarded] at hnext
  | verified auth username hphase _ =>
      refine Or.inr ⟨⟨auth, ?_⟩, session.handler.passed_afterVerify username⟩
      rw [hphase]
      rfl
  | openSession _ hphase | allocate _ _ _ hphase _ | register _ _ hphase
  | sendConfig _ _ hphase | countConnection _ _ hphase
  | countSession _ _ hphase =>
      left
      rw [hphase]
      rfl
  | drop guard rest hphase _ =>
      have hreturning : session.phase.established = true := hnext
      rw [hphase] at hreturning
      cases hreturning
  | _ => cases hnext

theorem Session.step_established {index : Nat} {event : SessionEvent}
    {next : ServerState × Session}
    (h : session.step hmac index state event = some next)
    (hnext : next.2.phase.established = true) :
    session.phase.established = true ∨
      (∃ auth, session.phase.message = some auth) ∧
        next.2.phase.passed = true := by
  rcases Session.step_frame h with ⟨outcome, hresume⟩ |
    ⟨_, _, hphase, rfl⟩ | ⟨_, _, _, _, _, _, _, _, rfl⟩
  · exact Session.resume_established hresume hnext
  · cases hnext
  · exact Or.inl hnext

end Handshake

end Redpill
