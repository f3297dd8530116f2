/-
A connection with ALPN `h3` (`handle_incoming` and `handle_vpn_h3` of
`server.rs`, and `decoy.rs`).  The first bi-stream races a timer of two
seconds: if it wins, the connection is that of a client, which has to
authenticate, and otherwise the decoy serves a page over HTTP/3.  The HTTP/3
library decides how its calls end.
-/
import Redpill.Handshake

namespace Redpill

open ByteStream

/-- `ERR_AUTH_FAILED`. -/
def errAuthFailed : Nat := 0x01

/-- The reasons with which `handle_vpn_h3` closes a connection. -/
def vpnReasons : List String :=
  ["auth read error", "malformed auth", "auth failed", "ip pool exhausted"]

/-- `DEFAULT_HTML`. -/
def defaultHtml : String :=
  "<!DOCTYPE html>\n<html>\n<head><title>Welcome to nginx!</title>\n" ++
  "<style>\nbody \x7b width: 35em; margin: 0 auto; " ++
  "font-family: Tahoma, Verdana, Arial, sans-serif; \x7d\n</style>\n" ++
  "</head>\n<body>\n<h1>Welcome to nginx!</h1>\n" ++
  "<p>If you see this page, the nginx web server is successfully " ++
  "installed and working.</p>\n" ++
  "<p><em>Thank you for using nginx.</em></p>\n</body>\n</html>"

/-- What the other side sees of the server. -/
inductive ServerAction where
  | response (status : Nat) (headers : List (String × String))
  | data (body : String)
  | finish
  | close (code : Nat) (reason : String)
deriving Repr, DecidableEq

/-- The response of the decoy. -/
def decoyResponse (html : String) : ServerAction :=
  .response 200 [("server", "nginx/1.24.0"), ("content-type", "text/html"),
    ("content-length", toString html.utf8ByteSize)]

/-- The page, as an answer to a request. -/
def servedPage (html : String) : List ServerAction :=
  [decoyResponse html, .data html, .finish]

/-- A connection is closed by the HTTP/3 library with a code of HTTP/3, which
start at `0x100`, and with a reason of its own. -/
structure H3Close where
  code : Nat
  reason : String
  code_ge : 0x100 ≤ code
  reason_not_mem : reason ∉ vpnReasons

inductive H3Outcome where
  | ok
  | none
  | error
deriving Repr, DecidableEq

/-- The awaits of the handler.  `refused` is the return of `handle_vpn_h3` after
an authentication failure, `returned` that of the decoy. -/
inductive H3Phase where
  | racing
  | readingAuth
  | vpn (username : String)
  | refused
  | building
  | accepting
  | resolving
  | responding
  | sendingData
  | finishing
  | returned
deriving Repr, DecidableEq

/-- The decoy has the connection. -/
def H3Phase.decoy : H3Phase → Bool
  | .building => true
  | .accepting => true
  | .resolving => true
  | .responding => true
  | .sendingData => true
  | .finishing => true
  | _ => false

/-- A bi-stream of the client, with all that is ever sent on it.  It then ends
or stays open. -/
structure ClientStream where
  content : Bytes
  ends : Bool
deriving Repr, DecidableEq

/-- What the handler finds: the switch, the page if its file can be read, and
the bi-streams that the client is going to open. -/
structure H3Config where
  decoyEnabled : Bool
  page : Option String
  streams : List ClientStream
deriving Repr, DecidableEq

def H3Config.html (config : H3Config) : String :=
  config.page.getD defaultHtml

/-- The first stream, which `accept_bi` returns. -/
def H3Config.first (config : H3Config) : ClientStream :=
  config.streams.headD ⟨[], false⟩

/-- `opened` streams have arrived, with `arrived` bytes of the first one and,
if it has `ended`, its end.  `since` is when the decoy began. -/
structure H3Connection where
  phase : H3Phase
  elapsed : Nat
  since : Nat
  opened : Nat
  arrived : Nat
  ended : Bool
  lost : Bool
  actions : List ServerAction
deriving Repr, DecidableEq

inductive H3Event where
  | tick (millis : Nat)
  | opensBi
  | opensUni
  | arrives (count : Nat)
  | ends
  | connectionLost
  | acceptBi
  | acceptFails
  | raceTimeout
  | readAuth (auth : AuthMode)
  | readFails
  | h3 (outcome : H3Outcome)
  | h3Closes (close : H3Close)
  | decoyTimeout

namespace H3Connection

def start : H3Connection := ⟨.racing, 0, 0, 0, 0, false, false, []⟩

/-- `close`, which the other side sees unless the connection is gone, and the
return after it. -/
def close (conn : H3Connection) (code : Nat) (reason : String)
    (phase : H3Phase) : H3Connection :=
  { conn with
    phase := phase
    actions :=
      if conn.lost then conn.actions else conn.actions ++ [.close code reason] }

/-- The decoy returns and the connection is dropped. -/
def drop (conn : H3Connection) : H3Connection := conn.close 0 "" .returned

/-- The arm of `handle_incoming` without a bi-stream. -/
def decoy (config : H3Config) (conn : H3Connection) : H3Connection :=
  if config.decoyEnabled then
    { conn with phase := .building, since := conn.elapsed }
  else conn.close 0x02 "unknown" .returned

/-- `handle_vpn_h3` once the whole message is there. -/
def checkAuth (hmac : Hmac) (auth : AuthMode) (conn : H3Connection)
    (authBuf : Bytes) : H3Connection :=
  match ClientAuth.decode authBuf with
  | none => conn.close errAuthFailed "malformed auth" .refused
  | some clientAuth =>
      match auth.verify hmac clientAuth.nonce clientAuth.mac with
      | none => conn.close errAuthFailed "auth failed" .refused
      | some username => { conn with phase := .vpn username }

/-- `handle_http3_inner`: how a call of the library ended. -/
def serve (html : String) (conn : H3Connection) :
    H3Outcome → Option H3Connection
  | .ok =>
      match conn.phase with
      | .building => some { conn with phase := .accepting }
      | .accepting => some { conn with phase := .resolving }
      | .resolving => some { conn with phase := .responding }
      | .responding =>
          some { conn with
            phase := .sendingData
            actions := conn.actions ++ [decoyResponse html] }
      | .sendingData =>
          some { conn with
            phase := .finishing
            actions := conn.actions ++ [.data html] }
      | .finishing =>
          some { conn with
            phase := .accepting
            actions := conn.actions ++ [.finish] }
      | _ => none
  | .none => if conn.phase = .accepting then some conn.drop else none
  | .error => if conn.phase.decoy then some conn.drop else none

/-- A stream that has arrived is accepted even if the timer of the race has
elapsed or the connection is gone. -/
def step (hmac : Hmac) (config : H3Config) (conn : H3Connection) :
    H3Event → Option H3Connection
  | .tick millis => some { conn with elapsed := conn.elapsed + millis }
  | .opensBi =>
      if conn.opened < config.streams.length ∧ conn.lost = false then
        some { conn with opened := conn.opened + 1 }
      else none
  | .opensUni => if conn.lost = false then some conn else none
  | .arrives count =>
      if 0 < conn.opened ∧ conn.lost = false then
        some { conn with
          arrived := min (conn.arrived + count) config.first.content.length }
      else none
  | .ends =>
      if 0 < conn.opened ∧ conn.lost = false ∧ config.first.ends = true ∧
          conn.arrived = config.first.content.length then
        some { conn with ended := true }
      else none
  | .connectionLost => some { conn with lost := true }
  | .acceptBi =>
      if conn.phase = .racing ∧ 0 < conn.opened then
        some { conn with phase := .readingAuth }
      else none
  | .acceptFails =>
      if conn.phase = .racing ∧ conn.opened = 0 ∧ conn.lost = true then
        some (conn.decoy config)
      else none
  | .raceTimeout =>
      if conn.phase = .racing ∧ conn.opened = 0 ∧ 2000 ≤ conn.elapsed then
        some (conn.decoy config)
      else none
  | .readAuth auth =>
      if conn.phase = .readingAuth ∧ clientAuthLen ≤ conn.arrived then
        some (conn.checkAuth hmac auth
          (config.first.content.take clientAuthLen))
      else none
  | .readFails =>
      if conn.phase = .readingAuth ∧ conn.arrived < clientAuthLen ∧
          (conn.ended = true ∨ conn.lost = true) then
        some (conn.close errAuthFailed "auth read error" .refused)
      else none
  | .h3 outcome => conn.serve config.html outcome
  | .h3Closes close =>
      if conn.phase.decoy = true then
        some (conn.close close.code close.reason .returned)
      else none
  | .decoyTimeout =>
      if conn.phase.decoy = true ∧ 30000 ≤ conn.elapsed - conn.since then
        some (conn.close 0 "timeout" .returned)
      else none

theorem checkAuth_eq_vpn_iff {hmac : Hmac} {auth : AuthMode}
    {conn : H3Connection} {content : Bytes} {username : String} :
    (conn.checkAuth hmac auth (content.take clientAuthLen)).phase =
      .vpn username ↔ auth.Admits hmac content username := by
  unfold checkAuth AuthMode.Admits
  rw [ClientAuth.decode_take]
  cases hdecode : ClientAuth.decode content with
  | none => simp [close]
  | some clientAuth =>
      cases hverify : auth.verify hmac clientAuth.nonce clientAuth.mac with
      | none => simp [close, hverify]
      | some name => simp [hverify]

/-- A session of the server on h3 starts for the clients that pass this
check. -/
theorem checkAuth_iff_session {hmac : Hmac} {conn : H3Connection}
    {session : Session} {server : ServerState} {chunks : List Bytes}
    {username : String} (hhandler : session.handler = .vpnH3) :
    (conn.checkAuth hmac server.auth
        (chunks.flatten.take clientAuthLen)).phase = .vpn username ↔
      ∃ received, session.handler.readAuth chunks = some received ∧
        (session.verify hmac server received.1).1 = some username := by
  have hmode : session.authMode server = server.auth := by
    simp [Session.authMode, hhandler]
  rw [checkAuth_eq_vpn_iff, ← Session.admits_iff, hmode]

/-- The client has won the race, so that `handle_vpn_h3` has the connection. -/
def Seized (conn : H3Connection) : Prop :=
  match conn.phase with
  | .readingAuth => True
  | .vpn _ => True
  | .refused => True
  | _ => False

end H3Connection

/-- What the decoy does: it answers with its page, and it closes neither with
the code of an authentication failure nor with a reason of the VPN. -/
def ServerAction.Decoylike (html : String) : ServerAction → Prop
  | .response status headers =>
      ServerAction.response status headers = decoyResponse html
  | .data body => body = html
  | .finish => True
  | .close code reason => code ≠ errAuthFailed ∧ reason ∉ vpnReasons

namespace H3Connection

/-- All that the other side has seen is what the decoy does. -/
def Covert (html : String) (conn : H3Connection) : Prop :=
  ∀ action ∈ conn.actions, action.Decoylike html

/-- The race is not won by a bi-stream. -/
def TimerWins (_ : H3Connection) : H3Event → Prop
  | .acceptBi => False
  | _ => True

/-- The reader of `handle_vpn_h3` comes to an end, and the client is admitted
or refused. -/
def Answers : H3Event → Prop
  | .readAuth _ => True
  | .readFails => True
  | _ => False

/-- A client is answered only when the connection is gone and nobody sees it. -/
def Unanswered (conn : H3Connection) (event : H3Event) : Prop :=
  Answers event → conn.lost = true

/-- What a step can do: nothing that is seen, decide the race for one side or
the other, check the message of a client, or go on with the decoy. -/
inductive Change (hmac : Hmac) (config : H3Config) (conn : H3Connection) :
    H3Event → H3Connection → Prop
  | quiet {event : H3Event} {next : H3Connection}
      (hwins : conn.TimerWins event) (hphase : next.phase = conn.phase)
      (hactions : next.actions = conn.actions) : Change hmac config conn event next
  | accept (hphase : conn.phase = .racing) :
      Change hmac config conn .acceptBi { conn with phase := .readingAuth }
  | decoy {event : H3Event} (hwins : conn.TimerWins event)
      (hphase : conn.phase = .racing) :
      Change hmac config conn event (conn.decoy config)
  | check {auth : AuthMode} (hphase : conn.phase = .readingAuth) :
      Change hmac config conn (.readAuth auth)
        (conn.checkAuth hmac auth (config.first.content.take clientAuthLen))
  | fail (hphase : conn.phase = .readingAuth) :
      Change hmac config conn .readFails
        (conn.close errAuthFailed "auth read error" .refused)
  | serve {event : H3Event} {next : H3Connection}
      (hwins : conn.TimerWins event) (hphase : conn.phase.decoy = true)
      (hnext : next.phase.decoy = true ∨ next.phase = .returned)
      (hactions : ∀ action ∈ next.actions,
        action ∈ conn.actions ∨ action.Decoylike config.html) :
      Change hmac config conn event next

section Exact

variable {hmac : Hmac} {config : H3Config} {html : String}
  {conn next : H3Connection}

theorem mem_actions_append {action added : ServerAction}
    (haction : action ∈ conn.actions ++ [added])
    (hadded : added.Decoylike html) :
    action ∈ conn.actions ∨ action.Decoylike html := by
  rcases List.mem_append.mp haction with haction | haction
  · exact Or.inl haction
  · rw [List.mem_singleton.mp haction]
    exact Or.inr hadded

theorem close_actions {code : Nat} {reason : String} {phase : H3Phase}
    (hcode : code ≠ errAuthFailed) (hreason : reason ∉ vpnReasons) :
    ∀ action ∈ (conn.close code reason phase).actions,
      action ∈ conn.actions ∨ action.Decoylike html := by
  intro action haction
  simp only [close] at haction
  split at haction
  · exact Or.inl haction
  · exact mem_actions_append haction ⟨hcode, hreason⟩

/-- The decoy answers with its page, or returns. -/
theorem serve_change {outcome : H3Outcome}
    (hserve : conn.serve config.html outcome = some next) :
    Change hmac config conn (.h3 outcome) next := by
  cases outcome with
  | ok =>
      simp only [serve] at hserve
      split at hserve
      case h_7 => cases hserve
      all_goals
        rename_i hphase
        rw [← Option.some.inj hserve]
        refine .serve trivial (by rw [hphase]; rfl) (Or.inl rfl) ?_
        intro action haction
      · exact Or.inl haction
      · exact Or.inl haction
      · exact Or.inl haction
      · exact mem_actions_append haction rfl
      · exact mem_actions_append haction rfl
      · exact mem_actions_append haction trivial
  | none =>
      simp only [serve, Option.ite_none_right_eq_some,
        Option.some.injEq] at hserve
      obtain ⟨hphase, rfl⟩ := hserve
      exact .serve trivial (by rw [hphase]; rfl) (Or.inr rfl)
        (close_actions (by decide) (by decide))
  | error =>
      simp only [serve, Option.ite_none_right_eq_some,
        Option.some.injEq] at hserve
      obtain ⟨hphase, rfl⟩ := hserve
      exact .serve trivial hphase (Or.inr rfl)
        (close_actions (by decide) (by decide))

theorem step_change {event : H3Event}
    (hstep : conn.step hmac config event = some next) :
    Change hmac config conn event next := by
  cases event with
  | tick millis | connectionLost =>
      rw [← Option.some.inj hstep]
      exact .quiet trivial rfl rfl
  | opensBi | opensUni | arrives count | ends =>
      simp only [step, Option.ite_none_right_eq_some, Option.some.injEq]
        at hstep
      rw [← hstep.2]
      exact .quiet trivial rfl rfl
  | acceptBi =>
      simp only [step, Option.ite_none_right_eq_some, Option.some.injEq]
        at hstep
      obtain ⟨⟨hphase, -⟩, rfl⟩ := hstep
      exact .accept hphase
  | acceptFails | raceTimeout =>
      simp only [step, Option.ite_none_right_eq_some, Option.some.injEq]
        at hstep
      obtain ⟨⟨hphase, -⟩, rfl⟩ := hstep
      exact .decoy trivial hphase
  | readAuth auth =>
      simp only [step, Option.ite_none_right_eq_some, Option.some.injEq]
        at hstep
      obtain ⟨⟨hphase, -⟩, rfl⟩ := hstep
      exact .check hphase
  | readFails =>
      simp only [step, Option.ite_none_right_eq_some, Option.some.injEq]
        at hstep
      obtain ⟨⟨hphase, -⟩, rfl⟩ := hstep
      exact .fail hphase
  | h3 outcome => exact serve_change hstep
  | h3Closes close =>
      simp only [step, Option.ite_none_right_eq_some, Option.some.injEq]
        at hstep
      obtain ⟨hphase, rfl⟩ := hstep
      have hcode : close.code ≠ errAuthFailed := by
        have hge := close.code_ge
        rw [errAuthFailed]
        omega
      exact .serve trivial hphase (Or.inr rfl)
        (close_actions hcode close.reason_not_mem)
  | decoyTimeout =>
      simp only [step, Option.ite_none_right_eq_some, Option.some.injEq]
        at hstep
      obtain ⟨⟨hphase, -⟩, rfl⟩ := hstep
      exact .serve trivial hphase (Or.inr rfl)
        (close_actions (by decide) (by decide))

theorem not_seized_of_decoy
    (hphase : next.phase.decoy = true ∨ next.phase = .returned) :
    ¬ next.Seized := by
  intro hseized
  unfold Seized at hseized
  split at hseized
  all_goals simp_all [H3Phase.decoy]

/-- The race is lost to a client only when the server accepts a stream. -/
theorem step_seized_iff {event : H3Event} (hfree : ¬ conn.Seized)
    (hstep : conn.step hmac config event = some next) :
    ¬ next.Seized ↔ conn.TimerWins event := by
  cases step_change hstep with
  | quiet hwins hphase hactions =>
      rw [Seized, hphase]
      exact iff_of_true hfree hwins
  | accept hphase => exact iff_of_false (fun hnext => hnext trivial) id
  | decoy hwins hphase =>
      refine iff_of_true ?_ hwins
      unfold H3Connection.decoy
      split <;> exact id
  | check hphase => exact absurd (by rw [Seized, hphase]; trivial) hfree
  | fail hphase => exact absurd (by rw [Seized, hphase]; trivial) hfree
  | serve hwins hphase hnext hactions =>
      exact iff_of_true (not_seized_of_decoy hnext) hwins

/-- Who has won the race keeps the connection. -/
theorem step_seized {event : H3Event} (hseized : conn.Seized)
    (hstep : conn.step hmac config event = some next) : next.Seized := by
  cases step_change hstep with
  | quiet hwins hphase hactions =>
      rw [Seized, hphase]
      exact hseized
  | accept hphase => trivial
  | decoy hwins hphase =>
      rw [Seized, hphase] at hseized
      exact hseized.elim
  | check hphase =>
      unfold checkAuth
      split
      · trivial
      · split
        · trivial
        · trivial
  | fail hphase => trivial
  | serve hwins hphase hnext hactions =>
      exact absurd hseized (not_seized_of_decoy (Or.inl hphase))

/-- No client ever has the connection exactly if no step accepts a stream in
the race. -/
theorem free_iff_timerWins {events : List H3Event} {final : H3Connection}
    (hrun : Machine.run (step hmac config) start events = some final) :
    ¬ final.Seized ↔ Machine.Meets (step hmac config) TimerWins start events :=
  Machine.good_iff_meets
    (fun _ _ _ hfree hwins hstep => (step_seized_iff hfree hstep).mpr hwins)
    (fun _ _ _ hfree hwins hstep =>
      not_not.mp fun hnext => hwins ((step_seized_iff hfree hstep).mp hnext))
    (fun _ _ _ hseized hstep => step_seized hseized hstep)
    (fun _ hfree => hfree) id hrun

/-- Nothing is seen but the decoy while no client is answered. -/
theorem step_covert {event : H3Event} (hanswers : ¬ Answers event)
    (hcovert : conn.Covert config.html)
    (hstep : conn.step hmac config event = some next) :
    next.Covert config.html := by
  intro action haction
  cases step_change hstep with
  | quiet hwins hphase hactions =>
      rw [hactions] at haction
      exact hcovert action haction
  | accept hphase => exact hcovert action haction
  | decoy hwins hphase =>
      unfold H3Connection.decoy at haction
      split at haction
      · exact hcovert action haction
      · rcases close_actions (by decide) (by decide) action haction with
          hold | hnew
        · exact hcovert action hold
        · exact hnew
  | check hphase => exact absurd trivial hanswers
  | fail hphase => exact absurd trivial hanswers
  | serve hwins hphase hnext hactions =>
      rcases hactions action haction with hold | hnew
      · exact hcovert action hold
      · exact hnew

/-- Only a client that has the connection is answered. -/
theorem not_answers_of_free {event : H3Event} (hfree : ¬ conn.Seized)
    (hstep : conn.step hmac config event = some next) : ¬ Answers event := by
  have hreading : conn.phase ≠ .readingAuth := fun hphase =>
    hfree (by rw [Seized, hphase]; trivial)
  intro hanswers
  cases event with
  | readAuth auth | readFails =>
      simp only [step, hreading, false_and, if_false] at hstep
      cases hstep
  | _ => exact hanswers

theorem covert_of_timerWins {events : List H3Event}
    (hmeets : Machine.Meets (step hmac config) TimerWins start events) :
    Machine.Always (step hmac config) (Covert config.html) start events := by
  have hkeep : ∀ (conn : H3Connection) (event : H3Event) (next : H3Connection),
      ¬ conn.Seized ∧ conn.Covert config.html → conn.TimerWins event →
        conn.step hmac config event = some next →
          ¬ next.Seized ∧ next.Covert config.html :=
    fun _ _ _ hinv hwins hstep => ⟨(step_seized_iff hinv.1 hstep).mpr hwins,
      step_covert (not_answers_of_free hinv.1 hstep) hinv.2 hstep⟩
  refine Machine.always_of_meets hkeep (fun _ hinv => hinv.2) ⟨id, ?_⟩ hmeets
  intro action haction
  cases haction

/-- The server as it is seen by a client that does not authenticate: nothing is
seen before the race is decided, and after it was won at most that the
authentication failed. -/
def Refuses (conn : H3Connection) : Prop :=
  match conn.phase with
  | .racing => conn.actions = []
  | .readingAuth => conn.actions = []
  | .refused =>
      ∀ action ∈ conn.actions, ∃ reason, action = .close errAuthFailed reason
  | .vpn _ => False
  | _ => True

/-- Only a message that no key admits is read. -/
def Unadmitted (hmac : Hmac) (config : H3Config) : H3Event → Prop
  | .readAuth auth =>
      ∀ stream ∈ config.streams, ∀ username,
        ¬ auth.Admits hmac stream.content username
  | _ => True

theorem refuses_close {reason : String} (hactions : conn.actions = []) :
    (conn.close errAuthFailed reason .refused).Refuses := by
  intro action haction
  simp only [close, hactions, List.nil_append] at haction
  split at haction
  · cases haction
  · exact ⟨reason, List.mem_singleton.mp haction⟩

/-- A stream that was never opened admits nobody either. -/
theorem not_admits_first {auth : AuthMode} {username : String}
    (hunadmitted : Unadmitted hmac config (.readAuth auth)) :
    ¬ auth.Admits hmac config.first.content username := by
  intro hadmits
  unfold H3Config.first at hadmits
  cases hstreams : config.streams with
  | nil =>
      rw [hstreams] at hadmits
      obtain ⟨clientAuth, hdecode, -⟩ := hadmits
      cases hdecode
  | cons stream rest =>
      rw [hstreams] at hadmits
      have hmem : stream ∈ config.streams := by
        rw [hstreams]
        exact List.mem_cons_self
      exact hunadmitted stream hmem username hadmits

/-- Who is not admitted is refused, for one reason or another. -/
theorem checkAuth_of_unadmitted {auth : AuthMode}
    (hunadmitted : Unadmitted hmac config (.readAuth auth)) :
    ∃ reason, conn.checkAuth hmac auth
        (config.first.content.take clientAuthLen) =
      conn.close errAuthFailed reason .refused := by
  have hnot : ∀ username, (conn.checkAuth hmac auth
      (config.first.content.take clientAuthLen)).phase ≠ .vpn username := by
    intro username h
    exact not_admits_first hunadmitted (checkAuth_eq_vpn_iff.mp h)
  unfold checkAuth at hnot ⊢
  split
  · exact ⟨_, rfl⟩
  · rename_i clientAuth hdecode
    split
    · exact ⟨_, rfl⟩
    · rename_i username hverify
      exact absurd (by rw [hdecode]; simp only [hverify]) (hnot username)

/-- A refusal is seen, unless the connection is gone. -/
theorem covert_refusal_iff {reason : String} (hactions : conn.actions = []) :
    (conn.close errAuthFailed reason .refused).Covert html ↔
      conn.lost = true := by
  cases hlost : conn.lost with
  | true => simp [Covert, close, hlost, hactions]
  | false =>
      simp [Covert, close, hlost, hactions, ServerAction.Decoylike]

theorem step_refuses {event : H3Event} (hrefuses : conn.Refuses)
    (hunadmitted : Unadmitted hmac config event)
    (hstep : conn.step hmac config event = some next) : next.Refuses := by
  cases step_change hstep with
  | quiet hwins hphase hactions =>
      rw [Refuses, hphase, hactions]
      exact hrefuses
  | accept hphase => simpa only [Refuses, hphase] using hrefuses
  | decoy hwins hphase =>
      unfold decoy
      split
      · trivial
      · trivial
  | check hphase =>
      simp only [Refuses, hphase] at hrefuses
      obtain ⟨reason, hclosed⟩ := checkAuth_of_unadmitted hunadmitted
      rw [hclosed]
      exact refuses_close hrefuses
  | fail hphase =>
      simp only [Refuses, hphase] at hrefuses
      exact refuses_close hrefuses
  | serve hwins hphase hnext hactions =>
      unfold Refuses
      split
      all_goals simp_all [H3Phase.decoy]

/-- A step keeps to what the decoy shows unless it answers a client. -/
theorem step_covert_iff {event : H3Event} (hrefuses : conn.Refuses)
    (hcovert : conn.Covert config.html)
    (hunadmitted : Unadmitted hmac config event)
    (hstep : conn.step hmac config event = some next) :
    next.Covert config.html ↔ conn.Unanswered event := by
  cases event with
  | readAuth auth =>
      simp only [step, Option.ite_none_right_eq_some, Option.some.injEq]
        at hstep
      obtain ⟨⟨hphase, -⟩, rfl⟩ := hstep
      simp only [Refuses, hphase] at hrefuses
      obtain ⟨reason, hclosed⟩ := checkAuth_of_unadmitted hunadmitted
      rw [hclosed, covert_refusal_iff hrefuses]
      exact ⟨fun hlost _ => hlost, fun hunanswered => hunanswered trivial⟩
  | readFails =>
      simp only [step, Option.ite_none_right_eq_some, Option.some.injEq]
        at hstep
      obtain ⟨⟨hphase, -⟩, rfl⟩ := hstep
      simp only [Refuses, hphase] at hrefuses
      rw [covert_refusal_iff hrefuses]
      exact ⟨fun hlost _ => hlost, fun hunanswered => hunanswered trivial⟩
  | _ => exact iff_of_true (step_covert id hcovert hstep) False.elim

/-- Without authentication a client has the connection only if a bi-stream was
accepted before the timer, and then it is refused: the page is not served, and
the connection is closed, if at all, with the code of an authentication
failure. -/
theorem refused_of_seized {events : List H3Event} {final : H3Connection}
    (hrun : Machine.run (step hmac config) start events = some final)
    (hprobe : ∀ event ∈ events, Unadmitted hmac config event)
    (hseized : final.Seized) :
    (final.phase = .readingAuth ∨ final.phase = .refused) ∧
      ∀ action ∈ final.actions,
        ∃ reason, action = .close errAuthFailed reason := by
  have hrefuses : final.Refuses :=
    Machine.run_invariant_of_meets
      (fun _ _ _ hrefuses hunadmitted hstep =>
        step_refuses hrefuses hunadmitted hstep)
      (show start.Refuses from rfl)
      ((Machine.meets_labels_iff hrun).mpr hprobe) hrun
  cases hphase : final.phase with
  | readingAuth =>
      simp only [Refuses, hphase] at hrefuses
      refine ⟨Or.inl rfl, ?_⟩
      rw [hrefuses]
      intro action haction
      cases haction
  | refused =>
      simp only [Refuses, hphase] at hrefuses
      exact ⟨Or.inr rfl, hrefuses⟩
  | vpn username => simp only [Refuses, hphase] at hrefuses
  | _ => simp [Seized, hphase] at hseized

end Exact

/-- The calls of the library for one request. -/
def requestServed : List H3Event := List.replicate 5 (.h3 .ok)

/-- A request that the library takes is served the page. -/
theorem run_requestServed (hmac : Hmac) (config : H3Config)
    {conn : H3Connection} (hphase : conn.phase = .accepting) :
    Machine.run (step hmac config) conn requestServed =
      some { conn with
        actions := conn.actions ++ servedPage config.html } := by
  simp [requestServed, List.replicate, Machine.run, step, serve, hphase,
    servedPage]

/-- Without a bi-stream, the timer starts the decoy. -/
theorem run_raceTimeout (hmac : Hmac) {config : H3Config}
    {conn : H3Connection} (henabled : config.decoyEnabled = true)
    (hphase : conn.phase = .racing) (hopened : conn.opened = 0)
    (helapsed : 2000 ≤ conn.elapsed) :
    Machine.run (step hmac config) conn [.raceTimeout, .h3 .ok] =
      some { conn with phase := .accepting, since := conn.elapsed } := by
  simp [Machine.run, step, serve, decoy, hphase, hopened, helapsed, henabled]

/-- What a client that does not authenticate sees is the decoy exactly if no
such client is answered while its connection is up, in particular if no
bi-stream is accepted before the timer; the handler of the VPN never has the
connection exactly as long as none is.  Then the timer starts the decoy, which
serves its page to requests; otherwise the page is never served, and the
connection is closed, if at all, with the code of an authentication failure. -/
theorem h3_probe_deflection (hmac : Hmac) {config : H3Config}
    (henabled : config.decoyEnabled = true) {events : List H3Event}
    {final : H3Connection}
    (hrun : Machine.run (step hmac config) start events = some final)
    (hprobe : ∀ event ∈ events, Unadmitted hmac config event) :
    (Machine.Always (step hmac config) (Covert config.html) start events ↔
      Machine.Meets (step hmac config) Unanswered start events) ∧
    (Machine.Meets (step hmac config) TimerWins start events →
      Machine.Always (step hmac config) (Covert config.html) start events) ∧
    (Machine.Always (step hmac config) (fun conn => ¬ conn.Seized) start
        events ↔
      Machine.Meets (step hmac config) TimerWins start events) ∧
    (final.phase = .racing → final.opened = 0 → 2000 ≤ final.elapsed →
      ∃ served, Machine.run (step hmac config) final
          ([.raceTimeout, .h3 .ok] ++ requestServed) = some served ∧
        served.actions = final.actions ++ servedPage config.html) ∧
    (final.phase = .accepting →
      ∃ served, Machine.run (step hmac config) final requestServed =
          some served ∧
        served.actions = final.actions ++ servedPage config.html) ∧
    (¬ Machine.Meets (step hmac config) TimerWins start events →
      (final.phase = .readingAuth ∨ final.phase = .refused) ∧
      ∀ action ∈ final.actions,
        ∃ reason, action = .close errAuthFailed reason) := by
  refine ⟨?_, covert_of_timerWins, ?_, ?_, ?_, ?_⟩
  · refine Machine.always_iff_meets_of_meets Refuses
      (fun _ _ _ hrefuses hunadmitted hstep =>
        step_refuses hrefuses hunadmitted hstep)
      (fun _ _ _ hrefuses hcovert hunadmitted hstep =>
        step_covert_iff hrefuses hcovert hunadmitted hstep)
      rfl ?_ ((Machine.meets_labels_iff hrun).mpr hprobe) hrun
    intro action haction
    cases haction
  · exact Machine.always_iff_meets (fun _ => True)
      (fun _ _ _ _ _ => trivial)
      (fun _ _ _ _ hfree hstep => step_seized_iff hfree hstep)
      trivial id hrun
  · intro hphase hopened helapsed
    rw [Machine.run_append,
      run_raceTimeout hmac henabled hphase hopened helapsed, Option.bind_some]
    exact ⟨_, run_requestServed hmac config rfl, rfl⟩
  · intro hphase
    exact ⟨_, run_requestServed hmac config hphase, rfl⟩
  · intro hlost
    have hseized : final.Seized := not_not.mp fun hfree =>
      hlost ((free_iff_timerWins hrun).mp hfree)
    exact refused_of_seized hrun hprobe hseized

/-- A client with one request, whose first frame has the type `0x01`. -/
def requestConfig : H3Config where
  decoyEnabled := true
  page := some "<html></html>"
  streams := [⟨[0x01, 0x02, 0x00, 0x00], true⟩]

/-- The request comes after the timer. -/
def lateRequest : List H3Event :=
  [.opensUni, .tick 2000, .raceTimeout, .h3 .ok, .opensBi] ++ requestServed

theorem h3_probe_deflection_late :
    Machine.Always (step zeroHmac requestConfig)
        (Covert requestConfig.html) start lateRequest ∧
      ∃ final, Machine.run (step zeroHmac requestConfig) start lateRequest =
          some final ∧
        final.actions = servedPage "<html></html>" := by
  have hrun : Machine.run (step zeroHmac requestConfig) start lateRequest =
      some ⟨.accepting, 2000, 2000, 1, 0, false, false,
        servedPage "<html></html>"⟩ :=
    rfl
  have hprobe : ∀ event ∈ lateRequest,
      Unadmitted zeroHmac requestConfig event := by
    simp [lateRequest, requestServed, List.replicate, Unadmitted]
  have hmeets : Machine.Meets (step zeroHmac requestConfig) TimerWins start
      lateRequest := by
    simp [lateRequest, requestServed, List.replicate, Machine.Meets, TimerWins,
      step, serve, decoy, start, requestConfig]
  exact ⟨(h3_probe_deflection zeroHmac rfl hrun hprobe).2.1 hmeets, _, hrun,
    rfl⟩

/-- The same request at once. -/
def earlyRequest : List H3Event :=
  [.opensUni, .opensBi, .arrives 4, .ends, .acceptBi, .readFails]

theorem early_request_refused :
    requestConfig.decoyEnabled = true ∧
    (∀ event ∈ earlyRequest, Unadmitted zeroHmac requestConfig event) ∧
    ∃ final, Machine.run (step zeroHmac requestConfig) start earlyRequest =
        some final ∧
      final.actions = [.close errAuthFailed "auth read error"] ∧
      ¬ Machine.Always (step zeroHmac requestConfig)
        (Covert requestConfig.html) start earlyRequest := by
  refine ⟨rfl, ?_, ⟨.refused, 0, 0, 1, 4, true, false,
    [.close errAuthFailed "auth read error"]⟩, rfl, rfl, ?_⟩
  · simp [earlyRequest, Unadmitted]
  · intro halways
    have hcovert : Covert requestConfig.html
        ⟨.refused, 0, 0, 1, 4, true, false,
          [.close errAuthFailed "auth read error"]⟩ :=
      halways.2.2.2.2.2.2
    exact (hcovert _ List.mem_cons_self).1 rfl

end H3Connection

end Redpill
