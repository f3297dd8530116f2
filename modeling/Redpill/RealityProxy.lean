/-
The deflection of a peer of TCP Reality that does not authenticate
(`reality.rs`): the first message is read, checked and, if it is not that of a
client, replayed to the target, and then both directions are copied until one
of them ends.
-/
import Redpill.Pipe
import Redpill.Machine
import Redpill.Handshake

namespace Redpill

open ByteStream

/-- The two copies of `proxy_bidirectional`: client to target and back. -/
inductive Direction where
  | c2t
  | t2c
deriving Repr, DecidableEq

/-- The awaits of `handle_tcp_connection` after the TLS handshake and of
`proxy_with_initial_data`, and the ways these return.  In `connecting` and
`replaying` the initial data is what the buffer holds. -/
inductive ProxyPhase where
  | readingFirst
  | connecting
  | replaying
  | proxying
  | vpn (username : String)
  | failed
  | ended
deriving Repr, DecidableEq

/-- The source of a direction is there: the peer while it is not a client, and
the target once the connection to it is. -/
def ProxyPhase.connects : ProxyPhase → Direction → Bool
  | .vpn _, _ => false
  | .readingFirst, .t2c => false
  | .connecting, .t2c => false
  | .failed, .t2c => false
  | _, _ => true

/-- The handler has returned, and both streams are dropped. -/
def ProxyPhase.returned : ProxyPhase → Bool
  | .failed => true
  | .ended => true
  | _ => false

/-- What the peer and the target do, and how the awaits go on.  The first read
fails at the end of the stream and on an error of it, and it times out after
five seconds. -/
inductive ProxyEvent where
  | sends (direction : Direction) (chunk : Bytes)
  | finishes (direction : Direction)
  | readFirst (count : Nat)
  | readEof
  | readError
  | readTimeout
  | connected
  | connectFailed
  | replayed
  | replayFailed (count : Nat)
  | copyReads (direction : Direction) (count : Nat)
  | copyWrites (direction : Direction) (count : Nat)
  | copyEnds (direction : Direction)
  | copyFails (direction : Direction)
deriving Repr, DecidableEq

/-- The buffer of `tokio::io::copy`. -/
def copyBufLen : Nat := 8192

structure ProxyState where
  phase : ProxyPhase
  c2t : Pipe UInt8
  t2c : Pipe UInt8
deriving Repr, DecidableEq

namespace ProxyState

def start : ProxyState := ⟨.readingFirst, .empty, .empty⟩

def pipe (state : ProxyState) : Direction → Pipe UInt8
  | .c2t => state.c2t
  | .t2c => state.t2c

def setPipe (state : ProxyState) (pipe : Pipe UInt8) : Direction → ProxyState
  | .c2t => { state with c2t := pipe }
  | .t2c => { state with t2c := pipe }

/-- The handler returns. -/
def finish (state : ProxyState) (phase : ProxyPhase) : ProxyState :=
  ⟨phase, state.c2t.discard, state.t2c.discard⟩

/-- `proxy_with_initial_data(.., &auth_buf[..0], ..)`. -/
def proxyWithout (state : ProxyState) : ProxyState :=
  { state with phase := .connecting, c2t := state.c2t.discardBuffer }

/-- `proxy_with_initial_data(.., &auth_buf, ..)`. -/
def proxyWithInitialData (state : ProxyState) : ProxyState :=
  { state with phase := .connecting }

/-- What is decided once `auth_buf` is full. -/
def checkFirst (hmac : Hmac) (auth : AuthMode) (state : ProxyState) :
    ProxyState :=
  match ClientAuth.decode state.c2t.buffer with
  | none => state.proxyWithInitialData
  | some clientAuth =>
      match auth.verifyAuth hmac clientAuth.nonce clientAuth.mac with
      | none => state.proxyWithInitialData
      | some username => { state with phase := .vpn username }

/-- A chunk is sent, to the handler or after it has returned. -/
def sends (state : ProxyState) (direction : Direction) (chunk : Bytes) :
    Option ProxyState :=
  if (state.pipe direction).closed = false ∧
      state.phase.connects direction = true then
    if state.phase.returned then
      some (state.setPipe ((state.pipe direction).sendLost chunk) direction)
    else some (state.setPipe ((state.pipe direction).send chunk) direction)
  else none

def step (hmac : Hmac) (auth : AuthMode) (state : ProxyState) :
    ProxyEvent → Option ProxyState
  | .sends direction chunk => state.sends direction chunk
  | .finishes direction =>
      some (state.setPipe (state.pipe direction).close direction)
  | .readFirst count =>
      if state.phase = .readingFirst then
        let read : ProxyState :=
          { state with c2t := state.c2t.read clientAuthLen count }
        if read.c2t.buffer.length = clientAuthLen then
          some (read.checkFirst hmac auth)
        else some read
      else none
  | .readEof =>
      if state.phase = .readingFirst ∧ state.c2t.closed = true ∧
          state.c2t.unread = [] then
        some state.proxyWithout
      else none
  | .readError =>
      if state.phase = .readingFirst then some state.proxyWithout else none
  | .readTimeout =>
      if state.phase = .readingFirst then some state.proxyWithout else none
  | .connected =>
      if state.phase = .connecting then
        some { state with phase := .replaying }
      else none
  | .connectFailed =>
      if state.phase = .connecting then some (state.finish .failed) else none
  | .replayed =>
      if state.phase = .replaying then
        some { state with
          phase := .proxying
          c2t := state.c2t.write state.c2t.buffer.length }
      else none
  | .replayFailed count =>
      if state.phase = .replaying then
        let written : ProxyState :=
          { state with c2t := state.c2t.write count }
        some (written.finish .ended)
      else none
  | .copyReads direction count =>
      if state.phase = .proxying then
        some (state.setPipe
          ((state.pipe direction).read copyBufLen count) direction)
      else none
  | .copyWrites direction count =>
      if state.phase = .proxying then
        some (state.setPipe ((state.pipe direction).write count) direction)
      else none
  | .copyEnds direction =>
      if state.phase = .proxying ∧ (state.pipe direction).closed = true ∧
          (state.pipe direction).inFlight = [] then
        some (state.finish .ended)
      else none
  | .copyFails _ =>
      if state.phase = .proxying then some (state.finish .ended) else none

/-- Nothing is lost, added, repeated or reordered in either direction. -/
def Lossless (state : ProxyState) : Prop :=
  state.c2t.Lossless ∧ state.t2c.Lossless

/-- All that was sent has been delivered. -/
def Idle (state : ProxyState) : Prop :=
  state.c2t.inFlight = [] ∧ state.t2c.inFlight = []

/-- Both directions are lossless, unless the peer is a client.  Once the
handler has returned, this says that everything was delivered. -/
def Transparent (state : ProxyState) : Prop :=
  match state.phase with
  | .vpn _ => True
  | _ => state.Lossless

/-- The handler gives up no byte.  The first read ends early only before the
first byte, the handler returns only when nothing is in flight, and nothing is
sent after that. -/
def Spares (state : ProxyState) : ProxyEvent → Prop
  | .sends _ chunk =>
      state.phase.returned = true → chunk = []
  | .readEof => state.c2t.buffer = []
  | .readError => state.c2t.buffer = []
  | .readTimeout => state.c2t.buffer = []
  | .connectFailed => state.Idle
  | .replayFailed count =>
      (state.c2t.write count).inFlight = [] ∧ state.t2c.inFlight = []
  | .copyEnds _ => state.Idle
  | .copyFails _ => state.Idle
  | _ => True

instance (state : ProxyState) : Decidable state.Lossless :=
  inferInstanceAs (Decidable (_ ∧ _))

instance (state : ProxyState) : Decidable state.Idle :=
  inferInstanceAs (Decidable (_ ∧ _))

instance (state : ProxyState) :
    (event : ProxyEvent) → Decidable (state.Spares event)
  | .sends _ chunk => inferInstanceAs (Decidable (_ → chunk = []))
  | .readEof => inferInstanceAs (Decidable (_ = _))
  | .readError => inferInstanceAs (Decidable (_ = _))
  | .readTimeout => inferInstanceAs (Decidable (_ = _))
  | .connectFailed => inferInstanceAs (Decidable state.Idle)
  | .replayFailed _ => inferInstanceAs (Decidable (_ ∧ _))
  | .copyEnds _ => inferInstanceAs (Decidable state.Idle)
  | .copyFails _ => inferInstanceAs (Decidable state.Idle)
  | .finishes _ => isTrue trivial
  | .readFirst _ => isTrue trivial
  | .connected => isTrue trivial
  | .replayed => isTrue trivial
  | .copyReads _ _ => isTrue trivial
  | .copyWrites _ _ => isTrue trivial

@[simp] theorem setPipe_phase (state : ProxyState) (pipe : Pipe UInt8)
    (direction : Direction) :
    (state.setPipe pipe direction).phase = state.phase := by
  cases direction <;> rfl

theorem Lossless.pipe {state : ProxyState} (hlossless : state.Lossless)
    (direction : Direction) : (state.pipe direction).Lossless := by
  cases direction with
  | c2t => exact hlossless.1
  | t2c => exact hlossless.2

/-- Only the pipe that changes matters. -/
theorem lossless_setPipe {state : ProxyState} {pipe : Pipe UInt8}
    {direction : Direction} (hlossless : state.Lossless) :
    (state.setPipe pipe direction).Lossless ↔ pipe.Lossless := by
  cases direction with
  | c2t => exact and_iff_left hlossless.2
  | t2c => exact and_iff_right hlossless.1

theorem lossless_finish {state : ProxyState} {phase : ProxyPhase}
    (hlossless : state.Lossless) :
    (state.finish phase).Lossless ↔ state.Idle :=
  and_congr (Pipe.lossless_discard hlossless.1)
    (Pipe.lossless_discard hlossless.2)

/-- Without the bytes that were read, the rest is lossless only if there were
none. -/
theorem lossless_proxyWithout {state : ProxyState}
    (hlossless : state.Lossless) :
    state.proxyWithout.Lossless ↔ state.c2t.buffer = [] :=
  (and_iff_left hlossless.2).trans (Pipe.lossless_discardBuffer hlossless.1)

theorem transparent_of_lossless {state : ProxyState}
    (hlossless : state.Lossless) : state.Transparent := by
  unfold Transparent
  split
  · trivial
  · exact hlossless

theorem transparent_iff {state : ProxyState}
    (hphase : ∀ username, state.phase ≠ .vpn username) :
    state.Transparent ↔ state.Lossless := by
  constructor
  · intro htransparent
    unfold Transparent at htransparent
    split at htransparent
    · rename_i username h
      exact absurd h (hphase username)
    · exact htransparent
  · exact transparent_of_lossless

/-- Giving up the bytes that were read shows, unless there were none. -/
theorem transparent_proxyWithout {state : ProxyState}
    (hlossless : state.Lossless) :
    state.proxyWithout.Transparent ↔ state.c2t.buffer = [] := by
  rw [transparent_iff (by intro username h; cases h)]
  exact lossless_proxyWithout hlossless

/-- Returning shows, unless nothing was in flight. -/
theorem transparent_finish {state : ProxyState} {phase : ProxyPhase}
    (hlossless : state.Lossless) (hreturned : phase.returned = true) :
    (state.finish phase).Transparent ↔ state.Idle := by
  have hphase : ∀ username, (state.finish phase).phase ≠ .vpn username := by
    intro username h
    rw [show phase = .vpn username from h] at hreturned
    cases hreturned
  rw [transparent_iff hphase]
  exact lossless_finish hlossless

theorem transparent_checkFirst (hmac : Hmac) (auth : AuthMode)
    {state : ProxyState} (hlossless : state.Lossless) :
    (state.checkFirst hmac auth).Transparent := by
  unfold checkFirst
  split
  · exact transparent_of_lossless hlossless
  · split
    · exact transparent_of_lossless hlossless
    · trivial

section Exact

variable {hmac : Hmac} {auth : AuthMode} {state next : ProxyState}

theorem sends_exact {direction : Direction} {chunk : Bytes}
    (htransparent : state.Transparent)
    (hsends : state.sends direction chunk = some next) :
    next.Transparent ↔ state.Spares (.sends direction chunk) := by
  unfold sends at hsends
  split at hsends
  · rename_i hconnects
    have hphase : ∀ username, state.phase ≠ .vpn username := by
      intro username h
      rw [h] at hconnects
      exact absurd hconnects.2 (by simp [ProxyPhase.connects])
    have hlossless := (transparent_iff hphase).mp htransparent
    rw [Spares]
    split at hsends
    · rename_i hreturned
      obtain rfl := Option.some.inj hsends
      rw [transparent_iff (by rwa [setPipe_phase]), lossless_setPipe hlossless,
        Pipe.lossless_sendLost (hlossless.pipe direction)]
      exact ⟨fun hnil _ => hnil, fun hnil => hnil hreturned⟩
    · rename_i hreturned
      obtain rfl := Option.some.inj hsends
      rw [transparent_iff (by rwa [setPipe_phase]), lossless_setPipe hlossless,
        Pipe.lossless_send]
      exact iff_of_true (hlossless.pipe direction)
        fun h => absurd h hreturned
  · cases hsends

/-- A step keeps the session transparent exactly if it gives up no byte. -/
theorem step_exact {event : ProxyEvent} (htransparent : state.Transparent)
    (hstep : state.step hmac auth event = some next) :
    next.Transparent ↔ state.Spares event := by
  have hlossless_of : ∀ {phase : ProxyPhase}, state.phase = phase →
      (∀ username, phase ≠ .vpn username) → state.Lossless := by
    intro phase hphase hprobe
    exact (transparent_iff (hphase ▸ hprobe)).mp htransparent
  cases event with
  | sends direction chunk => exact sends_exact htransparent hstep
  | finishes direction =>
      obtain rfl := Option.some.inj hstep
      refine iff_of_true ?_ trivial
      cases hphase : state.phase with
      | vpn username => simp [Transparent, hphase]
      | _ =>
          have hlossless := hlossless_of hphase (by simp)
          apply transparent_of_lossless
          rw [lossless_setPipe hlossless, Pipe.lossless_close]
          exact hlossless.pipe direction
  | readFirst count =>
      simp only [step, Option.ite_none_right_eq_some] at hstep
      obtain ⟨hphase, hstep⟩ := hstep
      have hlossless := hlossless_of hphase (by simp)
      have hread : ProxyState.Lossless
          { state with c2t := state.c2t.read clientAuthLen count } :=
        ⟨Pipe.lossless_read.mpr hlossless.1, hlossless.2⟩
      refine iff_of_true ?_ trivial
      split at hstep
      · obtain rfl := Option.some.inj hstep
        exact transparent_checkFirst hmac auth hread
      · obtain rfl := Option.some.inj hstep
        exact transparent_of_lossless hread
  | readEof =>
      simp only [step, Option.ite_none_right_eq_some] at hstep
      obtain ⟨⟨hphase, -⟩, hstep⟩ := hstep
      obtain rfl := Option.some.inj hstep
      exact transparent_proxyWithout (hlossless_of hphase (by simp))
  | readError | readTimeout =>
      simp only [step, Option.ite_none_right_eq_some] at hstep
      obtain ⟨hphase, hstep⟩ := hstep
      obtain rfl := Option.some.inj hstep
      exact transparent_proxyWithout (hlossless_of hphase (by simp))
  | connected =>
      simp only [step, Option.ite_none_right_eq_some] at hstep
      obtain ⟨hphase, hstep⟩ := hstep
      obtain rfl := Option.some.inj hstep
      exact iff_of_true
        (transparent_of_lossless (hlossless_of hphase (by simp))) trivial
  | replayed =>
      simp only [step, Option.ite_none_right_eq_some] at hstep
      obtain ⟨hphase, hstep⟩ := hstep
      obtain rfl := Option.some.inj hstep
      have hlossless := hlossless_of hphase (by simp)
      exact iff_of_true (transparent_of_lossless
        ⟨Pipe.lossless_write.mpr hlossless.1, hlossless.2⟩) trivial
  | replayFailed count =>
      simp only [step, Option.ite_none_right_eq_some] at hstep
      obtain ⟨hphase, hstep⟩ := hstep
      obtain rfl := Option.some.inj hstep
      have hlossless := hlossless_of hphase (by simp)
      have hwritten : ProxyState.Lossless
          { state with c2t := state.c2t.write count } :=
        ⟨Pipe.lossless_write.mpr hlossless.1, hlossless.2⟩
      exact transparent_finish hwritten rfl
  | copyReads direction count =>
      simp only [step, Option.ite_none_right_eq_some] at hstep
      obtain ⟨hphase, hstep⟩ := hstep
      obtain rfl := Option.some.inj hstep
      have hlossless := hlossless_of hphase (by simp)
      refine iff_of_true (transparent_of_lossless ?_) trivial
      rw [lossless_setPipe hlossless, Pipe.lossless_read]
      exact hlossless.pipe direction
  | copyWrites direction count =>
      simp only [step, Option.ite_none_right_eq_some] at hstep
      obtain ⟨hphase, hstep⟩ := hstep
      obtain rfl := Option.some.inj hstep
      have hlossless := hlossless_of hphase (by simp)
      refine iff_of_true (transparent_of_lossless ?_) trivial
      rw [lossless_setPipe hlossless, Pipe.lossless_write]
      exact hlossless.pipe direction
  | copyEnds direction =>
      simp only [step, Option.ite_none_right_eq_some] at hstep
      obtain ⟨⟨hphase, -⟩, hstep⟩ := hstep
      obtain rfl := Option.some.inj hstep
      exact transparent_finish (hlossless_of hphase (by simp)) rfl
  | connectFailed | copyFails direction =>
      simp only [step, Option.ite_none_right_eq_some] at hstep
      obtain ⟨hphase, hstep⟩ := hstep
      obtain rfl := Option.some.inj hstep
      exact transparent_finish (hlossless_of hphase (by simp)) rfl

/-- The peers that get past the check are those that the handler of the server
admits. -/
theorem admits_iff_session {session : Session} {server : ServerState}
    {chunks : List Bytes} {username : String}
    (hhandler : session.handler = .tcpReality)
    (hsnapshot : session.authSnapshot = some auth) :
    auth.Admits hmac chunks.flatten username ↔
      ∃ received, session.handler.readAuth chunks = some received ∧
        (session.verify hmac server received.1).1 = some username := by
  have hmode : session.authMode server = auth := by
    simp [Session.authMode, hhandler, hsnapshot]
  rw [← Session.admits_iff, hmode]

/-- While the first message is read nothing was forwarded, only a client gets
past the check, and a handler that has returned holds nothing. -/
def Judged (hmac : Hmac) (auth : AuthMode) (state : ProxyState) : Prop :=
  match state.phase with
  | .readingFirst => state.c2t.delivered = [] ∧ state.c2t.Lossless
  | .vpn username => auth.Admits hmac state.c2t.sent username
  | .failed => state.Idle
  | .ended => state.Idle
  | _ => True

theorem judged_checkFirst (hdelivered : state.c2t.delivered = [])
    (hlossless : state.c2t.Lossless)
    (hfull : state.c2t.buffer.length = clientAuthLen) :
    (state.checkFirst hmac auth).Judged hmac auth := by
  unfold checkFirst
  split
  · trivial
  · rename_i clientAuth hdecode
    split
    · trivial
    · rename_i username hverify
      have hsent : state.c2t.sent.take clientAuthLen = state.c2t.buffer := by
        rw [hlossless, hdelivered, Pipe.inFlight, List.nil_append, ← hfull,
          List.take_left]
      rw [AuthMode.verifyAuth_eq_verify] at hverify
      refine ⟨clientAuth, ?_, hverify⟩
      rw [← ClientAuth.decode_take, hsent, hdecode]

theorem sends_judged {direction : Direction} {chunk : Bytes}
    (hjudged : state.Judged hmac auth)
    (hsends : state.sends direction chunk = some next) :
    next.Judged hmac auth := by
  simp only [sends, Option.ite_none_right_eq_some] at hsends
  obtain ⟨⟨-, hconnects⟩, hsends⟩ := hsends
  cases hphase : state.phase with
  | vpn username => simp [hphase, ProxyPhase.connects] at hconnects
  | readingFirst =>
      cases direction with
      | t2c => simp [hphase, ProxyPhase.connects] at hconnects
      | c2t =>
          simp only [hphase, ProxyPhase.returned, Bool.false_eq_true,
            if_false] at hsends
          obtain rfl := Option.some.inj hsends
          simp only [Judged, hphase] at hjudged
          simp only [Judged, setPipe, hphase]
          exact ⟨hjudged.1, Pipe.lossless_send.mpr hjudged.2⟩
  | failed | ended =>
      simp only [hphase, ProxyPhase.returned, if_true] at hsends
      obtain rfl := Option.some.inj hsends
      simp only [Judged, hphase] at hjudged
      simp only [Judged, setPipe_phase, hphase]
      cases direction with
      | c2t => exact hjudged
      | t2c => exact hjudged
  | connecting | replaying | proxying =>
      simp only [hphase, ProxyPhase.returned, Bool.false_eq_true,
        if_false] at hsends
      obtain rfl := Option.some.inj hsends
      simp [Judged, hphase]

theorem step_judged {event : ProxyEvent} (hjudged : state.Judged hmac auth)
    (hstep : state.step hmac auth event = some next) :
    next.Judged hmac auth := by
  cases event with
  | sends direction chunk => exact sends_judged hjudged hstep
  | finishes direction =>
      obtain rfl := Option.some.inj hstep
      cases direction with
      | c2t => exact hjudged
      | t2c => exact hjudged
  | readFirst count =>
      simp only [step, Option.ite_none_right_eq_some] at hstep
      obtain ⟨hphase, hstep⟩ := hstep
      simp only [Judged, hphase] at hjudged
      have hread : (state.c2t.read clientAuthLen count).Lossless :=
        Pipe.lossless_read.mpr hjudged.2
      split at hstep
      · rename_i hfull
        obtain rfl := Option.some.inj hstep
        exact judged_checkFirst hjudged.1 hread hfull
      · obtain rfl := Option.some.inj hstep
        simp only [Judged, hphase]
        exact ⟨hjudged.1, hread⟩
  | copyReads direction count | copyWrites direction count =>
      simp only [step, Option.ite_none_right_eq_some] at hstep
      obtain ⟨hphase, hstep⟩ := hstep
      obtain rfl := Option.some.inj hstep
      simp [Judged, hphase]
  | connectFailed | replayFailed count | copyEnds direction
  | copyFails direction =>
      simp only [step, Option.ite_none_right_eq_some] at hstep
      obtain ⟨-, hstep⟩ := hstep
      obtain rfl := Option.some.inj hstep
      exact ⟨rfl, rfl⟩
  | readEof | readError | readTimeout | connected | replayed =>
      simp only [step, Option.ite_none_right_eq_some] at hstep
      obtain ⟨-, hstep⟩ := hstep
      obtain rfl := Option.some.inj hstep
      trivial

end Exact

section Drain

variable (hmac : Hmac) (auth : AuthMode)

/-- A step of one of the two copies. -/
def IsCopy : ProxyEvent → Prop
  | .copyReads _ _ => True
  | .copyWrites _ _ => True
  | _ => False

@[simp] theorem pipe_setPipe (state : ProxyState) (pipe : Pipe UInt8)
    (direction : Direction) :
    (state.setPipe pipe direction).pipe direction = pipe := by
  cases direction <;> rfl

@[simp] theorem setPipe_setPipe (state : ProxyState)
    (first second : Pipe UInt8) (direction : Direction) :
    (state.setPipe first direction).setPipe second direction =
      state.setPipe second direction := by
  cases direction <;> rfl

theorem copyWrites_run (state : ProxyState) (hphase : state.phase = .proxying)
    (direction : Direction) (count : Nat) :
    state.step hmac auth (.copyWrites direction count) =
      some (state.setPipe ((state.pipe direction).write count) direction) := by
  simp [step, hphase]

theorem copyReads_run (state : ProxyState) (hphase : state.phase = .proxying)
    (direction : Direction) (count : Nat) :
    state.step hmac auth (.copyReads direction count) =
      some (state.setPipe
        ((state.pipe direction).read copyBufLen count) direction) := by
  simp [step, hphase]

/-- A copy that goes on delivers everything that is in flight. -/
theorem drain_pipe (direction : Direction) (state : ProxyState)
    (hphase : state.phase = .proxying) :
    ∃ copies, (∀ copy ∈ copies, IsCopy copy) ∧
      Machine.run (step hmac auth) state copies =
        some (state.setPipe (state.pipe direction).drained direction) := by
  induction hlen : (state.pipe direction).unread.length using
    Nat.strong_induction_on generalizing state with
  | _ length ih =>
      let out := state.setPipe ((state.pipe direction).write
        (state.pipe direction).buffer.length) direction
      have hout := copyWrites_run hmac auth state hphase direction
        (state.pipe direction).buffer.length
      by_cases hunread : (state.pipe direction).unread = []
      · refine ⟨[.copyWrites direction (state.pipe direction).buffer.length],
          ?_, ?_⟩
        · intro copy hcopy
          rw [List.mem_singleton.mp hcopy]
          trivial
        · rw [Machine.run_cons, hout, Pipe.write_eq_drained hunread]
          rfl
      · have houtPhase : out.phase = .proxying := by
          rw [setPipe_phase, hphase]
        have hread := copyReads_run hmac auth out houtPhase direction copyBufLen
        obtain ⟨copies, hcopies, hrun⟩ := ih
          (((state.pipe direction).write
            (state.pipe direction).buffer.length).read
              copyBufLen copyBufLen).unread.length
          (hlen ▸ Pipe.read_write_unread_lt (by decide) hunread)
          (out.setPipe ((out.pipe direction).read copyBufLen copyBufLen)
            direction)
          (by rw [setPipe_phase, houtPhase])
          (by rw [pipe_setPipe, pipe_setPipe])
        refine ⟨.copyWrites direction (state.pipe direction).buffer.length ::
          .copyReads direction copyBufLen :: copies, ?_, ?_⟩
        · intro copy hcopy
          rcases List.mem_cons.mp hcopy with rfl | hcopy
          · trivial
          · rcases List.mem_cons.mp hcopy with rfl | hcopy
            · trivial
            · exact hcopies copy hcopy
        · rw [Machine.run_cons, hout, Option.bind_some, Machine.run_cons, hread,
            Option.bind_some, hrun]
          simp [out]

/-- Both copies that go on deliver everything that is in flight. -/
theorem drain (state : ProxyState) (hphase : state.phase = .proxying)
    (hlossless : state.Lossless) :
    ∃ copies drained, (∀ copy ∈ copies, IsCopy copy) ∧
      Machine.run (step hmac auth) state copies = some drained ∧
      ∀ direction, (drained.pipe direction).delivered =
        (state.pipe direction).sent := by
  obtain ⟨first, hfirst, hfirstRun⟩ := drain_pipe hmac auth .c2t state hphase
  obtain ⟨second, hsecond, hsecondRun⟩ := drain_pipe hmac auth .t2c
    (state.setPipe (state.pipe .c2t).drained .c2t)
    (by rw [setPipe_phase, hphase])
  let drained := (state.setPipe (state.pipe .c2t).drained .c2t).setPipe
    (state.pipe .t2c).drained .t2c
  refine ⟨first ++ second, drained, ?_, ?_, ?_⟩
  · intro copy hcopy
    rcases List.mem_append.mp hcopy with hcopy | hcopy
    · exact hfirst copy hcopy
    · exact hsecond copy hcopy
  · rw [Machine.run_append, hfirstRun, Option.bind_some]
    exact hsecondRun
  · intro direction
    cases direction with
    | c2t => exact hlossless.1.symm
    | t2c => exact hlossless.2.symm

end Drain

/-- What a handler that has returned did not deliver, it lost. -/
theorem delivered_of_returned {hmac : Hmac} {auth : AuthMode}
    {state : ProxyState} (hjudged : state.Judged hmac auth)
    (hreturned : state.phase.returned = true)
    (htransparent : state.Transparent) (direction : Direction) :
    (state.pipe direction).delivered = (state.pipe direction).sent := by
  have hidle : state.Idle ∧ state.Lossless := by
    cases hphase : state.phase with
    | failed | ended =>
        simp only [Judged, hphase] at hjudged
        simp only [Transparent, hphase] at htransparent
        exact ⟨hjudged, htransparent⟩
    | _ => simp [hphase, ProxyPhase.returned] at hreturned
  have hsent := hidle.2.pipe direction
  have hnone : (state.pipe direction).inFlight = [] := by
    cases direction with
    | c2t => exact hidle.1.1
    | t2c => exact hidle.1.2
  rw [Pipe.Lossless, hnone, List.append_nil] at hsent
  exact hsent.symm

/-- Only a client gets past the handler, and everybody else is deflected
transparently exactly as long as the handler gives up no byte: what it returns
with is delivered in full, and what is in flight while it copies is delivered
by the copies alone. -/
theorem probe_deflection (hmac : Hmac) (auth : AuthMode)
    {events : List ProxyEvent} {final : ProxyState}
    (hrun : Machine.run (step hmac auth) start events = some final) :
    (Machine.Always (step hmac auth) Transparent start events ↔
      Machine.Meets (step hmac auth) Spares start events) ∧
    (∀ username, final.phase = .vpn username →
      auth.Admits hmac final.c2t.sent username) ∧
    (final.phase.returned = true → final.Transparent → ∀ direction,
      (final.pipe direction).delivered = (final.pipe direction).sent) ∧
    (final.phase = .proxying → final.Transparent →
      ∃ copies drained, (∀ copy ∈ copies, IsCopy copy) ∧
        Machine.run (step hmac auth) final copies = some drained ∧
        ∀ direction, (drained.pipe direction).delivered =
          (final.pipe direction).sent) := by
  have hjudged : final.Judged hmac auth :=
    Machine.Reachable.invariant
      (fun _ _ _ hjudged hstep => step_judged hjudged hstep)
      (show start.Judged hmac auth from ⟨rfl, Pipe.lossless_empty⟩)
      ⟨events, hrun⟩
  refine ⟨?_, ?_, ?_, ?_⟩
  · exact Machine.always_iff_meets (fun _ => True)
      (fun _ _ _ _ _ => trivial)
      (fun _ _ _ _ htransparent hstep => step_exact htransparent hstep)
      trivial ⟨Pipe.lossless_empty, Pipe.lossless_empty⟩ hrun
  · intro username hphase
    simpa only [Judged, hphase] using hjudged
  · intro hreturned htransparent
    exact delivered_of_returned hjudged hreturned htransparent
  · intro hphase htransparent
    have hlossless : final.Lossless := by
      simpa only [Transparent, hphase] using htransparent
    exact drain hmac auth final hphase hlossless

/-- A request of 66 bytes in two chunks and its answer; the target closes
first. -/
def deflectedProbe : List ProxyEvent :=
  [.sends .c2t (List.replicate 40 71), .readFirst 40,
    .sends .c2t (List.replicate 26 10), .readFirst 26,
    .connected, .replayed, .sends .t2c [72, 84, 84, 80],
    .copyReads .t2c 4, .copyWrites .t2c 4, .finishes .t2c, .copyEnds .t2c]

theorem probe_deflection_request :
    Machine.Always (step zeroHmac zeroAuth) Transparent start
        deflectedProbe ∧
      ∃ final, Machine.run (step zeroHmac zeroAuth) start deflectedProbe =
          some final ∧
        final.phase = .ended ∧
        final.c2t.delivered =
          List.replicate 40 71 ++ List.replicate 26 10 ∧
        final.t2c.delivered = [72, 84, 84, 80] := by
  have hrun : Machine.run (step zeroHmac zeroAuth) start deflectedProbe =
      some ⟨.ended,
        ⟨List.replicate 40 71 ++ List.replicate 26 10, [], false, [],
          List.replicate 40 71 ++ List.replicate 26 10⟩,
        ⟨[72, 84, 84, 80], [], true, [], [72, 84, 84, 80]⟩⟩ := by
    decide
  have hmeets : Machine.Meets (step zeroHmac zeroAuth) Spares start
      deflectedProbe := by
    decide
  exact ⟨(probe_deflection zeroHmac zeroAuth hrun).1.mpr hmeets,
    _, hrun, rfl, rfl, rfl⟩

/-- A probe of ten bytes and silence, until the first read times out. -/
def silentProbe : List ProxyEvent :=
  [.sends .c2t (List.replicate 10 71), .readFirst 10, .readTimeout,
    .connected, .replayed]

/-- A request of 66 bytes, after which the peer sends no more. -/
def halfClosedProbe : List ProxyEvent :=
  [.sends .c2t (List.replicate 66 71), .finishes .c2t, .readFirst 66,
    .connected, .replayed, .copyEnds .c2t, .sends .t2c [72, 84, 84, 80]]

/-- The target hears nothing of a short probe, and a peer that has finished
hears nothing of the target. -/
theorem short_probe_lost :
    (∃ final, Machine.run (step zeroHmac zeroAuth) start silentProbe =
        some final ∧
      final.phase = .proxying ∧
      final.c2t.sent = List.replicate 10 71 ∧
      final.c2t.delivered = [] ∧ final.c2t.inFlight = [] ∧
      ¬ Machine.Always (step zeroHmac zeroAuth) Transparent start
        silentProbe) ∧
    ∃ final, Machine.run (step zeroHmac zeroAuth) start halfClosedProbe =
        some final ∧
      final.phase = .ended ∧ final.t2c.sent = [72, 84, 84, 80] ∧
      final.t2c.delivered = [] := by
  constructor
  · refine ⟨⟨.proxying, ⟨List.replicate 10 71, [], false, [], []⟩, .empty⟩,
      by decide, rfl, rfl, rfl, rfl, ?_⟩
    intro halways
    have hlossless : (List.replicate 10 (71 : UInt8)) = [] ++ [] :=
      halways.2.2.2.1.1
    cases hlossless
  · refine ⟨⟨.ended, ⟨List.replicate 66 71, [], true, [],
      List.replicate 66 71⟩, ⟨[72, 84, 84, 80], [], false, [], []⟩⟩, ?_,
      rfl, rfl, rfl⟩
    decide

end ProxyState

end Redpill
