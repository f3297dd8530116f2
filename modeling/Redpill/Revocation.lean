/-
Revocation by reload (`reload_config` of `server.rs`).  The server is watched
together with what its operator relies on: which keys were in the key files at
the last reload, and from then on for every handshake whose message is read.
-/
import Redpill.Users
import Redpill.Handshake
import Redpill.HandshakeSteps

namespace Redpill

open ByteStream

/-- The part of a configuration that `reload_config` looks at for the keys. -/
structure ReloadConfig where
  maxConnections : Nat
  usersDir : Option String
  pskFile : String
deriving Repr, DecidableEq

/-- What a reload finds on the disk: the result of `ServerConfig::load`, the
directories, and the files that can be read. -/
structure Disk where
  config : Option ReloadConfig
  dir : String → UsersDir
  file : String → Option Text

/-- `reload_config`. -/
def reloadConfig (state : ServerState) (disk : Disk) : ServerState :=
  match disk.config with
  | none => state
  | some config =>
      let state := { state with maxConnections := config.maxConnections }
      match config.usersDir with
      | some usersDir =>
          match UserStore.load (disk.dir usersDir) with
          | .ok store => { state with auth := .multiUser store }
          | .error _ => state
      | none =>
          match loadPsk (disk.file config.pskFile) with
          | .ok psk => { state with auth := .singlePsk ⟨psk⟩ }
          | .error _ => state

/-- Every reload is one of the reloads of the server. -/
theorem reloadConfig_step (hmac : Hmac) (server : Server) (disk : Disk) :
    ∃ auth maxConnections,
      server.step hmac (.reload auth maxConnections) =
        some { server with state := reloadConfig server.state disk } := by
  unfold reloadConfig
  split
  · exact ⟨none, server.state.maxConnections, rfl⟩
  · rename_i config _
    split
    · split
      · exact ⟨some _, config.maxConnections, rfl⟩
      · exact ⟨none, config.maxConnections, rfl⟩
    · split
      · exact ⟨some _, config.maxConnections, rfl⟩
      · exact ⟨none, config.maxConnections, rfl⟩

/-- The keys that a mode accepts. -/
def AuthMode.psks (mode : AuthMode) : List Bytes32 := mode.keys.map Prod.fst

def Server.phase (server : Server) (index : Nat) : Option Phase :=
  (server.sessions[index]?).map Session.phase

def Server.message (server : Server) (index : Nat) : Option ClientAuth :=
  (server.phase index).bind Phase.message

def Server.passed (server : Server) (index : Nat) : Bool :=
  (server.phase index).any Phase.passed

/-- A handshake that passed the check, with the keys that may have: those in
the key files at the last reload before the message was read, or at a later
one.  Before the first reload with a directory there is no restriction. -/
structure Admission where
  session : Nat
  auth : ClientAuth
  allowed : Option (List Bytes32)
deriving Repr, DecidableEq

/-- The server and what is known of its reloads: the directory of the
configuration in force, the keys in its files at the last reload, for each
session the keys that its message may be made with, and the handshakes that
passed the check. -/
structure WatchedServer where
  server : Server
  usersDir : Option String
  present : Option (List Bytes32)
  allowed : Nat → Option (List Bytes32)
  admissions : List Admission

inductive WatchLabel where
  | sighup (disk : Disk)
  | server (label : ServerLabel)

namespace WatchedServer

def start (server : Server) (usersDir : Option String) : WatchedServer where
  server := server
  usersDir := usersDir
  present := none
  allowed := fun _ => none
  admissions := []

/-- The directory that the operator edits: that of the new configuration, or of
the old one if the new one cannot be loaded. -/
def directory (watched : WatchedServer) (disk : Disk) : Option String :=
  match disk.config with
  | none => watched.usersDir
  | some config => config.usersDir

/-- The keys in the key files at a reload. -/
def filed (watched : WatchedServer) (disk : Disk) : Option (List Bytes32) :=
  (watched.directory disk).map fun path => (disk.dir path).keys

def sighup (watched : WatchedServer) (disk : Disk) : WatchedServer where
  server :=
    { watched.server with state := reloadConfig watched.server.state disk }
  usersDir := watched.directory disk
  present := watched.filed disk
  allowed := fun index =>
    (watched.allowed index).bind fun before =>
      (watched.filed disk).map fun now => before ++ now
  admissions := watched.admissions

/-- Note which messages have been read and which handshakes have passed. -/
def observe (watched : WatchedServer) (label : ServerLabel) (next : Server) :
    WatchedServer where
  server := next
  usersDir := watched.usersDir
  present := watched.present
  allowed := fun index =>
    if watched.server.message index = none ∧ next.message index ≠ none then
      watched.present
    else watched.allowed index
  admissions :=
    match label with
    | .session index _ =>
        match watched.server.message index with
        | some auth =>
            if next.passed index then
              watched.admissions ++ [⟨index, auth, watched.allowed index⟩]
            else watched.admissions
        | none => watched.admissions
    | _ => watched.admissions

/-- The server reloads on SIGHUP only. -/
def step (hmac : Hmac) (watched : WatchedServer) :
    WatchLabel → Option WatchedServer
  | .sighup disk => some (watched.sighup disk)
  | .server (.reload _ _) => none
  | .server label =>
      (watched.server.step hmac label).map (watched.observe label)

/-- Every handshake that passed was made with a key that was allowed to. -/
def Effective (hmac : Hmac) (watched : WatchedServer) : Prop :=
  ∀ admission ∈ watched.admissions, ∀ keys, admission.allowed = some keys →
    ∃ psk ∈ keys, hmac psk admission.auth.nonce = admission.auth.mac

/-- A reload takes every key out of force that is in no key file: the files are
loaded, or there is no such key in force; and no connection over TCP Reality
that has not sent its message yet was accepted with such a key in force. -/
def Revokes (watched : WatchedServer) : WatchLabel → Prop
  | .sighup disk =>
      ∀ path, watched.directory disk = some path →
        (disk.config.isSome = true ∧ (disk.dir path).Sound ∨
          ∀ psk ∈ watched.server.state.auth.psks, psk ∈ (disk.dir path).keys) ∧
        ∀ session ∈ watched.server.sessions,
          session.handler = .tcpReality → session.phase.unread = true →
            ∀ mode, session.authSnapshot = some mode →
              ∀ psk ∈ mode.psks, psk ∈ (disk.dir path).keys
  | .server _ => True

end WatchedServer

/-- The mode of a session is the one in force, or its snapshot. -/
theorem Session.authMode_cases (session : Session) :
    (∀ state, session.authMode state = state.auth) ∨
      ∃ mode, session.handler = .tcpReality ∧
        session.authSnapshot = some mode ∧
        ∀ state, session.authMode state = mode := by
  cases hhandler : session.handler with
  | tcpReality =>
      cases hsnapshot : session.authSnapshot with
      | none => exact Or.inl fun state => by simp [authMode, hhandler, hsnapshot]
      | some mode =>
          exact Or.inr ⟨mode, rfl, rfl,
            fun state => by simp [authMode, hhandler, hsnapshot]⟩
  | _ => exact Or.inl fun state => by simp [authMode, hhandler]

theorem Session.authMode_congr {session next : Session}
    {state later : ServerState} (hhandler : next.handler = session.handler)
    (hsnapshot : next.authSnapshot = session.authSnapshot)
    (hauth : later.auth = state.auth) :
    next.authMode later = session.authMode state := by
  unfold authMode
  rw [hhandler, hsnapshot, hauth]

theorem Session.authMode_start (handler : Handler) (state : ServerState) :
    (Session.start handler state.auth).authMode state = state.auth := by
  cases handler <;> rfl

/-- A reload that loads the files, or that has nothing to take out of force,
leaves no key in force that is in no file. -/
theorem reloadConfig_psks {watched : WatchedServer} {disk : Disk}
    {path : String} (hpath : watched.directory disk = some path)
    (hloads : disk.config.isSome = true ∧ (disk.dir path).Sound ∨
      ∀ psk ∈ watched.server.state.auth.psks, psk ∈ (disk.dir path).keys) :
    ∀ psk ∈ (reloadConfig watched.server.state disk).auth.psks,
      psk ∈ (disk.dir path).keys := by
  unfold reloadConfig
  cases hconfig : disk.config with
  | none => simpa [hconfig] using hloads
  | some config =>
      simp only [WatchedServer.directory, hconfig] at hpath
      simp only [hpath]
      cases hload : UserStore.load (disk.dir path) with
      | ok store =>
          intro psk hpsk
          exact (UserStore.mem_load hload).mp hpsk
      | error error =>
          rcases hloads with ⟨_, hsound⟩ | hforce
          · obtain ⟨store, hstore⟩ := UserStore.load_isOk_iff.mpr hsound
            rw [hload] at hstore
            cases hstore
          · exact hforce

namespace WatchedServer

/-- Whatever is restricted to the keys of some reload is checked with no other
key: the keys in force, those of a session that has not read its message, and
those of one that has. -/
structure Guarded (hmac : Hmac) (watched : WatchedServer) : Prop where
  force : ∀ keys, watched.present = some keys →
    ∀ psk ∈ watched.server.state.auth.psks, psk ∈ keys
  unread : ∀ keys, watched.present = some keys →
    ∀ (index : Nat) (session : Session),
      watched.server.sessions[index]? = some session →
      session.phase.unread = true →
        ∀ psk ∈ (session.authMode watched.server.state).psks, psk ∈ keys
  waiting : ∀ (index : Nat) (session : Session) auth keys,
    watched.server.sessions[index]? = some session →
      session.phase.message = some auth → watched.allowed index = some keys →
        ∀ psk ∈ (session.authMode watched.server.state).psks, psk ∈ keys
  effective : watched.Effective hmac

variable {hmac : Hmac} {watched : WatchedServer}

theorem guarded_start (server : Server) (usersDir : Option String) :
    (start server usersDir).Guarded hmac := by
  have hnone : (start server usersDir).present = none := rfl
  refine ⟨?_, ?_, ?_, ?_⟩
  · intro keys hkeys
    rw [hnone] at hkeys
    cases hkeys
  · intro keys hkeys
    rw [hnone] at hkeys
    cases hkeys
  · intro index session auth keys _ _ hallowed
    cases hallowed
  · intro admission hadmission
    cases hadmission

theorem guarded_sighup {disk : Disk} (hguarded : watched.Guarded hmac)
    (hrevokes : watched.Revokes (.sighup disk)) :
    (watched.sighup disk).Guarded hmac := by
  have hforce : ∀ keys, watched.filed disk = some keys →
      ∀ psk ∈ (reloadConfig watched.server.state disk).auth.psks,
        psk ∈ keys := by
    intro keys hkeys
    obtain ⟨path, hpath, rfl⟩ := Option.map_eq_some_iff.mp hkeys
    exact reloadConfig_psks hpath (hrevokes path hpath).1
  refine ⟨hforce, ?_, ?_, hguarded.effective⟩
  · intro keys hkeys index session hsession hunread
    rcases session.authMode_cases with hmode | ⟨mode, htcp, hsnapshot, hmode⟩
    · rw [hmode]
      exact hforce keys hkeys
    · rw [hmode]
      obtain ⟨path, hpath, rfl⟩ := Option.map_eq_some_iff.mp hkeys
      exact (hrevokes path hpath).2 session (List.mem_of_getElem? hsession)
        htcp hunread mode hsnapshot
  · intro index session auth keys hsession hmessage hallowed psk hpsk
    obtain ⟨before, hbefore, hnow⟩ := Option.bind_eq_some_iff.mp hallowed
    obtain ⟨now, hfiled, rfl⟩ := Option.map_eq_some_iff.mp hnow
    rcases session.authMode_cases with hmode | ⟨mode, _, _, hmode⟩
    · rw [hmode] at hpsk
      exact List.mem_append_right before (hforce now hfiled psk hpsk)
    · have hold := hguarded.waiting index session auth before hsession
        hmessage hbefore psk
      rw [hmode] at hpsk hold
      exact List.mem_append_left now (hold hpsk)

/-- The keys that a session may be checked with are decided when its message
is read, and stay so. -/
theorem observe_allowed {label : ServerLabel} {next : Server} {index : Nat}
    {auth : ClientAuth} (hmessage : next.message index = some auth) :
    (watched.observe label next).allowed index =
      if watched.server.message index = none then watched.present
      else watched.allowed index := by
  simp [observe, hmessage]

theorem message_eq {server : Server} {index : Nat} {session : Session}
    (hsession : server.sessions[index]? = some session) :
    server.message index = session.phase.message := by
  simp [Server.message, Server.phase, hsession]

theorem passed_eq {server : Server} {index : Nat} {session : Session}
    (hsession : server.sessions[index]? = some session) :
    server.passed index = session.phase.passed := by
  simp [Server.passed, Server.phase, hsession]

/-- Where a session of the server comes from: it is new, it was there, or it is
the one that the step is about. -/
theorem step_session {server next : Server} {label : ServerLabel}
    (hstep : server.step hmac label = some next) {index : Nat}
    {session : Session} (hsession : next.sessions[index]? = some session) :
    (∃ handler, session = Session.start handler server.state.auth) ∨
      server.sessions[index]? = some session ∨
      ∃ event before state, label = .session index event ∧
        server.sessions[index]? = some before ∧
        before.step hmac index server.state event = some (state, session) := by
  rcases Server.step_cases hstep with ⟨_, hsame⟩ | ⟨handler, rfl⟩ |
    ⟨moved, event, before, result, rfl, hbefore, hmove, rfl⟩
  · rw [hsame] at hsession
    exact Or.inr (Or.inl hsession)
  · rcases Nat.lt_or_ge index server.sessions.length with hlt | hge
    · rw [List.getElem?_append_left hlt] at hsession
      exact Or.inr (Or.inl hsession)
    · rw [List.getElem?_append_right hge] at hsession
      have hnew := List.mem_of_getElem? hsession
      exact Or.inl ⟨handler, List.mem_singleton.mp hnew⟩
  · by_cases hindex : moved = index
    · subst hindex
      rw [Population.getElem?_set_new hbefore] at hsession
      obtain rfl := Option.some.inj hsession
      exact Or.inr (Or.inr ⟨event, before, result.1, rfl, hbefore, hmove⟩)
    · rw [List.getElem?_set_ne hindex] at hsession
      exact Or.inr (Or.inl hsession)

theorem step_handshake {server next : Server} {label : ServerLabel}
    (hstep : server.step hmac label = some next) {index : Nat}
    {session : Session} (hsession : next.sessions[index]? = some session) :
    (∃ handler, session = Session.start handler server.state.auth) ∨
      ∃ before, server.sessions[index]? = some before ∧
        HandshakeMove hmac server.state before session := by
  rcases step_session hstep hsession with hnew | hold |
    ⟨event, before, state, _, hbefore, hmove⟩
  · exact Or.inl hnew
  · exact Or.inr ⟨session, hold, .same rfl rfl rfl⟩
  · exact Or.inr ⟨before, hbefore, Session.step_handshake hmove⟩

/-- The keys in force change at a reload only. -/
theorem step_auth {server next : Server} {label : ServerLabel}
    (hlabel : ∀ auth maxConnections, label ≠ .reload auth maxConnections)
    (hstep : server.step hmac label = some next) :
    next.state.auth = server.state.auth := by
  rcases (Server.step_configured hstep).2 with hsame |
    ⟨auth, maxConnections, hreload, _⟩
  · exact congrArg Prod.fst hsame
  · exact absurd hreload (hlabel auth maxConnections)

/-- A message passes the check with a key of the mode of its session. -/
theorem passed_with_key {server next : Server} {label : ServerLabel}
    (hstep : server.step hmac label = some next) {index : Nat}
    {auth : ClientAuth} (hmessage : server.message index = some auth)
    (hpassed : next.passed index = true) :
    ∃ session, server.sessions[index]? = some session ∧
      session.phase.message = some auth ∧
      ∃ psk ∈ (session.authMode server.state).psks,
        hmac psk auth.nonce = auth.mac := by
  cases hsession : next.sessions[index]? with
  | none => simp [Server.passed, Server.phase, hsession] at hpassed
  | some session =>
      rw [passed_eq hsession] at hpassed
      rcases step_handshake hstep hsession with ⟨handler, rfl⟩ |
        ⟨before, hbefore, hmove⟩
      · cases hpassed
      · rw [message_eq hbefore] at hmessage
        obtain ⟨username, hverify⟩ := hmove.passed auth hmessage hpassed
        rw [Session.verify_fst] at hverify
        obtain ⟨psk, hpsk, htag⟩ := AuthMode.exists_key_of_verify hverify
        exact ⟨before, hbefore, hmessage, psk,
          List.mem_map_of_mem (f := Prod.fst) hpsk, htag⟩

section Observe

variable {label : ServerLabel} {next : Server}
  (hlabel : ∀ auth maxConnections, label ≠ .reload auth maxConnections)
  (hstep : watched.server.step hmac label = some next)

include hlabel hstep

theorem observe_unread (hguarded : watched.Guarded hmac)
    {keys : List Bytes32} (hkeys : watched.present = some keys) {index : Nat}
    {session : Session} (hsession : next.sessions[index]? = some session)
    (hunread : session.phase.unread = true) :
    ∀ psk ∈ (session.authMode next.state).psks, psk ∈ keys := by
  have hauth := step_auth hlabel hstep
  rcases step_handshake hstep hsession with ⟨handler, rfl⟩ |
    ⟨before, hbefore, hmove⟩
  · have hmode : (Session.start handler watched.server.state.auth).authMode
        next.state = watched.server.state.auth := by
      rw [← hauth]
      exact Session.authMode_start handler next.state
    rw [hmode]
    exact hguarded.force keys hkeys
  · rw [Session.authMode_congr hmove.handler hmove.snapshot hauth]
    exact hguarded.unread keys hkeys index before hbefore
      (hmove.unread hunread)

theorem observe_waiting (hguarded : watched.Guarded hmac) {index : Nat}
    {session : Session} (hsession : next.sessions[index]? = some session)
    {auth : ClientAuth} (hmessage : session.phase.message = some auth)
    {keys : List Bytes32}
    (hallowed : (watched.observe label next).allowed index = some keys) :
    ∀ psk ∈ (session.authMode next.state).psks, psk ∈ keys := by
  have hauth := step_auth hlabel hstep
  rw [observe_allowed ((message_eq hsession).trans hmessage)] at hallowed
  rcases step_handshake hstep hsession with ⟨handler, rfl⟩ |
    ⟨before, hbefore, hmove⟩
  · cases hmessage
  · rw [Session.authMode_congr hmove.handler hmove.snapshot hauth]
    rw [message_eq hbefore] at hallowed
    rcases hmove.read auth hmessage with hread | hunread
    · rw [hread, if_neg (Option.some_ne_none auth)] at hallowed
      exact hguarded.waiting index before auth keys hbefore hread hallowed
    · rw [if_pos (Phase.message_of_unread hunread)] at hallowed
      exact hguarded.unread keys hallowed index before hbefore hunread

/-- A handshake passes only with a key that it was restricted to. -/
theorem observe_effective (hguarded : watched.Guarded hmac) :
    (watched.observe label next).Effective hmac := by
  intro admission hadmission keys hkeys
  have hold := hguarded.effective admission
  unfold observe at hadmission
  split at hadmission
  · rename_i index event
    split at hadmission
    · rename_i auth hmessage
      split at hadmission
      · rename_i hpassed
        rcases List.mem_append.mp hadmission with hadmission | hadmission
        · exact hold hadmission keys hkeys
        · obtain rfl := List.mem_singleton.mp hadmission
          obtain ⟨session, hsession, hwaits, psk, hpsk, htag⟩ :=
            passed_with_key hstep hmessage hpassed
          exact ⟨psk, hguarded.waiting index session auth keys hsession hwaits
            hkeys psk hpsk, htag⟩
      · exact hold hadmission keys hkeys
    · exact hold hadmission keys hkeys
  · exact hold hadmission keys hkeys

end Observe

/-- Every session past the check has been admitted. -/
def Recorded (watched : WatchedServer) : Prop :=
  ∀ (index : Nat) (session : Session),
    watched.server.sessions[index]? = some session →
      session.phase.established = true →
        ∃ admission ∈ watched.admissions, admission.session = index

theorem mem_observe {label : ServerLabel} {next : Server}
    {admission : Admission} (hmem : admission ∈ watched.admissions) :
    admission ∈ (watched.observe label next).admissions := by
  unfold observe
  split
  · split
    · split
      · exact List.mem_append_left _ hmem
      · exact hmem
    · exact hmem
  · exact hmem

theorem recorded_observe {label : ServerLabel} {next : Server}
    (hrecorded : watched.Recorded)
    (hstep : watched.server.step hmac label = some next) :
    (watched.observe label next).Recorded := by
  intro index session hsession hestablished
  rcases step_session hstep hsession with ⟨handler, rfl⟩ | hold |
    ⟨event, before, state, rfl, hbefore, hmove⟩
  · cases hestablished
  · obtain ⟨admission, hmem, hindex⟩ :=
      hrecorded index session hold hestablished
    exact ⟨admission, mem_observe hmem, hindex⟩
  · rcases Session.step_established hmove hestablished with hwas |
      ⟨⟨auth, hmessage⟩, hpassed⟩
    · obtain ⟨admission, hmem, hindex⟩ := hrecorded index before hbefore hwas
      exact ⟨admission, mem_observe hmem, hindex⟩
    · refine ⟨⟨index, auth, watched.allowed index⟩, ?_, rfl⟩
      have hmessage' := (message_eq hbefore).trans hmessage
      have hpassed' : next.passed index = true :=
        (passed_eq hsession).trans hpassed
      simp [observe, hmessage', hpassed']

theorem observe_eq_of_step {next : WatchedServer} {label : ServerLabel}
    (hstep : watched.step hmac (.server label) = some next) :
    (∀ auth maxConnections, label ≠ .reload auth maxConnections) ∧
      ∃ server, watched.server.step hmac label = some server ∧
        next = watched.observe label server := by
  have hlabel : ∀ auth maxConnections,
      label ≠ .reload auth maxConnections := by
    intro auth maxConnections h
    rw [h] at hstep
    cases hstep
  have hobserved : (watched.server.step hmac label).map
      (watched.observe label) = some next := by
    cases label with
    | reload auth maxConnections => exact absurd rfl (hlabel _ _)
    | _ => exact hstep
  obtain ⟨server, hserver, rfl⟩ := Option.map_eq_some_iff.mp hobserved
  exact ⟨hlabel, server, hserver, rfl⟩

/-- The server that is watched runs as it does otherwise. -/
theorem reachable_server {server : Server} {usersDir : Option String}
    (hreach : Machine.Reachable (step hmac) (start server usersDir) watched) :
    Machine.Reachable (Server.step hmac) server watched.server := by
  apply Machine.Reachable.project WatchedServer.server _ hreach
  intro before label after hstep
  refine Or.inr ?_
  cases label with
  | sighup disk =>
      obtain ⟨auth, maxConnections, hreload⟩ :=
        reloadConfig_step hmac before.server disk
      obtain rfl := Option.some.inj hstep
      exact ⟨.reload auth maxConnections, hreload⟩
  | server label =>
      obtain ⟨_, next, hnext, rfl⟩ := observe_eq_of_step hstep
      exact ⟨label, hnext⟩

theorem recorded_step {next : WatchedServer} {label : WatchLabel}
    (hrecorded : watched.Recorded)
    (hstep : watched.step hmac label = some next) : next.Recorded := by
  cases label with
  | sighup disk =>
      obtain rfl := Option.some.inj hstep
      exact hrecorded
  | server label =>
      obtain ⟨_, server, hserver, rfl⟩ := observe_eq_of_step hstep
      exact recorded_observe hrecorded hserver

theorem guarded_step {next : WatchedServer} {label : WatchLabel}
    (hguarded : watched.Guarded hmac) (hrevokes : watched.Revokes label)
    (hstep : watched.step hmac label = some next) : next.Guarded hmac := by
  cases label with
  | sighup disk =>
      obtain rfl := Option.some.inj hstep
      exact guarded_sighup hguarded hrevokes
  | server label =>
      obtain ⟨hlabel, server, hserver, rfl⟩ := observe_eq_of_step hstep
      refine ⟨?_, ?_, ?_, ?_⟩
      · intro keys hkeys
        rw [show (watched.observe label server).server.state.auth =
          watched.server.state.auth from step_auth hlabel hserver]
        exact hguarded.force keys hkeys
      · intro keys hkeys index session hsession hunread
        exact observe_unread hlabel hserver hguarded hkeys hsession hunread
      · intro index session auth keys hsession hmessage hallowed
        exact observe_waiting hlabel hserver hguarded hsession hmessage
          hallowed
      · exact observe_effective hlabel hserver hguarded

/-- Effective revocation: in every run whose reloads take the removed keys out
of force, no handshake whose message is read after a reload establishes a
session with a key that is in no key file of that reload or of a later one. -/
theorem effective_revocation (hmac : Hmac) (auth : AuthMode)
    (base serverIp dnsIp : Ipv4Addr)
    (mtu maxConnections maxBandwidthMbps : Nat) (usersDir : Option String)
    {labels : List WatchLabel} {final : WatchedServer}
    (hrevokes : Machine.Meets (step hmac) Revokes
      (start (Server.start auth base serverIp dnsIp mtu maxConnections
        maxBandwidthMbps) usersDir) labels)
    (hrun : Machine.run (step hmac)
      (start (Server.start auth base serverIp dnsIp mtu maxConnections
        maxBandwidthMbps) usersDir) labels = some final) :
    final.Effective hmac ∧
      ∀ (index : Nat) (session : Session),
        final.server.sessions[index]? = some session →
          session.phase.established = true →
            ∃ admission ∈ final.admissions, admission.session = index := by
  have hguarded : final.Guarded hmac :=
    Machine.run_invariant_of_meets
      (fun _ _ _ hguarded hrevokes hstep =>
        guarded_step hguarded hrevokes hstep)
      (guarded_start _ usersDir) hrevokes hrun
  have hstart : (start (Server.start auth base serverIp dnsIp mtu
      maxConnections maxBandwidthMbps) usersDir).Recorded := by
    intro index session hsession
    cases hsession
  have hrecorded : final.Recorded :=
    Machine.Reachable.invariant
      (fun _ _ _ hrecorded hstep => recorded_step hrecorded hstep)
      hstart ⟨labels, hrun⟩
  exact ⟨hguarded.effective, hrecorded⟩

/-- Between reloads the server does as it likes. -/
theorem meets_server (labels : List ServerLabel) (watched : WatchedServer) :
    Machine.Meets (step hmac) Revokes watched (labels.map .server) := by
  induction labels generalizing watched with
  | nil => trivial
  | cons label rest ih =>
      refine ⟨trivial, ?_⟩
      cases watched.step hmac (.server label) with
      | none => trivial
      | some next => exact ih next

end WatchedServer

/-- A keyed hash that tells keys apart. -/
def keyHmac : Hmac := fun psk _ => psk

def alicePsk : Bytes32 := .replicate 0x11

/-- The only user is alice. -/
def aliceStore : UserStore := ⟨[(alicePsk, "alice")], List.nodup_singleton _⟩

def aliceServer : Server :=
  Server.start (.multiUser aliceStore) ⟨10, 0, 1, 0⟩ ⟨10, 0, 1, 1⟩ ⟨1, 1, 1, 1⟩
    1200 16 100

/-- The message of alice. -/
def presentAlice : ServerLabel :=
  .session 0 (.resume (.message
    [(ClientAuth.mk zeroBytes32 alicePsk 1).encode]))

/-- The steps that take alice over QUIC to her tunnel. -/
def connectAlice : List ServerLabel :=
  [.accept .vpn, proceed 0, proceed 0, proceed 0, presentAlice, proceed 0,
    proceed 0, proceed 0, proceed 0, proceed 0]

/-- A reload that finds these files in the directory of the users. -/
def usersDisk (entries : List DirEntry) : Disk where
  config := some ⟨16, some "users", "psk.key"⟩
  dir := fun _ => ⟨true, true, entries, nofun⟩
  file := fun _ => none

def aliceKey : DirEntry :=
  ⟨true, some "alice", some "key", true, List.replicate 64 '1' ++ ['\n']⟩

/-- A file that is not a key yet. -/
def bobKey : DirEntry := ⟨true, some "bob", some "key", true, ['o', 'o', 'p']⟩

namespace WatchedServer

/-- What can be seen of a run in the end. -/
def summary (watched : WatchedServer) : List Admission × List Phase :=
  (watched.admissions, watched.server.sessions.map Session.phase)

theorem effective_revocation_alice :
    ∃ final, Machine.run (step keyHmac) (start aliceServer (some "users"))
        (.sighup (usersDisk [aliceKey]) :: connectAlice.map .server) =
          some final ∧
      final.admissions =
        [⟨0, ⟨zeroBytes32, alicePsk, 1⟩, some [alicePsk]⟩] ∧
      final.Effective keyHmac := by
  have hsummary : (Machine.run (step keyHmac)
      (start aliceServer (some "users"))
      (.sighup (usersDisk [aliceKey]) :: connectAlice.map .server)).map
        summary =
      some ([⟨0, ⟨zeroBytes32, alicePsk, 1⟩, some [alicePsk]⟩],
        [.tunnelling "alice" ⟨10, 0, 1, 2⟩]) := by
    decide
  obtain ⟨final, hrun, hfinal⟩ := Option.map_eq_some_iff.mp hsummary
  have hrevokes : (start aliceServer (some "users")).Revokes
      (.sighup (usersDisk [aliceKey])) := by
    intro path hpath
    obtain rfl := Option.some.inj hpath
    refine ⟨Or.inl ⟨rfl, by decide⟩, ?_⟩
    intro session hsession
    cases hsession
  have hmeets : Machine.Meets (step keyHmac) Revokes
      (start aliceServer (some "users"))
      (.sighup (usersDisk [aliceKey]) :: connectAlice.map .server) :=
    ⟨hrevokes, meets_server connectAlice _⟩
  have heffective := (effective_revocation keyHmac (.multiUser aliceStore)
    ⟨10, 0, 1, 0⟩ ⟨10, 0, 1, 1⟩ ⟨1, 1, 1, 1⟩ 1200 16 100 (some "users")
    hmeets hrun).1
  exact ⟨final, hrun, congrArg Prod.fst hfinal, heffective⟩

theorem not_effective {hmac : Hmac} {watched : WatchedServer}
    {admission : Admission} (hmem : admission ∈ watched.admissions)
    (hallowed : admission.allowed = some []) : ¬ watched.Effective hmac := by
  intro heffective
  obtain ⟨psk, hpsk, _⟩ := heffective admission hmem [] hallowed
  cases hpsk

/-- The connection of alice over TCP was accepted before the reload that finds
no key file, and sends its message after it. -/
def acceptedAlice : List WatchLabel :=
  [.server (.accept .tcpReality), .sighup (usersDisk []), .server (proceed 0),
    .server presentAlice] ++ List.replicate 6 (.server (proceed 0))

/-- The key file of alice is gone.  She still gets her tunnel after the reload
because the file of bob does not hold a key, or over a connection that was
accepted before. -/
theorem revoked_user_admitted :
    (∃ final, Machine.run (step keyHmac) (start aliceServer (some "users"))
        (.sighup (usersDisk [bobKey]) :: connectAlice.map .server) =
          some final ∧
      final.server.sessions.map Session.phase =
        [.tunnelling "alice" ⟨10, 0, 1, 2⟩] ∧
      ¬ final.Effective keyHmac) ∧
    ∃ final, Machine.run (step keyHmac) (start aliceServer (some "users"))
        acceptedAlice = some final ∧
      final.server.sessions.map Session.phase =
        [.tunnelling "alice" ⟨10, 0, 1, 2⟩] ∧
      ¬ final.Effective keyHmac := by
  constructor
  · have hsummary : (Machine.run (step keyHmac)
        (start aliceServer (some "users"))
        (.sighup (usersDisk [bobKey]) :: connectAlice.map .server)).map
          summary =
        some ([⟨0, ⟨zeroBytes32, alicePsk, 1⟩, some []⟩],
          [.tunnelling "alice" ⟨10, 0, 1, 2⟩]) := by
      decide
    obtain ⟨final, hrun, hfinal⟩ := Option.map_eq_some_iff.mp hsummary
    refine ⟨final, hrun, congrArg Prod.snd hfinal, ?_⟩
    have hadmissions : final.admissions =
        [⟨0, ⟨zeroBytes32, alicePsk, 1⟩, some []⟩] :=
      congrArg Prod.fst hfinal
    exact not_effective (hadmissions ▸ List.mem_cons_self) rfl
  · have hsummary : (Machine.run (step keyHmac)
        (start aliceServer (some "users")) acceptedAlice).map summary =
        some ([⟨0, ⟨zeroBytes32, alicePsk, 1⟩, some []⟩],
          [.tunnelling "alice" ⟨10, 0, 1, 2⟩]) := by
      decide
    obtain ⟨final, hrun, hfinal⟩ := Option.map_eq_some_iff.mp hsummary
    refine ⟨final, hrun, congrArg Prod.snd hfinal, ?_⟩
    have hadmissions : final.admissions =
        [⟨0, ⟨zeroBytes32, alicePsk, 1⟩, some []⟩] :=
      congrArg Prod.fst hfinal
    exact not_effective (hadmissions ▸ List.mem_cons_self) rfl

end WatchedServer

end Redpill
