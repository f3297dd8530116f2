/-
One shaper for all clients.  Every packet to or from a client takes tokens from
the same bucket, and every RTT sample moves the same rate.  The events of the
data path that reach the shaper carry the address of their client here, so that
two runs can be compared on the events of one client.
-/
import Redpill.Accounting
import Redpill.ShaperBound

namespace Redpill

open ByteStream

/-- What the data path brings to the shaper: a packet from or to a client, or an
RTT sample of its session.  A packet of the TUN that is not IPv4 has no
client. -/
inductive DataEvent where
  | packet (client : Option Ipv4Addr) (now bytes : Nat)
  | rttSample (client : Option Ipv4Addr) (rtt : Nat)
deriving Repr, DecidableEq

namespace DataEvent

def client : DataEvent → Option Ipv4Addr
  | packet client _ _ => client
  | rttSample client _ => client

def time : DataEvent → Option Nat
  | packet _ now _ => some now
  | rttSample _ _ => none

/-- The decision about a packet, and the shaper after the event. -/
def apply (shaper : AdaptiveShaper) : DataEvent → Option Bool × AdaptiveShaper
  | packet _ now bytes =>
      let checked := shaper.check bytes now
      (some checked.1, checked.2)
  | rttSample _ rtt => (none, shaper.updateRtt rtt)

end DataEvent

/-- The shaper after some events. -/
def AdaptiveShaper.after (shaper : AdaptiveShaper)
    (events : List DataEvent) : AdaptiveShaper :=
  events.foldl (fun shaper event => (event.apply shaper).2) shaper

/-- The decisions about the packets of one client, in order. -/
def AdaptiveShaper.decisions (client : Ipv4Addr) :
    AdaptiveShaper → List DataEvent → List Bool
  | _, [] => []
  | shaper, event :: rest =>
      let applied := event.apply shaper
      if event.client = some client then
        applied.1.toList ++ decisions client applied.2 rest
      else decisions client applied.2 rest

/-- The events of one client. -/
def ownEvents (client : Ipv4Addr) (events : List DataEvent) :
    List DataEvent :=
  events.filter fun event => decide (event.client = some client)

/-- Packets come in the order of time. -/
def InTime (events : List DataEvent) : Prop :=
  (events.filterMap DataEvent.time).Pairwise (· ≤ ·)

/-- The event of a packet of the uplink that passes the source check. -/
def uplinkEvent (clientIp : Ipv4Addr) (packet : Bytes) (now : Nat) :
    Option DataEvent :=
  if validateSourceIp packet clientIp then
    some (.packet (some clientIp) (now / 1000) packet.length)
  else none

/-- What a step of a session brings to the shaper. -/
def Session.dataEvent (session : Session) : SessionEvent → Option DataEvent
  | .receive data now =>
      match session.phase, session.handler with
      | .tunnelling _ clientIp, .vpn =>
          if data = [] then none else uplinkEvent clientIp data now
      | .tunnelling _ clientIp, .vpnH3 =>
          if data = [] then none
          else if versionNibble data ≠ 4 ∧ versionNibble data ≠ 6 then none
          else uplinkEvent clientIp (stripPadding data) now
      | _, _ => none
  | .frame now =>
      match session.phase, readFrame session.pktBuf session.received with
      | .tunnelling _ clientIp, .frame packet _ _ =>
          uplinkEvent clientIp packet now
      | _, _ => none
  | .rttSample rtt => some (.rttSample session.assigned rtt)
  | _ => none

/-- What a step of the server brings to the shaper. -/
def Server.dataEvent (server : Server) : ServerLabel → Option DataEvent
  | .readTun now =>
      match server.state.tun with
      | [] => none
      | packet :: _ =>
          let ipPkt := packet.bytes.take tunBufLen
          if ipPkt = [] then none
          else some (.packet (extractDstIpv4 ipPkt) (now / 1000) ipPkt.length)
  | .session index event =>
      server.sessions[index]?.bind fun session => session.dataEvent event
  | _ => none

theorem ServerState.writeTun_shaper (state : ServerState) (index : Nat)
    (packet source : Bytes) :
    (state.writeTun index packet source).shaper = state.shaper := by
  unfold writeTun
  split <;> rfl

theorem ServerState.shapedWrite_shaper (state : ServerState) (index : Nat)
    (clientIp : Ipv4Addr) (packet source : Bytes) (now : Nat) :
    (state.shapedWrite index clientIp packet source now).shaper =
      state.shaper.after (uplinkEvent clientIp packet now).toList := by
  by_cases hvalid : validateSourceIp packet clientIp = true
  · by_cases hadmitted :
        (state.shaper.check packet.length (now / 1000)).1 = true
    · simp [shapedWrite, hvalid, hadmitted, uplinkEvent, writeTun_shaper,
        AdaptiveShaper.after, DataEvent.apply]
    · simp [shapedWrite, hvalid, hadmitted, uplinkEvent,
        AdaptiveShaper.after, DataEvent.apply]
  · simp [shapedWrite, hvalid, uplinkEvent, AdaptiveShaper.after]

theorem ServerState.readTun_shaper {state next : ServerState} {now : Nat}
    {sessions : List Session} (h : state.readTun now = some next) :
    next.shaper = state.shaper.after
      (Server.dataEvent ⟨state, sessions⟩ (.readTun now)).toList := by
  unfold ServerState.readTun at h
  split at h
  · cases h
  · rename_i packet rest htun
    simp only [Server.dataEvent, htun]
    simp only at h
    split at h
    · rename_i hempty
      cases h
      simp [hempty, AdaptiveShaper.after]
    · rename_i hne
      simp only [hne, if_false, Option.toList_some]
      split at h
      · cases h
        rfl
      · split at h
        · cases h
          rfl
        · cases h
          rfl

theorem Session.resume_shaper {hmac : Hmac} {state : ServerState}
    {session : Session} {outcome : Outcome} {next : ServerState × Session}
    (h : session.resume hmac state outcome = some next) :
    next.1.shaper = state.shaper := by
  obtain ⟨_, _, _, _, hstate⟩ := Session.resume_frame h
  rw [hstate]

theorem Session.receive_shaper {index : Nat} {state : ServerState}
    {session : Session} {data : Bytes} {now : Nat}
    {next : ServerState × Session}
    (h : session.receive index state data now = some next) :
    next.1.shaper = state.shaper.after
      (session.dataEvent (.receive data now)).toList := by
  unfold Session.receive at h
  split at h
  · rename_i username clientIp hphase
    simp only [Session.dataEvent, hphase]
    split at h
    · rename_i hhandler
      cases h
      simp only [hhandler, ServerState.receiveDatagram]
      split
      · rfl
      · exact state.shapedWrite_shaper index clientIp data data now
    · rename_i hhandler
      cases h
      simp only [hhandler, ServerState.receiveDatagram, if_true]
      split
      · rfl
      · split
        · rfl
        · exact state.shapedWrite_shaper index clientIp (stripPadding data)
            data now
    · rename_i hhandler
      cases h
      simp [hhandler, AdaptiveShaper.after]
    · rename_i hhandler
      cases h
      simp only [hhandler, ServerState.receiveMessage]
      split
      · rfl
      · exact state.writeTun_shaper index data data
  · cases h

theorem Session.frame_shaper {index : Nat} {state : ServerState}
    {session : Session} {now : Nat} {next : ServerState × Session}
    (h : session.frame index state now = some next) :
    next.1.shaper = state.shaper.after
      (session.dataEvent (.frame now)).toList := by
  unfold Session.frame at h
  split at h
  · rename_i username clientIp hphase _
    simp only [Session.dataEvent, hphase]
    split at h
    · cases h
    · rename_i hframe
      cases h
      simp [hframe, AdaptiveShaper.after]
    · rename_i packet pktBuf rest hframe
      cases h
      simp only [hframe]
      exact state.shapedWrite_shaper index clientIp packet packet now
  · cases h

theorem Session.step_shaper {hmac : Hmac} {index : Nat} {state : ServerState}
    {session : Session} {event : SessionEvent} {next : ServerState × Session}
    (h : session.step hmac index state event = some next) :
    next.1.shaper = state.shaper.after (session.dataEvent event).toList := by
  cases event with
  | resume outcome => exact Session.resume_shaper h
  | receive data now => exact Session.receive_shaper h
  | frame now => exact Session.frame_shaper h
  | rttSample rtt =>
      obtain rfl := Session.rttSample_cases h
      rfl
  | forward now =>
      obtain ⟨_, _, rfl⟩ := Session.forward_cases h
      rfl
  | readTun =>
      obtain ⟨_, _, _, _, _, rfl⟩ := Session.readTun_cases h
      rfl
  | stopForwarding =>
      obtain rfl := Session.stopForwarding_cases h
      rfl

theorem Server.step_shaper {hmac : Hmac} {server next : Server}
    {label : ServerLabel} (h : server.step hmac label = some next) :
    next.state.shaper =
      server.state.shaper.after (server.dataEvent label).toList := by
  cases label with
  | accept handler =>
      simp only [Server.step] at h
      split at h
      · cases h
        rfl
      · cases h
        rfl
  | reload auth maxConnections =>
      cases h
      rfl
  | arrive bytes =>
      cases h
      rfl
  | readTun now =>
      obtain ⟨state, hread, rfl⟩ := Option.map_eq_some_iff.mp h
      exact ServerState.readTun_shaper hread
  | session index event =>
      simp only [Server.step] at h
      split at h
      · cases h
      · rename_i session hsession
        obtain ⟨moved, hmoved, rfl⟩ := Option.map_eq_some_iff.mp h
        have hshaper := Session.step_shaper hmoved
        simpa [Server.dataEvent, hsession] using hshaper

/-- The events that a run of the server brings to the shaper. -/
def Server.dataEvents (hmac : Hmac) : Server → List ServerLabel →
    List DataEvent
  | _, [] => []
  | server, label :: rest =>
      (server.dataEvent label).toList ++
        match server.step hmac label with
        | some next => Server.dataEvents hmac next rest
        | none => []

/-- The shaper of the server is the one that its events make. -/
theorem Server.run_shaper {hmac : Hmac} {server final : Server}
    {schedule : List ServerLabel}
    (hrun : Machine.run (Server.step hmac) server schedule = some final) :
    final.state.shaper =
      server.state.shaper.after (server.dataEvents hmac schedule) := by
  induction schedule generalizing server with
  | nil =>
      rw [Machine.run_nil, Option.some.injEq] at hrun
      rw [hrun]
      rfl
  | cons label rest ih =>
      obtain ⟨next, hnext, htail⟩ := (Machine.run_cons_eq_some _).mp hrun
      rw [ih htail, Server.step_shaper hnext, Server.dataEvents, hnext]
      simp [AdaptiveShaper.after, List.foldl_append]

namespace AdaptiveShaper

variable {shaper : AdaptiveShaper} {rate : Nat}

theorem decisions_append (client : Ipv4Addr) (shaper : AdaptiveShaper)
    (first second : List DataEvent) :
    shaper.decisions client (first ++ second) =
      shaper.decisions client first ++
        (shaper.after first).decisions client second := by
  induction first generalizing shaper with
  | nil => rfl
  | cons event rest ih =>
      simp only [List.cons_append, decisions, ih]
      split
      · rw [List.append_assoc]
        rfl
      · rfl

/-- The events of others bring no decision. -/
theorem decisions_of_others {client : Ipv4Addr} (shaper : AdaptiveShaper)
    {events : List DataEvent}
    (hothers : ∀ event ∈ events, event.client ≠ some client) :
    shaper.decisions client events = [] := by
  induction events generalizing shaper with
  | nil => rfl
  | cons event rest ih =>
      obtain ⟨hevent, hrest⟩ := List.forall_mem_cons.mp hothers
      rw [decisions, if_neg hevent]
      exact ih _ hrest

/-- Without a cap no event changes the shaper, and every packet passes. -/
theorem apply_unlimited (hrate : shaper.rateLimiter.bucket.rate = 0)
    (hmax : shaper.maxRate = 0) (event : DataEvent) :
    (event.apply shaper).2 = shaper ∧
      (event.apply shaper).1 = event.time.map fun _ => true := by
  cases event with
  | packet client now bytes =>
      simp [DataEvent.apply, check, RateLimiter.check, TokenBucket.check,
        hrate, DataEvent.time]
  | rttSample client rtt =>
      simp [DataEvent.apply, updateRtt, hmax, DataEvent.time]

theorem decisions_unlimited (hrate : shaper.rateLimiter.bucket.rate = 0)
    (hmax : shaper.maxRate = 0) (client : Ipv4Addr)
    (events : List DataEvent) :
    shaper.decisions client events =
      (ownEvents client events).filterMap fun event =>
        event.time.map fun _ => true := by
  induction events with
  | nil => rfl
  | cons event rest ih =>
      obtain ⟨hshaper, hdecision⟩ := apply_unlimited hrate hmax event
      simp only [decisions, hshaper, hdecision, ih, ownEvents,
        List.filter_cons, decide_eq_true_eq]
      by_cases hown : event.client = some client
      · cases htime : event.time <;> simp [hown, htime]
      · simp [hown]

/-- A shaper whose rate the RTT samples have brought to `rate`, with the bucket
that belongs to it. -/
structure Steered (rate : Nat) (shaper : AdaptiveShaper) : Prop where
  maxRate : shaper.maxRate ≠ 0
  minRate : shaper.minRate = 125000
  baseRtt : shaper.baseRtt = 0
  currentRate : shaper.currentRate = rate
  bucketRate : shaper.rateLimiter.bucket.rate = rate
  burst : shaper.rateLimiter.bucket.burst = rate / 10
  tokens : shaper.rateLimiter.bucket.tokens ≤ u64Mul (rate / 10) 1000
  lastRefill : shaper.rateLimiter.bucket.lastRefill = 0

theorem capOf_lt (mbps : Nat) : capOf mbps < 2 ^ 61 := by
  unfold capOf
  split
  · have hproduct : u64Mul mbps 1000000 < 2 ^ 64 := Nat.mod_lt _ (by decide)
    omega
  · decide

theorem rateLimiter_new (mbps : Nat) :
    RateLimiter.new mbps =
      ⟨TokenBucket.new (capOf mbps) (capOf mbps / 10), 0, 0⟩ := by
  have hcap : u64Mul mbps 1000000 / 8 = capOf mbps := by
    unfold capOf
    split
    · rfl
    · have hzero : mbps = 0 := by omega
      rw [hzero]
      rfl
  rw [RateLimiter.new, hcap]
  by_cases hpos : 0 < capOf mbps
  · simp [hpos]
  · have hzero : capOf mbps = 0 := by omega
    simp [hzero]

/-- The first sample sets the base and leaves the rate at the cap. -/
theorem steered_new {mbps : Nat} (hcap : capOf mbps ≠ 0) :
    Steered (capOf mbps) ((new mbps).updateRtt 0) := by
  have hlt := capOf_lt mbps
  have hsum : u64Add (capOf mbps) (capOf mbps / 20) =
      capOf mbps + capOf mbps / 20 := Nat.mod_eq_of_lt (by omega)
  have hrate : min (u64Add (capOf mbps) (capOf mbps / 20)) (capOf mbps) =
      capOf mbps := by
    rw [hsum]
    omega
  have hupdate : (new mbps).updateRtt 0 = { new mbps with baseRtt := 0 } := by
    simp [updateRtt, new, hcap, adaptedRate, qdelayLow, hrate, u64Max]
  rw [hupdate]
  constructor
  · exact hcap
  · rfl
  · rfl
  · rfl
  · simp [new, rateLimiter_new, TokenBucket.new]
  · simp [new, rateLimiter_new, TokenBucket.new]
  · simp [new, rateLimiter_new, TokenBucket.new]
  · simp [new, rateLimiter_new, TokenBucket.new]

/-- A sample that is 30 ms above the base lowers the rate by a tenth, down to
the smallest rate. -/
theorem Steered.sample (h : Steered rate shaper) :
    Steered (max (rate - rate / 10) 125000) (shaper.updateRtt 30000) := by
  have hadapted : adaptedRate { shaper with baseRtt := 0 } 30000 =
      max (rate - rate / 10) 125000 := by
    simp [adaptedRate, qdelayLow, qdelayHigh, h.currentRate, h.minRate]
  have hupdate : shaper.updateRtt 30000 =
      if max (rate - rate / 10) 125000 = rate then shaper
      else { shaper with
        currentRate := max (rate - rate / 10) 125000
        rateLimiter := shaper.rateLimiter.setRate
          (max (rate - rate / 10) 125000) } := by
    have hbase := h.baseRtt
    have hmax := h.maxRate
    have hcurrent := h.currentRate
    obtain ⟨limiter, baseRtt, currentRate, minRate, maxRate⟩ := shaper
    simp only at hbase hmax hcurrent hadapted
    subst hbase hcurrent
    simp [updateRtt, hmax, hadapted, u64Max]
  rw [hupdate]
  generalize hlowered : max (rate - rate / 10) 125000 = lowered
  have hpos : 0 < lowered := by omega
  split
  · rename_i hsame
    rw [hsame]
    exact h
  · constructor
    · exact h.maxRate
    · exact h.minRate
    · exact h.baseRtt
    · rfl
    · rfl
    · simp [RateLimiter.setRate, TokenBucket.setRate, hpos]
    · simp only [RateLimiter.setRate, TokenBucket.setRate, hpos, if_true]
      exact Nat.min_le_right _ _
    · exact h.lastRefill

/-- Enough such samples bring the rate to 1 Mbps. -/
theorem Steered.lowered (h : Steered rate shaper) (client : Option Ipv4Addr) :
    ∃ count, Steered 125000
      (shaper.after (List.replicate count (.rttSample client 30000))) := by
  induction rate using Nat.strong_induction_on generalizing shaper with
  | _ rate ih =>
      rcases Nat.lt_trichotomy rate 125000 with hbelow | rfl | habove
      · have hlowered : max (rate - rate / 10) 125000 = 125000 := by omega
        refine ⟨1, ?_⟩
        have hsample := h.sample
        rw [hlowered] at hsample
        exact hsample
      · exact ⟨0, h⟩
      · obtain ⟨count, hcount⟩ := ih _ (by omega) h.sample
        exact ⟨count + 1, hcount⟩

/-- One second later the bucket of a lowered shaper is full. -/
theorem Steered.refill (h : Steered 125000 shaper) :
    shaper.rateLimiter.bucket.refill 1000000 =
      ⟨12500000, 125000, 12500, 1000000⟩ := by
  have htokens := h.tokens
  have hburst := h.burst
  have hrate := h.bucketRate
  have hrefill := h.lastRefill
  generalize shaper.rateLimiter.bucket = bucket at htokens hburst hrate hrefill
  obtain ⟨tokens, rate, burst, lastRefill⟩ := bucket
  simp only at htokens hburst hrate hrefill
  subst hburst hrate hrefill
  have hceiling : u64Mul (125000 / 10) 1000 = 12500000 := by decide
  have hcredit : u64Mul 125000 1000000 / 1000 = 125000000 := by decide
  rw [hceiling] at htokens
  have hsum : u64Add tokens 125000000 = tokens + 125000000 :=
    Nat.mod_eq_of_lt (by omega)
  have hfull : min (tokens + 125000000) 12500000 = 12500000 := by omega
  have hlate : ¬ 1000000 < 100 := by decide
  simp only [TokenBucket.refill, Nat.sub_zero, hlate, if_false, hcredit,
    hceiling, hsum, hfull]

/-- Then a packet of 1000 bytes passes, unless another client has just sent one
of 12500. -/
theorem Steered.contended (h : Steered 125000 shaper) :
    (shaper.check 1000 1000000).1 = true ∧
      ((shaper.check 12500 1000000).2.check 1000 1000000).1 = false := by
  have hrate : shaper.rateLimiter.bucket.rate ≠ 0 := by
    rw [h.bucketRate]
    decide
  have hdrained : (shaper.check 12500 1000000).2.rateLimiter.bucket =
      ⟨0, 125000, 12500, 1000000⟩ := by
    simp [check, RateLimiter.check, TokenBucket.check, hrate, h.refill, u64Mul]
  constructor
  · simp [check_fst, TokenBucket.check, hrate, h.refill, u64Mul]
  · rw [check_fst, hdrained]
    decide

end AdaptiveShaper

theorem ownEvents_of_others {client : Ipv4Addr} {events : List DataEvent}
    (hothers : ∀ event ∈ events, event.client ≠ some client) :
    ownEvents client events = [] := by
  rw [ownEvents, List.filter_eq_nil_iff]
  intro event hevent
  rw [decide_eq_true_eq]
  exact hothers event hevent

theorem exists_other (client : Ipv4Addr) :
    ∃ other : Ipv4Addr, some other ≠ some client := by
  by_cases hzero : client = ⟨0, 0, 0, 0⟩
  · exact ⟨⟨0, 0, 0, 1⟩, by simp [hzero]⟩
  · exact ⟨⟨0, 0, 0, 0⟩, by simpa [eq_comm] using hzero⟩

/-- A first sample without delay, and then samples of 30 ms. -/
def delayedSamples (client : Ipv4Addr) (count : Nat) : List DataEvent :=
  .rttSample (some client) 0 ::
    List.replicate count (.rttSample (some client) 30000)

theorem delayedSamples_of_other {client other : Ipv4Addr}
    (hother : some other ≠ some client) (count : Nat) :
    ∀ event ∈ delayedSamples other count, event.client ≠ some client := by
  intro event hevent
  rcases List.mem_cons.mp hevent with rfl | hrest
  · exact hother
  · rw [List.eq_of_mem_replicate hrest]
    exact hother

/-- Under a cap the samples and one packet of another client decide about a
packet of this one. -/
theorem exists_interference {maxBandwidthMbps : Nat}
    (hcap : AdaptiveShaper.capOf maxBandwidthMbps ≠ 0) (client : Ipv4Addr) :
    ∃ first second, InTime first ∧ InTime second ∧
      ownEvents client first = ownEvents client second ∧
      (AdaptiveShaper.new maxBandwidthMbps).decisions client first = [true] ∧
      (AdaptiveShaper.new maxBandwidthMbps).decisions client second =
        [false] := by
  obtain ⟨other, hother⟩ := exists_other client
  obtain ⟨count, hlowered⟩ :=
    (AdaptiveShaper.steered_new hcap).lowered (some other)
  obtain ⟨hpasses, hdropped⟩ := hlowered.contended
  have hothers := delayedSamples_of_other hother count
  have hshaper : (AdaptiveShaper.new maxBandwidthMbps).after
      (delayedSamples other count) =
      ((AdaptiveShaper.new maxBandwidthMbps).updateRtt 0).after
        (List.replicate count (.rttSample (some other) 30000)) := rfl
  have htimes : (delayedSamples other count).filterMap DataEvent.time = [] := by
    simp [delayedSamples, DataEvent.time]
  refine ⟨delayedSamples other count ++ [.packet (some client) 1000000 1000],
    delayedSamples other count ++ [.packet (some other) 1000000 12500,
      .packet (some client) 1000000 1000], ?_, ?_, ?_, ?_, ?_⟩
  · rw [InTime, List.filterMap_append, htimes]
    simp [DataEvent.time]
  · rw [InTime, List.filterMap_append, htimes]
    simp [DataEvent.time]
  · have hsamples := ownEvents_of_others hothers
    unfold ownEvents at hsamples ⊢
    rw [List.filter_append, List.filter_append, hsamples]
    simp [DataEvent.client, hother]
  · rw [AdaptiveShaper.decisions_append,
      AdaptiveShaper.decisions_of_others _ hothers, hshaper]
    simp [AdaptiveShaper.decisions, DataEvent.client, DataEvent.apply, hpasses]
  · rw [AdaptiveShaper.decisions_append,
      AdaptiveShaper.decisions_of_others _ hothers, hshaper]
    simp [AdaptiveShaper.decisions, DataEvent.client, DataEvent.apply,
      hother, hdropped]

/-- What other clients do is without influence on the decisions about a client
exactly if there is no cap. -/
theorem per_client_shaping (maxBandwidthMbps : Nat) (client : Ipv4Addr) :
    (∀ first second : List DataEvent, InTime first → InTime second →
      ownEvents client first = ownEvents client second →
      (AdaptiveShaper.new maxBandwidthMbps).decisions client first =
        (AdaptiveShaper.new maxBandwidthMbps).decisions client second) ↔
    AdaptiveShaper.capOf maxBandwidthMbps = 0 := by
  constructor
  · intro hall
    by_contra hcap
    obtain ⟨first, second, hfirst, hsecond, hown, hpasses, hdropped⟩ :=
      exists_interference hcap client
    have hsame := hall first second hfirst hsecond hown
    rw [hpasses, hdropped] at hsame
    cases hsame
  · intro hcap first second _ _ hown
    have hrate : (AdaptiveShaper.new
        maxBandwidthMbps).rateLimiter.bucket.rate = 0 := by
      simp [AdaptiveShaper.new, AdaptiveShaper.rateLimiter_new, hcap,
        TokenBucket.new]
    rw [AdaptiveShaper.decisions_unlimited hrate hcap,
      AdaptiveShaper.decisions_unlimited hrate hcap, hown]

/-- Under a cap of 1 Mbps a packet that would pass is dropped when another
client has just sent one of 12500 bytes. -/
theorem shaping_interferes :
    ¬ ∀ (maxBandwidthMbps : Nat) (client : Ipv4Addr)
        (first second : List DataEvent), InTime first → InTime second →
      ownEvents client first = ownEvents client second →
      (AdaptiveShaper.new maxBandwidthMbps).decisions client first =
        (AdaptiveShaper.new maxBandwidthMbps).decisions client second := by
  intro hall
  have hsame := hall 1 ⟨10, 0, 1, 2⟩
    [.packet (some ⟨10, 0, 1, 2⟩) 0 1000]
    [.packet (some ⟨10, 0, 1, 3⟩) 0 12500,
      .packet (some ⟨10, 0, 1, 2⟩) 0 1000]
    (by simp [InTime, DataEvent.time]) (by simp [InTime, DataEvent.time])
    (by decide)
  revert hsame
  decide

end Redpill
