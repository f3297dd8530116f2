/-
Runs of the downlink of a QUIC session.  A step is a round of the send loop, or
the network takes datagrams out of the buffer.  What a round hands to QUIC, and
what it leaves pending, is stated once here for all that is proved about such
runs.
-/
import Redpill.SendBuffer

namespace Redpill

open ByteStream

universe u

/-- An IPv4 packet of length 20..65535, as the router queues them. -/
def Routable (packet : Bytes) : Prop :=
  versionNibble packet = 4 ∧ 20 ≤ packet.length ∧ packet.length < 65536

instance (packet : Bytes) : Decidable (Routable packet) :=
  inferInstanceAs (Decidable (_ ∧ _ ∧ _))

theorem Routable.ne_nil {packet : Bytes} (hpacket : Routable packet) :
    packet ≠ [] := by
  rintro rfl
  simp [Routable] at hpacket

/-- An IP packet as the router queues it.  Where one side pads or strips, its
length field is right. -/
def Queued (shaped : Bool) (packet : Bytes) : Prop :=
  Routable packet ∧ (shaped = true → WellFormedIpv4 packet)

instance (shaped : Bool) (packet : Bytes) :
    Decidable (Queued shaped packet) :=
  inferInstanceAs (Decidable (_ ∧ _))

/-- The datagram, if QUIC takes it. -/
def acceptedDatagram (data : Bytes) :
    Except SendDatagramError Unit → List Bytes
  | .ok () => [data]
  | .error _ => []

/-- What is assumed of QUIC, where `sent` are the datagrams it has taken: each
of them once, in the order of the calls, and only those. -/
structure Quinn.Records {Conn : Type u} (quinn : Quinn Conn)
    (sent : Conn → List Bytes) : Prop where
  send : ∀ conn data, sent (quinn.sendDatagram conn data).2 =
    sent conn ++ acceptedDatagram data (quinn.sendDatagram conn data).1
  wait : ∀ conn data, sent (quinn.sendDatagramWait conn data).2 =
    sent conn ++ ((quinn.sendDatagramWait conn data).1.map
      (acceptedDatagram data)).getD []

theorem recordingQuinn_records : recordingQuinn.Records id where
  send _ _ := rfl
  wait _ _ := rfl

section Steps

variable {Conn : Type u} (quinn : Quinn Conn)

/-- The connection once the pending batch is handed over. -/
def SendLoop.afterBatch (loop : SendLoop Conn) : Conn :=
  if loop.batcher.pending = [] then loop.link.conn
  else
    (quinn.sendDatagram loop.link.conn
      (batchEncode loop.batcher.pending)).2

end Steps

/-- The sending side of a session and the packets popped for it. -/
structure Downlink (Conn : Type u) where
  loop : SendLoop Conn
  popped : List Bytes

namespace Downlink

variable {Conn : Type u} (quinn : Quinn Conn) (sent : Conn → List Bytes)
  (padded padding : Bool)

def start (conn : Conn) : Downlink Conn := ⟨SendLoop.start conn, []⟩

/-- A round of the loop, or the network takes datagrams out of the buffer. -/
def step (downlink : Downlink Conn) :
    BufferEvent Conn → Option (Downlink Conn)
  | .loop .flushTimeout =>
      some { downlink with
        loop := downlink.loop.step quinn padded .flushTimeout }
  | .loop (.pop packet) =>
      if Queued (padded || padding) packet ∧ downlink.loop.link.lost = false
      then some
        { loop := downlink.loop.step quinn padded (.pop packet)
          popped := downlink.popped ++ [packet] }
      else none
  | .drain conn =>
      if sent conn = sent downlink.loop.link.conn then
        some { downlink with
          loop := { downlink.loop with
            link := { downlink.loop.link with conn := conn } } }
      else none

/-- The batch that leaves in a round of the loop. -/
def batchSent (downlink : Downlink Conn) (event : SendEvent) : List Bytes :=
  if downlink.loop.sendsBatch padded event then
    acceptedDatagram (batchEncode downlink.loop.batcher.pending)
      (downlink.loop.batchAnswer quinn)
  else []

/-- The packet that leaves on its own when this one is popped. -/
def directSent (downlink : Downlink Conn) (packet : Bytes) : List Bytes :=
  let flushed := (downlink.loop.flush quinn).link
  let data := camouflagedSend padded packet
  if batchSizeThreshold ≤ data.length ∧ downlink.loop.link.lost = false ∧
      flushed.lost = false then
    ((directAnswer quinn flushed.conn data).map (acceptedDatagram data)).getD []
  else []

/-- The packet leaves on its own. -/
def isDirect (packet : Bytes) : Bool :=
  decide (batchSizeThreshold ≤ (camouflagedSend padded packet).length)

/-- A packet that leaves on its own finds room once the batch before it is
handed over: there is space for it, or it is a bulk packet that QUIC can carry
and the wait for space ends in time. -/
def hasRoom (downlink : Downlink Conn) (packet : Bytes) : Bool :=
  let data := camouflagedSend padded packet
  let conn := downlink.loop.afterBatch quinn
  !isDirect padded packet ||
    decide (data.length ≤ quinn.datagramSendBufferSpace conn) ||
    decide (classify data = .bulk) &&
      !(quinn.maxDatagramSize conn).any (· < data.length) &&
      (quinn.sendDatagramWait conn data).1.isSome

/-- The loop drops no packet for want of room in the step. -/
def roomy (downlink : Downlink Conn) : BufferEvent Conn → Bool
  | .loop (.pop packet) => downlink.hasRoom quinn padded packet
  | _ => true

/-- The packets that the loop takes up in a step. -/
def taken : BufferEvent Conn → List Bytes
  | .loop (.pop packet) => [packet]
  | _ => []

/-- The same, without the one that it drops for want of room. -/
def kept (downlink : Downlink Conn) (event : BufferEvent Conn) : List Bytes :=
  if downlink.roomy quinn padded event then taken event else []

def batchAccepted (downlink : Downlink Conn) (event : SendEvent) : Bool :=
  !downlink.loop.sendsBatch padded event ||
    (downlink.loop.batchAnswer quinn).toBool

def directAccepted (downlink : Downlink Conn) (packet : Bytes) : Bool :=
  !isDirect padded packet ||
    (directAnswer quinn (downlink.loop.afterBatch quinn)
      (camouflagedSend padded packet)).all Except.toBool

/-- QUIC takes every datagram that the loop hands it in the step. -/
def accepted (downlink : Downlink Conn) : BufferEvent Conn → Bool
  | .loop .flushTimeout => downlink.batchAccepted quinn padded .flushTimeout
  | .loop (.pop packet) =>
      downlink.batchAccepted quinn padded (.pop packet) &&
        downlink.directAccepted quinn padded packet
  | .drain _ => true

end Downlink

section Sent

variable {Conn : Type u} {quinn : Quinn Conn} {sent : Conn → List Bytes}
  {padded padding : Bool}

theorem sendRt_sent (hquinn : quinn.Records sent) (link : SendLink Conn)
    (data : Bytes) :
    sent (sendRt quinn link data).conn =
      sent link.conn ++
        acceptedDatagram data (quinn.sendDatagram link.conn data).1 := by
  rw [sendRt_conn]
  exact hquinn.send link.conn data

/-- What is sent directly is taken as QUIC answers. -/
theorem sendDirect_sent (hquinn : quinn.Records sent) (link : SendLink Conn)
    (packet : Bytes) :
    sent (sendDirect quinn link packet).conn =
      sent link.conn ++ ((directAnswer quinn link.conn packet).map
        (acceptedDatagram packet)).getD [] := by
  have hsend := sendRt_sent hquinn link packet
  unfold sendDirect directAnswer
  cases classify packet with
  | realtime =>
      by_cases hspace : packet.length ≤ quinn.datagramSendBufferSpace link.conn
      · simpa [hspace] using hsend
      · simp [hspace]
  | bulk =>
      simp only [sendBulk]
      split
      · exact hsend
      · split
        · simp
        · have hwait := hquinn.wait link.conn packet
          split
          · rename_i answer hanswer
            rw [recordOutcome_conn]
            rw [hanswer] at hwait ⊢
            exact hwait
          · rename_i hanswer
            rw [hanswer] at hwait ⊢
            exact hwait

theorem flush_sent (hquinn : quinn.Records sent) (loop : SendLoop Conn) :
    sent (loop.flush quinn).link.conn =
      sent loop.link.conn ++
        if loop.batcher.hasPending then
          acceptedDatagram (batchEncode loop.batcher.pending)
            (loop.batchAnswer quinn)
        else [] := by
  rw [(loop.flush_eq quinn).2]
  by_cases hpending : loop.batcher.pending = []
  · simp [hpending, DatagramBatcher.hasPending]
  · rw [if_neg hpending, if_pos (loop.hasPending_iff.mpr hpending)]
    exact sendRt_sent hquinn loop.link _

/-- A popped packet is dispatched as the session sends it. -/
theorem SendLoop.step_pop {loop : SendLoop Conn}
    (hlost : loop.link.lost = false) (packet : Bytes) :
    loop.step quinn padded (.pop packet) =
      loop.dispatch quinn (camouflagedSend padded packet) := by
  simp [SendLoop.step, hlost]

theorem SendLoop.pending_of_sendsBatch (loop : SendLoop Conn) {event : SendEvent}
    (hsends : loop.sendsBatch padded event = true) :
    loop.batcher.pending ≠ [] := by
  have hpending : loop.batcher.hasPending = true := by
    cases event <;> simp [SendLoop.sendsBatch] at hsends <;> tauto
  exact loop.hasPending_iff.mp hpending

namespace Downlink

variable {downlink next : Downlink Conn} {packet : Bytes}

theorem timeout_sent (hquinn : quinn.Records sent) :
    sent (downlink.loop.step quinn padded .flushTimeout).link.conn =
      sent downlink.loop.link.conn ++
        downlink.batchSent quinn padded .flushTimeout := by
  cases hlost : downlink.loop.link.lost with
  | true => simp [SendLoop.step, batchSent, SendLoop.sendsBatch, hlost]
  | false =>
      cases hpending : downlink.loop.batcher.hasPending with
      | false =>
          simp [SendLoop.step, batchSent, SendLoop.sendsBatch, hlost, hpending]
      | true =>
          have hflush := flush_sent hquinn downlink.loop
          simpa [SendLoop.step, batchSent, SendLoop.sendsBatch, hlost,
            hpending] using hflush

/-- A popped packet makes a batch leave, or leaves itself, or both. -/
theorem pop_sent (hquinn : quinn.Records sent)
    (hlost : downlink.loop.link.lost = false) :
    sent (downlink.loop.step quinn padded (.pop packet)).link.conn =
      sent downlink.loop.link.conn ++
        (downlink.batchSent quinn padded (.pop packet) ++
          downlink.directSent quinn padded packet) := by
  rw [SendLoop.step_pop hlost packet]
  by_cases hlarge :
      batchSizeThreshold ≤ (camouflagedSend padded packet).length
  · have hflush := flush_sent hquinn downlink.loop
    have hbatch : downlink.batchSent quinn padded (.pop packet) =
        if downlink.loop.batcher.hasPending then
          acceptedDatagram (batchEncode downlink.loop.batcher.pending)
            (downlink.loop.batchAnswer quinn)
        else [] := by
      simp [batchSent, SendLoop.sendsBatch, hlost, hlarge]
    rw [hbatch, ← List.append_assoc, ← hflush]
    simp only [SendLoop.dispatch, directSent, hlarge, hlost, if_true, true_and]
    cases hflushed : (downlink.loop.flush quinn).link.lost with
    | true => simp
    | false =>
        simpa using sendDirect_sent hquinn (downlink.loop.flush quinn).link
          (camouflagedSend padded packet)
  · have hdirect : downlink.directSent quinn padded packet = [] := by
      simp [directSent, hlarge]
    rw [hdirect, List.append_nil]
    rcases downlink.loop.dispatch_small quinn hlarge with
      ⟨hnone, hlink, _⟩ | ⟨hsome, hnonempty, hlink, _⟩
    · simp [hlink, batchSent, SendLoop.sendsBatch, hlarge, hnone]
    · have hhas := downlink.loop.hasPending_iff.mpr hnonempty
      rw [hlink, sendRt_sent hquinn]
      simp [batchSent, SendLoop.sendsBatch, hlost, hlarge, hsome, hhas,
        SendLoop.batchAnswer]

/-- A batch that leaves holds what was pending. -/
theorem batchSent_cases (quinn : Quinn Conn) (padded : Bool)
    (downlink : Downlink Conn) (event : SendEvent) :
    downlink.batchSent quinn padded event = [] ∨
      downlink.loop.batcher.pending ≠ [] ∧
        downlink.batchSent quinn padded event =
          [batchEncode downlink.loop.batcher.pending] := by
  unfold batchSent
  split
  · rename_i hsends
    cases downlink.loop.batchAnswer quinn with
    | ok value =>
        exact Or.inr ⟨downlink.loop.pending_of_sendsBatch hsends, rfl⟩
    | error error => exact Or.inl rfl
  · exact Or.inl rfl

theorem directSent_cases (quinn : Quinn Conn) (padded : Bool)
    (downlink : Downlink Conn) (packet : Bytes) :
    downlink.directSent quinn padded packet = [] ∨
      downlink.directSent quinn padded packet =
        [camouflagedSend padded packet] := by
  unfold directSent
  dsimp only
  split
  · cases directAnswer quinn _ (camouflagedSend padded packet) with
    | none => exact Or.inl rfl
    | some answer =>
        cases answer with
        | ok value => exact Or.inr rfl
        | error error => exact Or.inl rfl
  · exact Or.inl rfl

/-- The timer leaves what it does not send. -/
theorem timeout_pending (loop : SendLoop Conn) :
    (loop.step quinn padded .flushTimeout).batcher.pending =
      if loop.sendsBatch padded .flushTimeout then []
      else loop.batcher.pending := by
  have hflush := (loop.flush_eq quinn).1
  cases hlost : loop.link.lost with
  | true => simp [SendLoop.step, SendLoop.sendsBatch, hlost]
  | false =>
      cases hpending : loop.batcher.hasPending with
      | false => simp [SendLoop.step, SendLoop.sendsBatch, hlost, hpending]
      | true => simpa [SendLoop.step, SendLoop.sendsBatch, hlost, hpending]

/-- Nothing stays pending behind a packet that leaves on its own. -/
theorem held_of_isDirect {loop : SendLoop Conn} (hlost : loop.link.lost = false)
    (hdirect : isDirect padded packet = true) :
    (if loop.sendsBatch padded (.pop packet) then []
      else loop.batcher.pending) = [] := by
  have hlarge : batchSizeThreshold ≤ (camouflagedSend padded packet).length := by
    simpa [isDirect] using hdirect
  by_cases hnil : loop.batcher.pending = []
  · simp [hnil]
  · have hhas := loop.hasPending_iff.mpr hnil
    simp [SendLoop.sendsBatch, hlarge, hlost, hhas]

/-- A packet that does not leave on its own is pending, after those that its
arrival has not sent off. -/
theorem pop_pending (loop : SendLoop Conn) (hlost : loop.link.lost = false)
    (packet : Bytes) :
    (loop.step quinn padded (.pop packet)).batcher.pending =
      (if loop.sendsBatch padded (.pop packet) then []
        else loop.batcher.pending) ++
        if isDirect padded packet then []
        else [camouflagedSend padded packet] := by
  rw [SendLoop.step_pop hlost packet]
  by_cases hlarge :
      batchSizeThreshold ≤ (camouflagedSend padded packet).length
  · have hempty : (loop.dispatch quinn
        (camouflagedSend padded packet)).batcher.pending = [] := by
      simp only [SendLoop.dispatch, hlarge, if_true]
      split <;> exact (loop.flush_eq quinn).1
    have hdirect : isDirect padded packet = true := by
      simpa [isDirect] using hlarge
    rw [hempty, held_of_isDirect hlost hdirect, if_pos hdirect, List.nil_append]
  · rcases loop.dispatch_small quinn hlarge with
      ⟨hnone, _, hpending⟩ | ⟨hsome, hnonempty, _, hpending⟩
    · simp [isDirect, SendLoop.sendsBatch, hlarge, hnone, hpending]
    · have hhas := loop.hasPending_iff.mpr hnonempty
      simp [isDirect, SendLoop.sendsBatch, hlarge, hlost, hhas, hsome,
        hpending]

/-- What is pending after a round was pending before, or is the packet that was
popped. -/
theorem step_pending (loop : SendLoop Conn) (event : SendEvent) :
    ∀ data ∈ (loop.step quinn padded event).batcher.pending,
      data ∈ loop.batcher.pending ∨
        ∃ packet, event = .pop packet ∧
          data = camouflagedSend padded packet ∧
          data.length < batchSizeThreshold := by
  intro data hdata
  cases event with
  | flushTimeout =>
      rw [timeout_pending] at hdata
      split at hdata
      · cases hdata
      · exact Or.inl hdata
  | pop packet =>
      cases hlost : loop.link.lost with
      | true =>
          simp only [SendLoop.step, hlost, if_true] at hdata
          exact Or.inl hdata
      | false =>
          rw [pop_pending loop hlost, List.mem_append] at hdata
          rcases hdata with hdata | hdata
          · split at hdata
            · cases hdata
            · exact Or.inl hdata
          · split at hdata
            · cases hdata
            · rename_i hsmall
              obtain rfl := List.mem_singleton.mp hdata
              have hlength : (camouflagedSend padded packet).length <
                  batchSizeThreshold := by simpa [isDirect] using hsmall
              exact Or.inr ⟨packet, rfl, rfl, hlength⟩

/-- The three kinds of steps. -/
theorem step_cases {event : BufferEvent Conn}
    (hstep : downlink.step quinn sent padded padding event = some next) :
    (event = .loop .flushTimeout ∧ next = { downlink with
      loop := downlink.loop.step quinn padded .flushTimeout }) ∨
    (∃ packet, event = .loop (.pop packet) ∧
      Queued (padded || padding) packet ∧
      downlink.loop.link.lost = false ∧
      next =
        { loop := downlink.loop.step quinn padded (.pop packet)
          popped := downlink.popped ++ [packet] }) ∨
    ∃ conn, event = .drain conn ∧
      sent conn = sent downlink.loop.link.conn ∧
      next = { downlink with
        loop := { downlink.loop with
          link := { downlink.loop.link with conn := conn } } } := by
  unfold step at hstep
  split at hstep
  · exact Or.inl ⟨rfl, (Option.some.inj hstep).symm⟩
  · split at hstep
    · rename_i packet hguard
      exact Or.inr (Or.inl ⟨packet, rfl, hguard.1, hguard.2,
        (Option.some.inj hstep).symm⟩)
    · cases hstep
  · split at hstep
    · rename_i conn hsame
      exact Or.inr (Or.inr ⟨conn, rfl, hsame,
        (Option.some.inj hstep).symm⟩)
    · cases hstep

/-- There is an answer to a packet that leaves on its own exactly if it finds
room. -/
theorem hasRoom_iff (quinn : Quinn Conn) (padded : Bool)
    (downlink : Downlink Conn) (packet : Bytes) :
    downlink.hasRoom quinn padded packet = true ↔
      isDirect padded packet = true →
        (directAnswer quinn (downlink.loop.afterBatch quinn)
          (camouflagedSend padded packet)).isSome = true := by
  unfold hasRoom directAnswer
  cases isDirect padded packet with
  | false => simp
  | true =>
      simp only [Bool.not_true, Bool.false_or, true_implies]
      by_cases hspace : (camouflagedSend padded packet).length ≤
          quinn.datagramSendBufferSpace (downlink.loop.afterBatch quinn)
      · cases classify (camouflagedSend padded packet) <;> simp [hspace]
      · cases hclass : classify (camouflagedSend padded packet) with
        | realtime => simp [hspace]
        | bulk =>
            cases (quinn.maxDatagramSize (downlink.loop.afterBatch quinn)).any
                (· < (camouflagedSend padded packet).length) <;>
              simp [hspace]

theorem popped_eq_collect {conn : Conn} {schedule : List (BufferEvent Conn)}
    {final : Downlink Conn}
    (hrun : Machine.run (step quinn sent padded padding) (start conn)
      schedule = some final) :
    final.popped =
      Machine.collect (step quinn sent padded padding) (fun _ => taken)
        (start conn) schedule := by
  have hmeets : Machine.Meets (step quinn sent padded padding)
      (fun _ _ => True) (start conn) schedule :=
    Machine.meets_of_forall (fun _ _ => trivial) _ schedule
  refine Machine.collect_invariant
    (fun downlink packets => downlink.popped = packets) ?_ rfl hmeets hrun
  intro downlink event next packets hpopped _ hstep
  rcases step_cases hstep with ⟨rfl, rfl⟩ | ⟨packet, rfl, _, _, rfl⟩ |
    ⟨conn, rfl, _, rfl⟩
  · simpa [taken] using hpopped
  · simpa [taken] using hpopped
  · simpa [taken] using hpopped

theorem kept_sublist_taken (downlink : Downlink Conn)
    (event : BufferEvent Conn) :
    (downlink.kept quinn padded event).Sublist (taken event) := by
  unfold kept
  split
  · exact List.Sublist.refl _
  · exact List.nil_sublist _

theorem kept_sublist_popped {conn : Conn}
    {schedule : List (BufferEvent Conn)} {final : Downlink Conn}
    (hrun : Machine.run (step quinn sent padded padding) (start conn)
      schedule = some final) :
    (Machine.collect (step quinn sent padded padding) (kept quinn padded)
      (start conn) schedule).Sublist final.popped := by
  rw [popped_eq_collect hrun]
  exact Machine.collect_sublist kept_sublist_taken _ schedule

/-- The packets of a run that found room are all that were popped exactly if
each of them did. -/
theorem kept_eq_popped_iff {conn : Conn}
    {schedule : List (BufferEvent Conn)} {final : Downlink Conn}
    (hrun : Machine.run (step quinn sent padded padding) (start conn)
      schedule = some final) :
    Machine.collect (step quinn sent padded padding) (kept quinn padded)
        (start conn) schedule = final.popped ↔
      Machine.Meets (step quinn sent padded padding)
        (fun downlink event => downlink.roomy quinn padded event = true)
        (start conn) schedule := by
  rw [popped_eq_collect hrun,
    Machine.collect_eq_iff_meets kept_sublist_taken hrun]
  apply Machine.meets_congr (fun _ => True) (fun _ _ _ _ _ => trivial) _ trivial
  intro downlink event _
  cases hroom : downlink.roomy quinn padded event with
  | true => simp [kept, hroom]
  | false =>
      have htaken : taken event ≠ [] := by
        intro hnil
        rcases event with (packet | _) | conn
        · cases hnil
        · cases hroom
        · cases hroom
      rw [kept, hroom, if_neg Bool.false_ne_true]
      exact iff_of_false (fun hnil => htaken hnil.symm) Bool.false_ne_true

theorem flush_conn (loop : SendLoop Conn) :
    (loop.flush quinn).link.conn = loop.afterBatch quinn := by
  rw [(loop.flush_eq quinn).2, SendLoop.afterBatch]
  split
  · rfl
  · exact sendRt_conn _ _

theorem sendRt_lost (link : SendLink Conn) {data : Bytes}
    (h : (quinn.sendDatagram link.conn data).1.toBool = true) :
    (sendRt quinn link data).lost = link.lost := by
  cases hanswer : (quinn.sendDatagram link.conn data).1 with
  | ok value => simp [sendRt, hanswer, recordOutcome]
  | error error =>
      rw [hanswer] at h
      cases h

theorem sendDirect_lost (link : SendLink Conn) {packet : Bytes}
    (h : (directAnswer quinn link.conn packet).all Except.toBool = true) :
    (sendDirect quinn link packet).lost = link.lost := by
  unfold directAnswer at h
  unfold sendDirect
  by_cases hspace : packet.length ≤ quinn.datagramSendBufferSpace link.conn
  · have hsend : (quinn.sendDatagram link.conn packet).1.toBool = true := by
      cases hclass : classify packet <;>
        simpa [hclass, hspace] using h
    cases classify packet <;>
      simpa [sendBulk, hspace] using sendRt_lost link hsend
  · cases hclass : classify packet with
    | realtime => simp [hspace]
    | bulk =>
        simp only [sendBulk, hspace, if_false]
        split
        · rfl
        · rename_i hsize
          simp only [hclass, hspace, if_false, hsize] at h
          split
          · rename_i answer hanswer
            rw [hanswer] at h
            cases answer with
            | ok value => rfl
            | error error => cases h
          · rfl

theorem flush_running {loop : SendLoop Conn} (hlost : loop.link.lost = false)
    (h : loop.batcher.hasPending = true →
      (loop.batchAnswer quinn).toBool = true) :
    (loop.flush quinn).link.lost = false := by
  rw [(loop.flush_eq quinn).2]
  split
  · exact hlost
  · rename_i hpending
    rw [sendRt_lost loop.link (h (loop.hasPending_iff.mpr hpending)), hlost]

/-- The batch before a packet that leaves on its own. -/
theorem flushed_running (hlost : downlink.loop.link.lost = false)
    (hlarge : batchSizeThreshold ≤ (camouflagedSend padded packet).length)
    (h : downlink.batchAccepted quinn padded (.pop packet) = true) :
    (downlink.loop.flush quinn).link.lost = false := by
  apply flush_running hlost
  intro hpending
  simpa [batchAccepted, SendLoop.sendsBatch, hlost, hlarge, hpending] using h

/-- An accepted batch carries all that was pending. -/
theorem batchSent_of_accepted {event : SendEvent}
    (h : downlink.batchAccepted quinn padded event = true) :
    downlink.batchSent quinn padded event =
      if downlink.loop.sendsBatch padded event then
        [batchEncode downlink.loop.batcher.pending]
      else [] := by
  unfold batchAccepted at h
  unfold batchSent
  cases hsends : downlink.loop.sendsBatch padded event with
  | false => rfl
  | true =>
      rw [hsends] at h
      cases hanswer : downlink.loop.batchAnswer quinn with
      | ok value => rfl
      | error error =>
          rw [hanswer] at h
          cases h

/-- A packet that leaves on its own is sent as soon as it finds room. -/
theorem directSent_of_accepted (hlost : downlink.loop.link.lost = false)
    (h : downlink.accepted quinn padded (.loop (.pop packet)) = true) :
    downlink.directSent quinn padded packet =
      if isDirect padded packet && downlink.hasRoom quinn padded packet then
        [camouflagedSend padded packet]
      else [] := by
  rw [accepted, Bool.and_eq_true] at h
  obtain ⟨hbatch, hdirect⟩ := h
  have hroom := hasRoom_iff quinn padded downlink packet
  unfold directSent
  by_cases hlarge :
      batchSizeThreshold ≤ (camouflagedSend padded packet).length
  · have hisDirect : isDirect padded packet = true := by
      simpa [isDirect] using hlarge
    have hflushed := flushed_running hlost hlarge hbatch
    simp only [directAccepted, hisDirect, Bool.not_true, Bool.false_or] at hdirect
    simp only [hlarge, hlost, hflushed, and_self, if_true, flush_conn,
      hisDirect, Bool.true_and]
    simp only [hisDirect, true_implies] at hroom
    cases hanswer : directAnswer quinn (downlink.loop.afterBatch quinn)
        (camouflagedSend padded packet) with
    | none =>
        rw [hanswer] at hroom
        simpa using hroom
    | some answer =>
        rw [hanswer] at hroom hdirect
        have hhas : downlink.hasRoom quinn padded packet = true := by
          simpa using hroom
        cases answer with
        | ok value => simp [hhas, acceptedDatagram]
        | error error => cases hdirect
  · simp [isDirect, hlarge]

theorem pop_running (hlost : downlink.loop.link.lost = false)
    (hbatch : downlink.batchAccepted quinn padded (.pop packet) = true)
    (hdirect : downlink.directAccepted quinn padded packet = true) :
    (downlink.loop.step quinn padded (.pop packet)).link.lost = false := by
  rw [SendLoop.step_pop hlost packet]
  by_cases hlarge :
      batchSizeThreshold ≤ (camouflagedSend padded packet).length
  · have hflushed := flushed_running hlost hlarge hbatch
    have hanswer : (directAnswer quinn (downlink.loop.afterBatch quinn)
        (camouflagedSend padded packet)).all Except.toBool = true := by
      simpa [directAccepted, isDirect, hlarge] using hdirect
    rw [← flush_conn] at hanswer
    have hsend := sendDirect_lost (downlink.loop.flush quinn).link hanswer
    simpa [SendLoop.dispatch, hlarge, hflushed] using hsend
  · rcases downlink.loop.dispatch_small quinn hlarge with
      ⟨_, hlink, _⟩ | ⟨hsome, hnonempty, hlink, _⟩
    · rw [hlink, hlost]
    · have hhas := downlink.loop.hasPending_iff.mpr hnonempty
      have hanswer : (downlink.loop.batchAnswer quinn).toBool = true := by
        simpa [batchAccepted, SendLoop.sendsBatch, hlost, hsome, hhas] using
          hbatch
      rw [hlink, sendRt_lost downlink.loop.link hanswer, hlost]

/-- A step whose datagrams are accepted does not find the connection lost. -/
theorem step_running {event : BufferEvent Conn}
    (hlost : downlink.loop.link.lost = false)
    (h : downlink.accepted quinn padded event = true)
    (hstep : downlink.step quinn sent padded padding event = some next) :
    next.loop.link.lost = false := by
  rcases step_cases hstep with ⟨rfl, rfl⟩ | ⟨packet, rfl, _, _, rfl⟩ |
    ⟨conn, rfl, _, rfl⟩
  · cases hpending : downlink.loop.batcher.hasPending with
    | false => simp [SendLoop.step, hlost, hpending]
    | true =>
        have hflushed := flush_running hlost fun _ => by
          simpa [accepted, batchAccepted, SendLoop.sendsBatch, hlost,
            hpending] using h
        simpa [SendLoop.step, hlost, hpending] using hflushed
  · rw [accepted, Bool.and_eq_true] at h
    exact pop_running hlost h.1 h.2
  · exact hlost

end Downlink

end Sent

end Redpill
