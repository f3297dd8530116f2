/-
A TCP Reality tunnel from end to end, in both directions: the client's TUN loop
over `TcpRealityTransport` and the reader of `run_tcp_reality_tunnel`, and the
server's queue-to-TLS loop and the client's receive loop.
-/
import Redpill.SenderLoops
import Redpill.StreamLink

namespace Redpill

open ByteStream

/-- The frames of the first packets have been written; `writing` are the
others, unless there was an error. -/
def Outstanding (writing : Option (List Bytes)) (written : Bytes)
    (taken : List Bytes) : Prop :=
  ∃ done rest, taken = done ++ rest ∧ written = framing done ∧
    ∀ packets ∈ writing, rest = packets

namespace Outstanding

variable {writing : Option (List Bytes)} {written : Bytes}
  {taken : List Bytes} {packet : Bytes}

theorem isPrefix (h : Outstanding writing written taken) :
    written <+: framing taken := by
  obtain ⟨done, rest, rfl, rfl, _⟩ := h
  rw [StreamLink.framing_append]
  exact List.prefix_append _ _

theorem all_written (h : Outstanding (some []) written taken) :
    written = framing taken := by
  obtain ⟨done, rest, rfl, rfl, hrest⟩ := h
  rw [hrest [] rfl, List.append_nil]

theorem mem (h : Outstanding (some [packet]) written taken) :
    packet ∈ taken := by
  obtain ⟨done, rest, rfl, _, hrest⟩ := h
  rw [hrest [packet] rfl]
  exact List.mem_append_right _ List.mem_cons_self

theorem take (h : Outstanding (some []) written taken) :
    Outstanding (some [packet]) written (taken ++ [packet]) := by
  refine ⟨taken, [packet], rfl, h.all_written, ?_⟩
  rintro packets ⟨⟩
  rfl

theorem write {writer : BufWriter}
    (h : Outstanding (some [packet]) writer.written taken) :
    Outstanding (some []) (writer.writeAll (frame packet)).written taken := by
  obtain ⟨done, rest, rfl, hwritten, hrest⟩ := h
  obtain rfl := hrest [packet] rfl
  refine ⟨done ++ [packet], [], by simp, ?_, ?_⟩
  · rw [BufWriter.written_writeAll, hwritten, StreamLink.framing_append]
    simp [framing]
  · rintro packets ⟨⟩
    rfl

theorem stop (h : Outstanding writing written taken) :
    Outstanding none written taken := by
  obtain ⟨done, rest, htaken, hwritten, _⟩ := h
  exact ⟨done, rest, htaken, hwritten, nofun⟩

end Outstanding

/-- What the client's loop is writing in a stage. -/
def UplinkStage.writing : UplinkStage → Option (List Bytes)
  | .sending _ packet => some [packet]
  | .ended => none
  | _ => some []

/-- A read of the TUN gives no more than fits a frame; the buffer of the client
is far smaller. -/
def UplinkEvent.Fits (tunHdr : Nat) : UplinkEvent → Prop
  | .read (.bytes data) => data.length ≤ tunHdr + maxFrameSize
  | _ => True

/-- The client's TUN loop over `TcpRealityTransport`. -/
def uplinkSender (tunHdr : Nat) : StreamSender UplinkLoop UplinkEvent where
  step := UplinkLoop.step true tunHdr
  inner state := state.writer.inner
  taken state := state.passed

namespace UplinkLoop

/-- The client's loop writes the frames of the packets that it reads. -/
structure Framed (state : UplinkLoop) : Prop where
  packets : ∀ packet ∈ state.passed, packet ≠ [] ∧ packet.length ≤ 65535
  outstanding : Outstanding state.stage.writing state.writer.written
    state.passed
  guarded : state.Guarded

variable {tunHdr : Nat} {state next : UplinkLoop}

theorem outstanding_finish {batch : Nat}
    (h : Outstanding (some []) state.writer.written state.passed) :
    Outstanding (state.finish batch).stage.writing
      (state.finish batch).writer.written (state.finish batch).passed := by
  by_cases hbatch : 0 < batch
  · simpa [finish, hbatch, UplinkStage.writing] using h
  · simpa [finish, hbatch, UplinkStage.writing] using h

theorem Framed.read {outcome : TunRead} (h : state.Framed)
    (hfits : (UplinkEvent.read outcome).Fits tunHdr)
    (hstep : state.step true tunHdr (.read outcome) = some next) :
    next.Framed := by
  have hguarded := guarded_read h.guarded hstep
  cases hstage : state.stage with
  | reading batch =>
      have hwritten := h.outstanding
      rw [hstage] at hwritten
      simp only [step, hstage] at hstep
      cases outcome with
      | bytes data =>
          by_cases hlong : tunHdr < data.length
          · simp only [hlong, if_true, Option.some.injEq] at hstep
            subst hstep
            refine ⟨?_, hwritten.take, hguarded⟩
            intro packet hpacket
            rcases List.mem_append.mp hpacket with hold | hnew
            · exact h.packets packet hold
            · obtain rfl := List.mem_singleton.mp hnew
              have hmax : data.length ≤ tunHdr + 65535 := hfits
              constructor
              · intro hempty
                exact absurd (List.drop_eq_nil_iff.mp hempty)
                  (Nat.not_le.mpr hlong)
              · rw [List.length_drop]
                omega
          · simp only [hlong, if_false, Option.some.injEq] at hstep
            subst hstep
            exact ⟨h.packets, outstanding_finish hwritten, hguarded⟩
      | again =>
          simp only [Option.some.injEq] at hstep
          subst hstep
          exact ⟨h.packets, outstanding_finish hwritten, hguarded⟩
      | failed =>
          simp only [Option.some.injEq] at hstep
          subst hstep
          exact ⟨h.packets, hwritten.stop, hguarded⟩
  | _ => simp [step, hstage] at hstep

theorem Framed.sent {ok : Bool} (h : state.Framed)
    (hstep : state.step true tunHdr (.sent ok) = some next) :
    next.Framed := by
  have hguarded := guarded_sent hstep
  cases hstage : state.stage with
  | sending batch packet =>
      have hwritten := h.outstanding
      rw [hstage] at hwritten
      simp only [step, hstage] at hstep
      cases ok with
      | true =>
          have hfits : ¬ maxFrameSize < packet.length :=
            Nat.not_lt.mpr (h.packets packet hwritten.mem).2
          have hafter : Outstanding (some [])
              (transportSend true state.writer packet).written
              state.passed := by
            simpa [transportSend, TcpRealityTransport.send, hfits]
              using hwritten.write
          by_cases hfull : maxTunBatch ≤ batch + 1
          · simp only [if_true, hfull, Option.some.injEq] at hstep
            subst hstep
            exact ⟨h.packets, outstanding_finish hafter, hguarded⟩
          · simp only [if_true, hfull, if_false, Option.some.injEq] at hstep
            subst hstep
            exact ⟨h.packets, hafter, hguarded⟩
      | false =>
          simp only [Bool.false_eq_true, if_false, Option.some.injEq] at hstep
          subst hstep
          exact ⟨h.packets, hwritten.stop, hguarded⟩
  | _ => simp [step, hstage] at hstep

theorem Framed.step {event : UplinkEvent} (h : state.Framed)
    (hfits : event.Fits tunHdr)
    (hstep : state.step true tunHdr event = some next) : next.Framed := by
  have hguarded := guarded_step h.guarded hstep
  cases event with
  | ready ok =>
      simp only [UplinkLoop.step, Option.ite_none_right_eq_some,
        Option.some.injEq] at hstep
      obtain ⟨hstage, rfl⟩ := hstep
      have hwritten := h.outstanding
      rw [hstage] at hwritten
      cases ok with
      | true => exact ⟨h.packets, hwritten, hguarded⟩
      | false => exact ⟨h.packets, hwritten.stop, hguarded⟩
  | read outcome => exact h.read hfits hstep
  | sent ok => exact h.sent hstep
  | flushed ok =>
      simp only [UplinkLoop.step, Option.ite_none_right_eq_some] at hstep
      obtain ⟨hstage, hstep⟩ := hstep
      have hwritten := h.outstanding
      rw [hstage] at hwritten
      cases ok with
      | true =>
          simp only [if_true, Option.some.injEq] at hstep
          subst hstep
          refine ⟨h.packets, ?_, hguarded⟩
          rw [BufWriter.written_flush]
          exact hwritten
      | false =>
          simp only [Bool.false_eq_true, if_false, Option.some.injEq] at hstep
          subst hstep
          exact ⟨h.packets, hwritten.stop, hguarded⟩

theorem framed_start : start.Framed where
  packets := by simp [start]
  outstanding := ⟨[], [], rfl, rfl, by rintro packets ⟨⟩; rfl⟩
  guarded := guarded_start

theorem inner_isPrefix_transportSend (writer : BufWriter) (packet : Bytes) :
    writer.inner <+: (transportSend true writer packet).inner := by
  simp only [transportSend, if_true, TcpRealityTransport.send]
  split
  · exact List.prefix_rfl
  · exact writer.inner_isPrefix_writeAll _

/-- A step gives TLS more bytes, or none. -/
theorem inner_isPrefix {event : UplinkEvent}
    (hstep : state.step true tunHdr event = some next) :
    state.writer.inner <+: next.writer.inner := by
  cases event with
  | ready ok =>
      simp only [UplinkLoop.step, Option.ite_none_right_eq_some,
        Option.some.injEq] at hstep
      obtain ⟨_, rfl⟩ := hstep
      exact List.prefix_rfl
  | read outcome =>
      simp only [UplinkLoop.step] at hstep
      split at hstep
      · split at hstep
        · split at hstep
          · obtain rfl := Option.some.inj hstep
            exact List.prefix_rfl
          · obtain rfl := Option.some.inj hstep
            exact List.prefix_rfl
        · obtain rfl := Option.some.inj hstep
          exact List.prefix_rfl
        · obtain rfl := Option.some.inj hstep
          exact List.prefix_rfl
      · cases hstep
  | sent ok =>
      simp only [UplinkLoop.step] at hstep
      split at hstep
      · split at hstep
        · split at hstep
          · obtain rfl := Option.some.inj hstep
            exact inner_isPrefix_transportSend _ _
          · obtain rfl := Option.some.inj hstep
            exact inner_isPrefix_transportSend _ _
        · obtain rfl := Option.some.inj hstep
          exact List.prefix_rfl
      · cases hstep
  | flushed ok =>
      simp only [UplinkLoop.step, Option.ite_none_right_eq_some] at hstep
      obtain ⟨_, hstep⟩ := hstep
      split at hstep
      · obtain rfl := Option.some.inj hstep
        exact state.writer.inner_isPrefix_flush
      · obtain rfl := Option.some.inj hstep
        exact List.prefix_rfl

theorem sound (tunHdr : Nat) :
    (uplinkSender tunHdr).Sound Framed (UplinkEvent.Fits tunHdr) where
  kept h hfits hstep := h.step hfits hstep
  grows hstep := inner_isPrefix hstep
  framed h := (List.prefix_append _ _).trans h.outstanding.isPrefix
  packets h := h.packets

/-- A loop that waits for its TUN has given all frames to TLS. -/
theorem Framed.inner_eq (h : state.Framed) (hstage : state.stage = .readable) :
    state.writer.inner = framing state.passed := by
  have hwritten := h.outstanding
  rw [hstage] at hwritten
  have hclean := h.guarded (Or.inl hstage)
  rw [← hwritten.all_written, BufWriter.written, hclean.2, List.append_nil]

end UplinkLoop

/-- What the server's loop is writing in a stage. -/
def TlsStage.writingNow : TlsStage → Option (List Bytes)
  | .writing packet _ => some [packet]
  | .ended => none
  | _ => some []

/-- The packets that an event takes from the queue. -/
def TlsEvent.packets : TlsEvent → List Bytes
  | .popped packet => [packet]
  | .tryPopped packet => packet.toList
  | .enter | .timer | .written _ | .flushed _ => []

/-- The queue holds what the TUN reader has put there. -/
def TlsEvent.Fits (event : TlsEvent) : Prop :=
  ∀ packet ∈ event.packets, packet ≠ [] ∧ packet.length ≤ maxFrameSize

/-- The server's loop, with the packets that it has taken from the queue. -/
structure QueueToTls where
  loop : TlsLoop
  taken : List Bytes

namespace QueueToTls

def start : QueueToTls := ⟨TlsLoop.start, []⟩

def step (state : QueueToTls) (event : TlsEvent) : Option QueueToTls :=
  (state.loop.step event).map fun next => ⟨next, state.taken ++ event.packets⟩

def sender : StreamSender QueueToTls TlsEvent where
  step := step
  inner state := state.loop.writer.inner
  taken state := state.taken

/-- The server's loop writes the frames of the packets that it takes. -/
structure Framed (state : QueueToTls) : Prop where
  packets : ∀ packet ∈ state.taken, packet ≠ [] ∧ packet.length ≤ 65535
  outstanding : Outstanding state.loop.stage.writingNow
    state.loop.writer.written state.taken
  guarded : state.loop.Guarded

variable {state next : QueueToTls}

theorem outstanding_step {loop after : TlsLoop} {taken : List Bytes}
    {event : TlsEvent}
    (h : Outstanding loop.stage.writingNow loop.writer.written taken)
    (hstep : loop.step event = some after) :
    Outstanding after.stage.writingNow after.writer.written
      (taken ++ event.packets) := by
  cases event with
  | enter =>
      simp only [TlsLoop.step, Option.ite_none_right_eq_some,
        Option.some.injEq] at hstep
      obtain ⟨hstage, rfl⟩ := hstep
      rw [hstage] at h
      rw [TlsEvent.packets, List.append_nil]
      by_cases hflag : loop.needsFlush
      · simpa [hflag, TlsStage.writingNow] using h
      · simpa [hflag, TlsStage.writingNow] using h
  | popped packet =>
      simp only [TlsLoop.step, Option.ite_none_right_eq_some,
        Option.some.injEq] at hstep
      obtain ⟨hstage, rfl⟩ := hstep
      apply Outstanding.take
      rcases hstage with hstage | hstage
      · rwa [hstage] at h
      · rwa [hstage] at h
  | timer =>
      simp only [TlsLoop.step, Option.ite_none_right_eq_some,
        Option.some.injEq] at hstep
      obtain ⟨hstage, rfl⟩ := hstep
      rw [hstage] at h
      rw [TlsEvent.packets, List.append_nil]
      exact h
  | written ok =>
      rw [TlsEvent.packets, List.append_nil]
      cases hstage : loop.stage with
      | writing packet first =>
          rw [hstage] at h
          cases ok with
          | true =>
              simp only [TlsLoop.step, hstage, if_true, Option.some.injEq]
                at hstep
              subst hstep
              exact h.write
          | false =>
              simp only [TlsLoop.step, hstage, Bool.false_eq_true, if_false,
                Option.some.injEq] at hstep
              subst hstep
              exact h.stop
      | _ => simp [TlsLoop.step, hstage] at hstep
  | tryPopped packet =>
      simp only [TlsLoop.step, Option.ite_none_right_eq_some] at hstep
      obtain ⟨hstage, hstep⟩ := hstep
      rw [hstage] at h
      cases packet with
      | some packet =>
          obtain rfl := Option.some.inj hstep
          exact h.take
      | none =>
          obtain rfl := Option.some.inj hstep
          rw [TlsEvent.packets, Option.toList_none, List.append_nil]
          exact h
  | flushed ok =>
      simp only [TlsLoop.step, Option.ite_none_right_eq_some] at hstep
      obtain ⟨hstage, hstep⟩ := hstep
      rw [hstage] at h
      rw [TlsEvent.packets, List.append_nil]
      cases ok with
      | true =>
          obtain rfl := Option.some.inj hstep
          rw [BufWriter.written_flush]
          exact h
      | false =>
          obtain rfl := Option.some.inj hstep
          exact h.stop

theorem Framed.step {event : TlsEvent} (h : state.Framed)
    (hfits : event.Fits) (hstep : state.step event = some next) :
    next.Framed := by
  simp only [QueueToTls.step, Option.map_eq_some_iff] at hstep
  obtain ⟨after, hafter, rfl⟩ := hstep
  refine ⟨?_, outstanding_step h.outstanding hafter,
    TlsLoop.guarded_step h.guarded hafter⟩
  intro packet hpacket
  rcases List.mem_append.mp hpacket with hold | hnew
  · exact h.packets packet hold
  · exact hfits packet hnew

theorem framed_start : start.Framed where
  packets := by simp [start]
  outstanding := ⟨[], [], rfl, rfl, by rintro packets ⟨⟩; rfl⟩
  guarded := TlsLoop.guarded_start

theorem inner_isPrefix {event : TlsEvent}
    (hstep : state.step event = some next) :
    state.loop.writer.inner <+: next.loop.writer.inner := by
  simp only [step, Option.map_eq_some_iff] at hstep
  obtain ⟨after, hafter, rfl⟩ := hstep
  cases event with
  | written ok =>
      simp only [TlsLoop.step] at hafter
      split at hafter
      · split at hafter
        · obtain rfl := Option.some.inj hafter
          exact BufWriter.inner_isPrefix_writeAll _ _
        · obtain rfl := Option.some.inj hafter
          exact List.prefix_rfl
      · cases hafter
  | flushed ok =>
      simp only [TlsLoop.step, Option.ite_none_right_eq_some] at hafter
      obtain ⟨_, hafter⟩ := hafter
      split at hafter
      · obtain rfl := Option.some.inj hafter
        exact BufWriter.inner_isPrefix_flush _
      · obtain rfl := Option.some.inj hafter
        exact List.prefix_rfl
  | tryPopped packet =>
      simp only [TlsLoop.step, Option.ite_none_right_eq_some] at hafter
      obtain ⟨_, hafter⟩ := hafter
      cases packet with
      | some packet =>
          obtain rfl := Option.some.inj hafter
          exact List.prefix_rfl
      | none =>
          obtain rfl := Option.some.inj hafter
          exact List.prefix_rfl
  | _ =>
      simp only [TlsLoop.step, Option.ite_none_right_eq_some,
        Option.some.injEq] at hafter
      obtain ⟨_, rfl⟩ := hafter
      exact List.prefix_rfl

theorem sound : sender.Sound Framed TlsEvent.Fits where
  kept h hfits hstep := h.step hfits hstep
  grows hstep := inner_isPrefix hstep
  framed h := (List.prefix_append _ _).trans h.outstanding.isPrefix
  packets h := h.packets

/-- A loop that waits for the queue alone has given all frames to TLS. -/
theorem Framed.inner_eq (h : state.Framed)
    (hstage : state.loop.stage = .pop) :
    state.loop.writer.inner = framing state.taken := by
  have hwritten := h.outstanding
  rw [hstage] at hwritten
  have hclean := h.guarded
  simp only [TlsLoop.Guarded, hstage] at hclean
  rw [← hwritten.all_written, BufWriter.written, hclean.1, List.append_nil]

end QueueToTls

/-- The server writes what passes the source check and the shaper. -/
def serverWrite (clientIp : Ipv4Addr) (admitted : Bool) (packet : Bytes) :
    List Bytes :=
  (frameToTun clientIp (fun _ => admitted) packet).toList

theorem serverWrite_eq (clientIp : Ipv4Addr) (admitted : Bool)
    (packet : Bytes) :
    serverWrite clientIp admitted packet =
      if admitted ∧ validateSourceIp packet clientIp then [packet] else [] := by
  by_cases hwrite : admitted ∧ validateSourceIp packet clientIp
  · have hsome : frameToTun clientIp (fun _ => admitted) packet =
        some packet :=
      validatedWrite_eq_some.mpr ⟨hwrite.2, hwrite.1, rfl⟩
    rw [serverWrite, hsome, if_pos hwrite, Option.toList_some]
  · rw [serverWrite, if_neg hwrite, Option.toList_eq_nil_iff,
      Option.eq_none_iff_forall_ne_some]
    intro written hwritten
    obtain ⟨hvalid, hadmitted, _⟩ := validatedWrite_eq_some.mp hwritten
    exact hwrite ⟨hadmitted, hvalid⟩

/-- Without batching the client writes every packet; the server sets no flag
over TCP. -/
theorem clientReceive_unbatched {packet : Bytes} (hne : packet ≠ []) :
    clientReceive false packet = [packet] := by
  simp [clientReceive, writeToTun, hne]

/-- From the client to the server. -/
def uplinkStep (tunHdr : Nat) (clientIp : Ipv4Addr) :
    StreamLink UplinkLoop → LinkEvent UplinkEvent →
      Option (StreamLink UplinkLoop) :=
  StreamLink.step (uplinkSender tunHdr) .tlsToTun (serverWrite clientIp)

/-- From the server to the client. -/
def downlinkStep : StreamLink QueueToTls → LinkEvent TlsEvent →
    Option (StreamLink QueueToTls) :=
  StreamLink.step QueueToTls.sender .transportRecv
    fun _ packet => clientReceive false packet

/-- A TCP Reality tunnel is a first-in first-out pipe, however its loops
interleave and however TCP cuts the stream.  At every moment the packets read
at one end are the first of those taken on at the other, and never is anything
else taken for a frame.  The server writes those of the client's packets that
have the right source, in order, and all of these if the shaper admits them;
the client writes all packets.  When the sending loop waits for new packets and
the link has drained, every packet has been read. -/
theorem reality_tunnel_fifo (tunHdr : Nat) (clientIp : Ipv4Addr) :
    (∀ (events : List (LinkEvent UplinkEvent))
      (link : StreamLink UplinkLoop),
      (∀ event, .send event ∈ events → event.Fits tunHdr) →
      Machine.run (uplinkStep tunHdr clientIp)
        (StreamLink.start UplinkLoop.start) events = some link →
      link.served <+: link.sender.passed ∧
      link.written.Sublist (link.served.filter fun packet =>
        validateSourceIp packet clientIp) ∧
      (.serve false ∉ events → link.written = link.served.filter fun packet =>
        validateSourceIp packet clientIp) ∧
      (∀ error, tlsToTun link.reader = .error error →
        error = .connectionLost) ∧
      (link.sender.stage = .readable →
        link.Drained (uplinkSender tunHdr) .tlsToTun →
        link.served = link.sender.passed)) ∧
    ∀ (events : List (LinkEvent TlsEvent)) (link : StreamLink QueueToTls),
      (∀ event, .send event ∈ events → event.Fits) →
      Machine.run downlinkStep (StreamLink.start QueueToTls.start) events =
        some link →
      link.served <+: link.sender.taken ∧
      link.written = link.served ∧
      (∀ error, TcpRealityTransport.recv link.reader = .error error →
        error = .connectionLost) ∧
      (link.sender.loop.stage = .pop →
        link.Drained QueueToTls.sender .transportRecv →
        link.served = link.sender.taken) := by
  constructor
  · intro events link hfits hrun
    have hsound := UplinkLoop.sound tunHdr
    have hinv := StreamLink.inv_of_run hsound UplinkLoop.framed_start hfits hrun
    refine ⟨?_, ?_, ?_, ?_, ?_⟩
    · obtain ⟨rest, htaken, _⟩ := hinv.served_prefix hsound
      exact ⟨rest, htaken.symm⟩
    · refine StreamLink.written_of_run (fun served written =>
        written.Sublist (served.filter fun packet =>
          validateSourceIp packet clientIp)) ?_ ?_ hrun
      · exact List.Sublist.refl _
      · intro served written packet admitted _ _ h
        rw [List.filter_append]
        apply h.append
        by_cases hvalid : validateSourceIp packet clientIp
        · cases admitted <;> simp [serverWrite_eq, hvalid]
        · simp [serverWrite_eq, hvalid]
    · intro hadmitted
      refine StreamLink.written_of_run (fun served written =>
        written = served.filter fun packet =>
          validateSourceIp packet clientIp) rfl ?_ hrun
      intro served written packet admitted hserve _ h
      have htrue : admitted = true := by
        rw [← Bool.not_eq_false]
        rintro rfl
        exact hadmitted hserve
      by_cases hvalid : validateSourceIp packet clientIp
      · simp [serverWrite_eq, h, htrue, hvalid]
      · simp [serverWrite_eq, h, hvalid]
    · intro error herror
      rcases hinv.recv_cases hsound .tlsToTun with ⟨_, _, hread⟩ | hlost
      · cases herror.symm.trans hread
      · cases herror.symm.trans hlost
        rfl
    · intro hstage hdrained
      exact hinv.served_of_drained hsound hdrained
        (hinv.sending.inner_eq hstage)
  · intro events link hfits hrun
    have hsound := QueueToTls.sound
    have hinv := StreamLink.inv_of_run hsound QueueToTls.framed_start hfits hrun
    refine ⟨?_, ?_, ?_, ?_⟩
    · obtain ⟨rest, htaken, _⟩ := hinv.served_prefix hsound
      exact ⟨rest, htaken.symm⟩
    · refine StreamLink.written_of_run (fun served written =>
        written = served) rfl ?_ hrun
      intro served written packet admitted _ hne h
      rw [h, clientReceive_unbatched hne]
    · intro error herror
      rcases hinv.recv_cases hsound .transportRecv with ⟨_, _, hread⟩ | hlost
      · cases herror.symm.trans hread
      · cases herror.symm.trans hlost
        rfl
    · intro hstage hdrained
      exact hinv.served_of_drained hsound hdrained
        (hinv.sending.inner_eq hstage)

/-- Two packets of the client, the second with a version that does not exist,
arrive in three pieces, and one packet of the server in two. -/
theorem reality_tunnel_fifo_pieces :
    ∃ up down,
      Machine.run (uplinkStep 0 ⟨10, 8, 0, 2⟩)
        (StreamLink.start UplinkLoop.start)
        [.send (.ready true), .send (.read (.bytes [96])), .send (.sent true),
          .send (.read (.bytes [1])), .send (.sent true),
          .send (.read .again), .send (.flushed true), .arrive 1, .arrive 4,
          .serve true, .arrive 1, .serve true] = some up ∧
      up.served = up.sender.passed ∧ up.written = [[96]] ∧
      Machine.run downlinkStep (StreamLink.start QueueToTls.start)
        [.send .enter, .send (.popped [69, 0]), .send (.written true),
          .send (.tryPopped none), .send .enter, .send .timer,
          .send (.flushed true), .send .enter, .arrive 3, .arrive 1,
          .serve true] = some down ∧
      down.written = down.sender.taken := by
  obtain ⟨huplink, hdownlink⟩ := reality_tunnel_fifo 0 ⟨10, 8, 0, 2⟩
  have hup : Machine.run (uplinkStep 0 ⟨10, 8, 0, 2⟩)
      (StreamLink.start UplinkLoop.start)
      [.send (.ready true), .send (.read (.bytes [96])), .send (.sent true),
        .send (.read (.bytes [1])), .send (.sent true),
        .send (.read .again), .send (.flushed true), .arrive 1, .arrive 4,
        .serve true, .arrive 1, .serve true] = some _ := rfl
  have hdown : Machine.run downlinkStep (StreamLink.start QueueToTls.start)
      [.send .enter, .send (.popped [69, 0]), .send (.written true),
        .send (.tryPopped none), .send .enter, .send .timer,
        .send (.flushed true), .send .enter, .arrive 3, .arrive 1,
        .serve true] = some _ := rfl
  obtain ⟨_, _, hadmitted, _, hall⟩ := huplink _ _ (by
    intro event hevent
    simp only [List.mem_cons, LinkEvent.send.injEq, reduceCtorEq,
      List.not_mem_nil, or_false] at hevent
    rcases hevent with rfl | rfl | rfl | rfl | rfl | rfl | rfl <;>
      simp [UplinkEvent.Fits, maxFrameSize]) hup
  obtain ⟨_, hwritten, _, hdrained⟩ := hdownlink _ _ (by
    intro event hevent
    simp only [List.mem_cons, LinkEvent.send.injEq, reduceCtorEq,
      List.not_mem_nil, or_false] at hevent
    rcases hevent with rfl | rfl | rfl | rfl | rfl | rfl | rfl | rfl <;>
      simp [TlsEvent.Fits, TlsEvent.packets, maxFrameSize]) hdown
  have hserved := hall rfl ⟨rfl, _, rfl⟩
  refine ⟨_, _, hup, hserved, ?_, hdown, ?_⟩
  · rw [hadmitted (by simp), hserved]
    rfl
  · exact hwritten.trans (hdrained rfl ⟨rfl, _, rfl⟩)

end Redpill
