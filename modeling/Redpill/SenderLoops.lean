/-
The three sender loops as machines that stop at every point where they wait:
the server's queue-to-datagram loop and queue-to-TLS loop (`server.rs`) and
the client's TUN-to-transport loop (`client.rs`).  What a loop holds back when
it waits without a timer would stay there until other traffic comes.
-/
import Redpill.Downlink
import Redpill.Framing
import Redpill.Machine

namespace Redpill

open ByteStream

universe u

/-- Where the queue-to-datagram loop is: at its head, waiting for the queue or
the flush timer, waiting for the queue alone, or returned with an error. -/
inductive QuicStage where
  | head
  | popOrTimer
  | pop
  | ended
deriving Repr, DecidableEq

/-- A step of the queue-to-datagram loop. -/
inductive QuicEvent where
  | enter
  | popped (packet : Bytes)
  | timer
deriving Repr, DecidableEq

structure QuicLoop (Conn : Type u) where
  stage : QuicStage
  loop : SendLoop Conn

namespace QuicLoop

variable {Conn : Type u} (quinn : Quinn Conn)

def start (conn : Conn) : QuicLoop Conn := ⟨.head, SendLoop.start conn⟩

/-- Back at the head, or out of the loop when the connection was lost. -/
def resume (loop : SendLoop Conn) : QuicLoop Conn :=
  ⟨if loop.link.lost then .ended else .head, loop⟩

def step (padded : Bool) (state : QuicLoop Conn) :
    QuicEvent → Option (QuicLoop Conn)
  | .enter =>
      if state.stage = .head then
        some { state with stage :=
          if state.loop.batcher.hasPending then .popOrTimer else .pop }
      else none
  | .popped packet =>
      if state.stage = .popOrTimer ∨ state.stage = .pop then
        some (resume
          (state.loop.dispatch quinn (camouflagedSend padded packet)))
      else none
  | .timer =>
      if state.stage = .popOrTimer then
        some (resume (state.loop.flush quinn))
      else none

/-- A loop that waits for the queue alone has nothing pending. -/
def Drained (state : QuicLoop Conn) : Prop :=
  state.stage = .pop → state.loop.batcher.pending = []

theorem drained_resume (loop : SendLoop Conn) : (resume loop).Drained := by
  intro hpop
  rw [resume] at hpop
  by_cases hlost : loop.link.lost
  · simp [hlost] at hpop
  · simp [hlost] at hpop

theorem drained_step {padded : Bool} {state next : QuicLoop Conn}
    {event : QuicEvent} (hstep : state.step quinn padded event = some next) :
    next.Drained := by
  cases event with
  | enter =>
      simp only [step, Option.ite_none_right_eq_some, Option.some.injEq]
        at hstep
      obtain ⟨_, rfl⟩ := hstep
      intro hpop
      by_cases hpending : state.loop.batcher.hasPending
      · simp [hpending] at hpop
      · simpa [DatagramBatcher.hasPending] using hpending
  | popped packet =>
      simp only [step, Option.ite_none_right_eq_some, Option.some.injEq]
        at hstep
      obtain ⟨_, rfl⟩ := hstep
      exact drained_resume _
  | timer =>
      simp only [step, Option.ite_none_right_eq_some, Option.some.injEq]
        at hstep
      obtain ⟨_, rfl⟩ := hstep
      exact drained_resume _

theorem drained_start (conn : Conn) : (start conn).Drained := by
  intro hpop
  cases hpop

end QuicLoop

/-- Where the queue-to-TLS loop is.  Beside the points of the other loop it
stops in `write_all`, where `first` tells the packet it waited for from the
drained ones, between two drained packets, and in `flush`. -/
inductive TlsStage where
  | head
  | popOrTimer
  | pop
  | writing (packet : Bytes) (first : Bool)
  | draining
  | flushing
  | ended
deriving Repr, DecidableEq

/-- A step of the queue-to-TLS loop.  Writes and flushes may fail. -/
inductive TlsEvent where
  | enter
  | popped (packet : Bytes)
  | timer
  | written (ok : Bool)
  | tryPopped (packet : Option Bytes)
  | flushed (ok : Bool)
deriving Repr, DecidableEq

/-- The loop's state.  `flushed` is what had been written at the last
flush. -/
structure TlsLoop where
  stage : TlsStage
  writer : BufWriter
  needsFlush : Bool
  flushed : Bytes
deriving Repr, DecidableEq

namespace TlsLoop

def start : TlsLoop := ⟨.head, BufWriter.withCapacity (64 * 1024), false, []⟩

def step (state : TlsLoop) : TlsEvent → Option TlsLoop
  | .enter =>
      if state.stage = .head then
        some { state with
          stage := if state.needsFlush then .popOrTimer else .pop }
      else none
  | .popped packet =>
      if state.stage = .popOrTimer ∨ state.stage = .pop then
        some { state with stage := .writing packet true }
      else none
  | .timer =>
      if state.stage = .popOrTimer then some { state with stage := .flushing }
      else none
  | .written ok =>
      match state.stage with
      | .writing packet first =>
          if ok then some { state with
            stage := .draining
            writer := queueToTls state.writer packet
            needsFlush := if first then true else state.needsFlush }
          else some { state with stage := .ended }
      | _ => none
  | .tryPopped packet =>
      if state.stage = .draining then
        match packet with
        | some packet => some { state with stage := .writing packet false }
        | none => some { state with stage := .head }
      else none
  | .flushed ok =>
      if state.stage = .flushing then
        if ok then some { state with
          stage := .head
          writer := state.writer.flush
          needsFlush := false
          flushed := state.writer.written }
        else some { state with stage := .ended }
      else none

/-- Every frame has been flushed. -/
def Clean (state : TlsLoop) : Prop :=
  state.writer.buffer = [] ∧ state.flushed = state.writer.written

/-- At the head the flag is set unless every frame has been flushed, and the
wait for the queue alone is entered only then; while draining the flag is
set. -/
def Guarded (state : TlsLoop) : Prop :=
  match state.stage with
  | .head => state.needsFlush = true ∨ state.Clean
  | .pop => state.Clean
  | .writing _ first => first = true ∨ state.needsFlush = true
  | .draining => state.needsFlush = true
  | .popOrTimer | .flushing | .ended => True

theorem guarded_enter {state next : TlsLoop} (hinv : state.Guarded)
    (hstep : state.step .enter = some next) : next.Guarded := by
  simp only [step, Option.ite_none_right_eq_some, Option.some.injEq] at hstep
  obtain ⟨hstage, rfl⟩ := hstep
  simp only [Guarded, hstage] at hinv
  rcases hinv with hflag | hclean
  · simp [Guarded, hflag]
  · by_cases hflag : state.needsFlush
    · simp [Guarded, hflag]
    · simp only [Guarded, hflag, Bool.false_eq_true, if_false]
      exact hclean

theorem guarded_written {state next : TlsLoop} {ok : Bool}
    (hinv : state.Guarded) (hstep : state.step (.written ok) = some next) :
    next.Guarded := by
  cases hstage : state.stage with
  | writing packet first =>
      simp only [Guarded, hstage] at hinv
      cases ok with
      | true =>
          simp only [step, hstage, if_true, Option.some.injEq] at hstep
          subst hstep
          rcases hinv with hfirst | hflag
          · simp [Guarded, hfirst]
          · simp [Guarded, hflag]
      | false =>
          simp only [step, hstage, Bool.false_eq_true, if_false,
            Option.some.injEq] at hstep
          subst hstep
          trivial
  | _ => simp [step, hstage] at hstep

theorem guarded_flushed {state next : TlsLoop} {ok : Bool}
    (hstep : state.step (.flushed ok) = some next) : next.Guarded := by
  simp only [step, Option.ite_none_right_eq_some] at hstep
  obtain ⟨_, hstep⟩ := hstep
  cases ok with
  | true =>
      simp only [if_true, Option.some.injEq] at hstep
      subst hstep
      exact Or.inr ⟨rfl, state.writer.written_flush.symm⟩
  | false =>
      simp only [Bool.false_eq_true, if_false, Option.some.injEq] at hstep
      subst hstep
      trivial

theorem guarded_step {state next : TlsLoop} {event : TlsEvent}
    (hinv : state.Guarded) (hstep : state.step event = some next) :
    next.Guarded := by
  cases event with
  | enter => exact guarded_enter hinv hstep
  | popped packet =>
      simp only [step, Option.ite_none_right_eq_some, Option.some.injEq]
        at hstep
      obtain ⟨_, rfl⟩ := hstep
      exact Or.inl rfl
  | timer =>
      simp only [step, Option.ite_none_right_eq_some, Option.some.injEq]
        at hstep
      obtain ⟨_, rfl⟩ := hstep
      trivial
  | written ok => exact guarded_written hinv hstep
  | tryPopped packet =>
      simp only [step, Option.ite_none_right_eq_some] at hstep
      obtain ⟨hstage, hstep⟩ := hstep
      simp only [Guarded, hstage] at hinv
      cases packet with
      | some packet =>
          simp only [Option.some.injEq] at hstep
          subst hstep
          exact Or.inr hinv
      | none =>
          simp only [Option.some.injEq] at hstep
          subst hstep
          exact Or.inl hinv
  | flushed ok => exact guarded_flushed hstep

theorem guarded_start : start.Guarded := Or.inr ⟨rfl, rfl⟩

end TlsLoop

def maxTunBatch : Nat := 64

/-- What a read of the TUN device gives: bytes, nothing yet, or an error. -/
inductive TunRead where
  | bytes (data : Bytes)
  | again
  | failed
deriving Repr, DecidableEq

/-- Where the client's loop is: waiting for the TUN to be readable, about to
read, in `transport.send`, in `transport.flush`, or returned with an error.
`batch` counts the sends of this round. -/
inductive UplinkStage where
  | readable
  | reading (batch : Nat)
  | sending (batch : Nat) (packet : Bytes)
  | flushing
  | ended
deriving Repr, DecidableEq

/-- A step of the client's loop.  Every outcome of a send except an error
counts in the batch. -/
inductive UplinkEvent where
  | ready (ok : Bool)
  | read (outcome : TunRead)
  | sent (ok : Bool)
  | flushed (ok : Bool)
deriving Repr, DecidableEq

/-- The loop's state: the writer of the transport, which only TCP Reality
uses, the packets passed to `send`, and those passed before the last flush. -/
structure UplinkLoop where
  stage : UplinkStage
  writer : BufWriter
  passed : List Bytes
  flushed : List Bytes
deriving Repr, DecidableEq

namespace UplinkLoop

def start : UplinkLoop :=
  ⟨.readable, BufWriter.withCapacity (64 * 1024), [], []⟩

/-- After the inner loop: flush if anything was sent in this round. -/
def finish (state : UplinkLoop) (batch : Nat) : UplinkLoop :=
  { state with stage := if 0 < batch then .flushing else .readable }

/-- The transport's writer after a send. -/
def transportSend (buffered : Bool) (writer : BufWriter) (packet : Bytes) :
    BufWriter :=
  if buffered then (TcpRealityTransport.send writer packet).2 else writer

/-- One step.  `tunHdr` is the length of the header that the TUN device puts
before a packet. -/
def step (buffered : Bool) (tunHdr : Nat) (state : UplinkLoop) :
    UplinkEvent → Option UplinkLoop
  | .ready ok =>
      if state.stage = .readable then
        some { state with stage := if ok then .reading 0 else .ended }
      else none
  | .read outcome =>
      match state.stage with
      | .reading batch =>
          match outcome with
          | .bytes data =>
              if tunHdr < data.length then some { state with
                stage := .sending batch (data.drop tunHdr)
                passed := state.passed ++ [data.drop tunHdr] }
              else some (state.finish batch)
          | .again => some (state.finish batch)
          | .failed => some { state with stage := .ended }
      | _ => none
  | .sent ok =>
      match state.stage with
      | .sending batch packet =>
          if ok then
            let sent := { state with
              stage := .reading (batch + 1)
              writer := transportSend buffered state.writer packet }
            if maxTunBatch ≤ batch + 1 then some (sent.finish (batch + 1))
            else some sent
          else some { state with stage := .ended }
      | _ => none
  | .flushed ok =>
      if state.stage = .flushing then
        if ok then some { state with
          stage := .readable
          writer := state.writer.flush
          flushed := state.passed }
        else some { state with stage := .ended }
      else none

/-- Every packet passed to the transport has been flushed. -/
def Clean (state : UplinkLoop) : Prop :=
  state.flushed = state.passed ∧ state.writer.buffer = []

/-- The loop waits, and begins a round, only with everything flushed. -/
def Guarded (state : UplinkLoop) : Prop :=
  state.stage = .readable ∨ state.stage = .reading 0 → state.Clean

theorem guarded_of_stage {state : UplinkLoop}
    (hreadable : state.stage ≠ .readable)
    (hreading : state.stage ≠ .reading 0) : state.Guarded := by
  rintro (hstage | hstage)
  · exact absurd hstage hreadable
  · exact absurd hstage hreading

/-- A round without a send leaves everything flushed; any other goes on to
flush. -/
theorem guarded_finish {state : UplinkLoop} {batch : Nat}
    (hclean : batch = 0 → state.Clean) : (state.finish batch).Guarded := by
  by_cases hbatch : 0 < batch
  · apply guarded_of_stage
    · simp [finish, hbatch]
    · simp [finish, hbatch]
  · intro _
    exact hclean (by omega)

theorem guarded_read {buffered : Bool} {tunHdr : Nat}
    {state next : UplinkLoop} {outcome : TunRead} (hinv : state.Guarded)
    (hstep : state.step buffered tunHdr (.read outcome) = some next) :
    next.Guarded := by
  cases hstage : state.stage with
  | reading batch =>
      have hclean : batch = 0 → state.Clean := by
        rintro rfl
        exact hinv (Or.inr hstage)
      simp only [step, hstage] at hstep
      cases outcome with
      | bytes data =>
          by_cases hlong : tunHdr < data.length
          · simp only [hlong, if_true, Option.some.injEq] at hstep
            subst hstep
            exact guarded_of_stage (by simp) (by simp)
          · simp only [hlong, if_false, Option.some.injEq] at hstep
            subst hstep
            exact guarded_finish hclean
      | again =>
          simp only [Option.some.injEq] at hstep
          subst hstep
          exact guarded_finish hclean
      | failed =>
          simp only [Option.some.injEq] at hstep
          subst hstep
          exact guarded_of_stage (by simp) (by simp)
  | _ => simp [step, hstage] at hstep

/-- A send that returns is counted, so the round will end in a flush. -/
theorem guarded_sent {buffered : Bool} {tunHdr : Nat}
    {state next : UplinkLoop} {ok : Bool}
    (hstep : state.step buffered tunHdr (.sent ok) = some next) :
    next.Guarded := by
  cases hstage : state.stage with
  | sending batch packet =>
      simp only [step, hstage] at hstep
      cases ok with
      | true =>
          by_cases hfull : maxTunBatch ≤ batch + 1
          · simp only [if_true, hfull, Option.some.injEq] at hstep
            subst hstep
            exact guarded_finish (by omega)
          · simp only [if_true, hfull, if_false, Option.some.injEq] at hstep
            subst hstep
            exact guarded_of_stage (by simp) (by simp)
      | false =>
          simp only [Bool.false_eq_true, if_false, Option.some.injEq] at hstep
          subst hstep
          exact guarded_of_stage (by simp) (by simp)
  | _ => simp [step, hstage] at hstep

theorem guarded_flushed {buffered : Bool} {tunHdr : Nat}
    {state next : UplinkLoop} {ok : Bool}
    (hstep : state.step buffered tunHdr (.flushed ok) = some next) :
    next.Guarded := by
  simp only [step, Option.ite_none_right_eq_some] at hstep
  obtain ⟨_, hstep⟩ := hstep
  cases ok with
  | true =>
      simp only [if_true, Option.some.injEq] at hstep
      subst hstep
      intro _
      exact ⟨rfl, rfl⟩
  | false =>
      simp only [Bool.false_eq_true, if_false, Option.some.injEq] at hstep
      subst hstep
      exact guarded_of_stage (by simp) (by simp)

theorem guarded_step {buffered : Bool} {tunHdr : Nat}
    {state next : UplinkLoop} {event : UplinkEvent} (hinv : state.Guarded)
    (hstep : state.step buffered tunHdr event = some next) :
    next.Guarded := by
  cases event with
  | ready ok =>
      simp only [step, Option.ite_none_right_eq_some, Option.some.injEq]
        at hstep
      obtain ⟨hstage, rfl⟩ := hstep
      intro _
      exact hinv (Or.inl hstage)
  | read outcome => exact guarded_read hinv hstep
  | sent ok => exact guarded_sent hstep
  | flushed ok => exact guarded_flushed hstep

theorem guarded_start : start.Guarded := fun _ => ⟨rfl, rfl⟩

end UplinkLoop

/-- No loop strands a packet.  The queue-to-datagram loop waits for the queue
alone with an empty batcher, the queue-to-TLS loop with every frame flushed,
and the client's loop waits for its TUN with every packet flushed that it
passed to the transport. -/
theorem sender_loops_strand_nothing :
    (∀ {Conn : Type u} (quinn : Quinn Conn) (padded : Bool) (conn : Conn)
      (events : List QuicEvent) (state : QuicLoop Conn),
      Machine.run (QuicLoop.step quinn padded) (QuicLoop.start conn) events =
        some state →
      state.stage = .pop → state.loop.batcher.pending = []) ∧
    (∀ (events : List TlsEvent) (state : TlsLoop),
      Machine.run TlsLoop.step TlsLoop.start events = some state →
      state.stage = .pop →
      state.writer.buffer = [] ∧ state.flushed = state.writer.written) ∧
    ∀ (buffered : Bool) (tunHdr : Nat) (events : List UplinkEvent)
      (state : UplinkLoop),
      Machine.run (UplinkLoop.step buffered tunHdr) UplinkLoop.start events =
        some state →
      state.stage = .readable →
      state.flushed = state.passed ∧ state.writer.buffer = [] := by
  refine ⟨?_, ?_, ?_⟩
  · intro Conn quinn padded conn events state hrun hstage
    have hinv : state.Drained := Machine.Reachable.invariant
      (fun _ _ _ _ hstep => QuicLoop.drained_step quinn hstep)
      (QuicLoop.drained_start conn) ⟨events, hrun⟩
    exact hinv hstage
  · intro events state hrun hstage
    have hinv : state.Guarded := Machine.Reachable.invariant
      (fun _ _ _ hinv hstep => TlsLoop.guarded_step hinv hstep)
      TlsLoop.guarded_start ⟨events, hrun⟩
    simp only [TlsLoop.Guarded, hstage] at hinv
    exact hinv
  · intro buffered tunHdr events state hrun hstage
    have hinv : state.Guarded := Machine.Reachable.invariant
      (fun _ _ _ hinv hstep => UplinkLoop.guarded_step hinv hstep)
      UplinkLoop.guarded_start ⟨events, hrun⟩
    exact hinv (Or.inl hstage)

/-- One frame written and flushed by the timer, one packet of the TUN sent and
flushed, and a new session. -/
theorem sender_loops_strand_nothing_one :
    (QuicLoop.mk .pop (SendLoop.start ([] : List Bytes))).loop.batcher.pending =
        [] ∧
      (TlsLoop.mk .pop ⟨65536, frame [1], []⟩ false (frame [1])).writer.buffer =
        [] ∧
      (UplinkLoop.mk .readable ⟨65536, frame [69, 1], []⟩ [[69, 1]]
        [[69, 1]]).writer.buffer = [] := by
  obtain ⟨hquic, htls, huplink⟩ := sender_loops_strand_nothing.{0}
  refine ⟨?_, ?_, ?_⟩
  · exact hquic recordingQuinn true [] [.enter] _ rfl rfl
  · exact (htls [.enter, .popped [1], .written true, .tryPopped none, .enter,
      .timer, .flushed true, .enter] ⟨.pop, _, _, _⟩ rfl rfl).1
  · exact (huplink true 0 [.ready true, .read (.bytes [69, 1]), .sent true,
      .read .again, .flushed true] ⟨.readable, _, _, _⟩ rfl rfl).2

end Redpill
