/-
One direction of a tunnel over a byte stream: a sending loop that writes frames,
the stream, which carries bytes in pieces of any size, and the loop that reads
frames at the other end.  What the receiver relies on is a property of the
sending loop alone.
-/
import Redpill.Framing
import Redpill.Machine

namespace Redpill

open ByteStream

universe u v

/-- A sending loop, as far as the other end is concerned. -/
structure StreamSender (S : Type u) (E : Type v) where
  step : S → E → Option S
  /-- The bytes that TLS has been given. -/
  inner : S → Bytes
  /-- The packets that the loop has taken on. -/
  taken : S → List Bytes

/-- What the other end relies on. -/
structure StreamSender.Sound {S : Type u} {E : Type v}
    (sender : StreamSender S E) (Inv : S → Prop) (allowed : E → Prop) :
    Prop where
  kept : ∀ {state next event}, Inv state → allowed event →
    sender.step state event = some next → Inv next
  grows : ∀ {state next event}, sender.step state event = some next →
    sender.inner state <+: sender.inner next
  framed : ∀ {state}, Inv state →
    sender.inner state <+: framing (sender.taken state)
  packets : ∀ {state}, Inv state → ∀ packet ∈ sender.taken state,
    packet ≠ [] ∧ packet.length ≤ 65535

/-- Both ends and what is between them. -/
structure StreamLink (S : Type u) where
  sender : S
  /-- How many bytes of the stream have arrived. -/
  arrived : Nat
  reader : FrameReader
  /-- The packets read so far, and those written to the TUN. -/
  served : List Bytes
  written : List Bytes

inductive LinkEvent (E : Type v) where
  | send (event : E)
  | arrive (count : Nat)
  /-- A frame is read; `admitted` is the verdict of the shaper. -/
  | serve (admitted : Bool)

namespace StreamLink

variable {S : Type u} {E : Type v}

def start (state : S) : StreamLink S :=
  ⟨state, 0, FrameReader.new [], [], []⟩

/-- The receiving loop waits as long as no complete frame has arrived. -/
def step (sender : StreamSender S E) (receiver : FrameReceiver)
    (write : Bool → Bytes → List Bytes) (link : StreamLink S) :
    LinkEvent E → Option (StreamLink S)
  | .send event =>
      (sender.step link.sender event).map fun next =>
        { link with sender := next }
  | .arrive count =>
      let waiting := (sender.inner link.sender).drop link.arrived
      if 0 < count ∧ count ≤ waiting.length then
        some { link with
          arrived := link.arrived + count
          reader := { link.reader with
            chunks := link.reader.chunks ++ [waiting.take count] } }
      else none
  | .serve admitted =>
      match receiver.recv link.reader with
      | .error _ => none
      | .ok (packet, next) =>
          some { link with
            reader := next
            served := link.served ++ [packet]
            written := link.written ++ write admitted packet }

/-- Everything that was sent has arrived, and the receiver waits for more. -/
def Drained (sender : StreamSender S E) (receiver : FrameReceiver)
    (link : StreamLink S) : Prop :=
  link.arrived = (sender.inner link.sender).length ∧
    ∃ error, receiver.recv link.reader = .error error

/-- What has arrived is what was read and what is still to be read. -/
structure Inv (sender : StreamSender S E) (Sending : S → Prop)
    (link : StreamLink S) : Prop where
  sending : Sending link.sender
  bound : link.arrived ≤ (sender.inner link.sender).length
  stream : framing link.served ++ link.reader.chunks.flatten =
    (sender.inner link.sender).take link.arrived
  packets : ∀ packet ∈ link.served, packet ≠ [] ∧ packet.length ≤ 65535

theorem framing_append (first second : List Bytes) :
    framing (first ++ second) = framing first ++ framing second :=
  List.flatMap_append

variable {sender : StreamSender S E} {receiver : FrameReceiver}
  {write : Bool → Bytes → List Bytes} {Sending : S → Prop}
  {allowed : E → Prop} {link next : StreamLink S}

namespace Inv

theorem step (hsound : sender.Sound Sending allowed)
    (h : Inv sender Sending link) {event : LinkEvent E}
    (hallowed : ∀ sent, event = .send sent → allowed sent)
    (hstep : link.step sender receiver write event = some next) :
    Inv sender Sending next := by
  cases event with
  | send sent =>
      simp only [StreamLink.step, Option.map_eq_some_iff] at hstep
      obtain ⟨state, hsent, rfl⟩ := hstep
      obtain ⟨more, hmore⟩ := hsound.grows hsent
      refine ⟨hsound.kept h.sending (hallowed sent rfl) hsent, ?_, ?_,
        h.packets⟩
      · rw [← hmore, List.length_append]
        exact Nat.le_add_right_of_le h.bound
      · rw [h.stream, ← hmore, List.take_append_of_le_length h.bound]
  | arrive count =>
      simp only [StreamLink.step, Option.ite_none_right_eq_some] at hstep
      obtain ⟨⟨_, hcount⟩, hnext⟩ := hstep
      obtain rfl := Option.some.inj hnext
      rw [List.length_drop] at hcount
      have hbound := h.bound
      refine ⟨h.sending, ?_, ?_, h.packets⟩
      · show link.arrived + count ≤ (sender.inner link.sender).length
        omega
      · simp only [List.flatten_append, List.flatten_singleton]
        rw [← List.append_assoc, h.stream, ← List.take_add]
  | serve admitted =>
      simp only [StreamLink.step] at hstep
      cases hread : receiver.recv link.reader with
      | error error =>
          rw [hread] at hstep
          cases hstep
      | ok result =>
          rw [hread] at hstep
          obtain rfl := Option.some.inj hstep
          rw [FrameReceiver.recv_eq] at hread
          obtain ⟨hne, hmax, hstream⟩ := recvFrame_eq_ok hread
          refine ⟨h.sending, h.bound, ?_, ?_⟩
          · rw [framing_append, List.append_assoc, ← h.stream, hstream]
            simp [framing]
          · intro packet hpacket
            rcases List.mem_append.mp hpacket with hold | hnew
            · exact h.packets packet hold
            · rw [List.mem_singleton.mp hnew]
              exact ⟨hne, hmax⟩

/-- The packets read are the first of those that were taken on, and what has
not been read yet starts the frames of the others. -/
theorem served_prefix (hsound : sender.Sound Sending allowed)
    (h : Inv sender Sending link) :
    ∃ rest, sender.taken link.sender = link.served ++ rest ∧
      link.reader.chunks.flatten <+: framing rest := by
  have hstream : framing link.served ++ link.reader.chunks.flatten <+:
      framing (sender.taken link.sender) := by
    rw [h.stream]
    exact (List.take_prefix _ _).trans (hsound.framed h.sending)
  obtain ⟨rest, hrest⟩ := framing_isPrefix
    (fun packet hpacket => (h.packets packet hpacket).2)
    (fun packet hpacket => (hsound.packets h.sending packet hpacket).2)
    ((List.prefix_append _ _).trans hstream)
  refine ⟨rest, hrest.symm, ?_⟩
  rw [← hrest, framing_append] at hstream
  exact (List.prefix_append_right_inj _).mp hstream

/-- From the first bytes of a framing a packet is read, or more is waited
for. -/
theorem recvFrame_of_prefix {packets : List Bytes} {reader : FrameReader}
    (hpackets : ∀ packet ∈ packets, packet ≠ [] ∧ packet.length ≤ 65535)
    (hstream : reader.chunks.flatten <+: framing packets) :
    (∃ packet next, recvFrame 65535 reader = .ok (packet, next)) ∨
      recvFrame 65535 reader = .error .connectionLost := by
  cases hlen : readExact 2 reader.chunks with
  | none => exact Or.inr (by simp [recvFrame, hlen])
  | some result =>
      obtain ⟨lenBuf, afterLen⟩ := result
      obtain ⟨htwo, hflat⟩ := readExact_eq_some hlen
      cases packets with
      | nil =>
          have hempty := List.prefix_nil.mp hstream
          rw [hflat] at hempty
          have hlength := congrArg List.length hempty
          simp [htwo] at hlength
      | cons packet rest =>
          obtain ⟨hne, hmax⟩ := hpackets packet List.mem_cons_self
          have hword : lenBuf = u16ToBeBytes packet.length := by
            rw [hflat, framing, List.flatMap_cons, frame,
              List.append_assoc] at hstream
            have hfirst := (List.prefix_append lenBuf _).trans hstream
            exact (List.prefix_of_prefix_length_le hfirst
              (List.prefix_append _ _) (by simp [htwo])).eq_of_length
                (by simp [htwo])
          have hvalue := u16FromBeBytes_ofNat (Nat.lt_succ_of_le hmax)
          have hpos : packet.length ≠ 0 := by
            rwa [Ne, List.length_eq_zero_iff]
          have hvalid : ¬ (packet.length = 0 ∨ 65535 < packet.length) := by
            omega
          simp only [recvFrame, hlen, hword, u16ToBeBytes,
            List.getD_cons_zero, List.getD_cons_succ, hvalue, if_neg hvalid]
          cases readExact packet.length afterLen with
          | none => exact Or.inr rfl
          | some data => exact Or.inl ⟨_, _, rfl⟩

/-- The receiver never takes anything else for a length. -/
theorem recv_cases (hsound : sender.Sound Sending allowed)
    (h : Inv sender Sending link) (receiver : FrameReceiver) :
    (∃ packet next, receiver.recv link.reader = .ok (packet, next)) ∨
      receiver.recv link.reader = .error .connectionLost := by
  obtain ⟨rest, htaken, hunread⟩ := h.served_prefix hsound
  rw [FrameReceiver.recv_eq]
  refine recvFrame_of_prefix ?_ hunread
  intro packet hpacket
  apply hsound.packets h.sending
  rw [htaken]
  exact List.mem_append_right _ hpacket

/-- Once the link has drained and the sender has nothing left in its buffer,
every packet has been read. -/
theorem served_of_drained (hsound : sender.Sound Sending allowed)
    (h : Inv sender Sending link) (hdrained : link.Drained sender receiver)
    (hflushed : sender.inner link.sender =
      framing (sender.taken link.sender)) :
    link.served = sender.taken link.sender := by
  obtain ⟨rest, htaken, _⟩ := h.served_prefix hsound
  obtain ⟨harrived, error, hwaits⟩ := hdrained
  have hunread : link.reader.chunks.flatten = framing rest := by
    have hstream := h.stream
    rw [harrived, List.take_length, hflushed, htaken, framing_append] at hstream
    exact List.append_cancel_left hstream
  cases rest with
  | nil => rw [htaken, List.append_nil]
  | cons packet others =>
      have hpacket := hsound.packets h.sending packet (by simp [htaken])
      obtain ⟨_, hread, _⟩ := recvFrame_frame hpacket.1 hpacket.2 hunread
      rw [FrameReceiver.recv_eq, hread] at hwaits
      cases hwaits

theorem start {state : S} (hstate : Sending state) :
    Inv sender Sending (StreamLink.start state) where
  sending := hstate
  bound := Nat.zero_le _
  stream := rfl
  packets := by simp [StreamLink.start]

end Inv

/-- What every run keeps. -/
theorem inv_of_run (hsound : sender.Sound Sending allowed) {state : S}
    (hstate : Sending state) {events : List (LinkEvent E)}
    (hallowed : ∀ sent, .send sent ∈ events → allowed sent)
    (hrun : Machine.run (step sender receiver write) (start state) events =
      some link) : Inv sender Sending link := by
  have hmeets : Machine.Meets (step sender receiver write)
      (fun _ event => ∀ sent, event = .send sent → allowed sent)
      (start state) events := by
    rw [Machine.meets_labels_iff hrun]
    intro event hevent sent heq
    exact hallowed sent (heq ▸ hevent)
  exact Machine.run_invariant_of_meets
    (fun _ _ _ h hevent hstep => h.step hsound hevent hstep)
    (Inv.start hstate) hmeets hrun

/-- What holds of the packets read and written at first, and after each packet
that is read. -/
theorem written_of_run (P : List Bytes → List Bytes → Prop) {state : S}
    {events : List (LinkEvent E)} (hstart : P [] [])
    (happend : ∀ served written packet admitted, .serve admitted ∈ events →
      packet ≠ [] → P served written →
      P (served ++ [packet]) (written ++ write admitted packet))
    (hrun : Machine.run (step sender receiver write) (start state) events =
      some link) : P link.served link.written := by
  have hmeets : Machine.Meets (step sender receiver write)
      (fun _ event => event ∈ events) (start state) events := by
    rw [Machine.meets_labels_iff hrun]
    exact fun _ hevent => hevent
  let Kept : StreamLink S → Prop := fun link => P link.served link.written
  suffices hkept : ∀ link event next, Kept link → event ∈ events →
      step sender receiver write link event = some next → Kept next from
    Machine.run_invariant_of_meets hkept hstart hmeets hrun
  intro link event next h hevent hstep
  cases event with
  | send sent =>
      simp only [step, Option.map_eq_some_iff] at hstep
      obtain ⟨_, _, rfl⟩ := hstep
      exact h
  | arrive count =>
      simp only [step, Option.ite_none_right_eq_some] at hstep
      obtain ⟨_, hnext⟩ := hstep
      obtain rfl := Option.some.inj hnext
      exact h
  | serve admitted =>
      simp only [step] at hstep
      cases hread : receiver.recv link.reader with
      | error error =>
          rw [hread] at hstep
          cases hstep
      | ok result =>
          rw [hread] at hstep
          obtain rfl := Option.some.inj hstep
          rw [FrameReceiver.recv_eq] at hread
          exact happend _ _ _ _ hevent (recvFrame_eq_ok hread).1 h

end StreamLink

end Redpill
