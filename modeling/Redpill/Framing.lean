/-
The wire format of TCP Reality: each packet follows its length, two bytes, most
significant first.  The writers of the client and of the server are separate
code, and so are the readers; all of them reuse one packet buffer that only
grows.
-/
import Redpill.Uplink

namespace Redpill

open ByteStream

def maxFrameSize : Nat := 65535

/-- One packet on the wire.  The length is `len as u16`. -/
def frame (packet : Bytes) : Bytes := u16ToBeBytes packet.length ++ packet

/-- The packets one after another. -/
def framing (packets : List Bytes) : Bytes := packets.flatMap frame

inductive SendResult where
  | sent
  | tooLarge
deriving Repr, DecidableEq

/-- `TcpRealityTransport::send` of the client. -/
def TcpRealityTransport.send (writer : BufWriter) (data : Bytes) :
    SendResult × BufWriter :=
  if maxFrameSize < data.length then (.tooLarge, writer)
  else (.sent, writer.writeAll (frame data))

/-- A packet of the queue in `run_tcp_reality_tunnel` of the server. -/
def queueToTls (writer : BufWriter) (packet : Bytes) : BufWriter :=
  writer.writeAll (frame packet)

/-- A packet of the TUN device in `run_tcp_vpn_tunnel`. -/
def tunToTls (writer : BufWriter) (packet : Bytes) : BufWriter :=
  writer.writeAll (frame packet)

/-- The three writers. -/
inductive FrameSender where
  | transportSend
  | queueToTls
  | tunToTls
deriving Repr, DecidableEq

def FrameSender.write : FrameSender → BufWriter → Bytes → BufWriter
  | .transportSend, writer, packet =>
      (TcpRealityTransport.send writer packet).2
  | .queueToTls, writer, packet => Redpill.queueToTls writer packet
  | .tunToTls, writer, packet => Redpill.tunToTls writer packet

/-- Write packets one after another, with flushes in between. -/
def FrameSender.writeAll (sender : FrameSender) :
    BufWriter → List (Option Bytes) → BufWriter
  | writer, [] => writer
  | writer, some packet :: rest =>
      sender.writeAll (sender.write writer packet) rest
  | writer, none :: rest => sender.writeAll writer.flush rest

/-- The reading half: what is still to arrive, and the packet buffer. -/
structure FrameReader where
  chunks : List Bytes
  pktBuf : Bytes
deriving Repr, DecidableEq

inductive FrameError where
  | connectionLost
  | invalidFrameLength (len : Nat)
deriving Repr, DecidableEq

/-- The packet buffer when a frame of `len` bytes is about to be read. -/
def growTo (len : Nat) (pktBuf : Bytes) : Bytes :=
  if pktBuf.length < len then
    pktBuf ++ List.replicate (len - pktBuf.length) 0
  else pktBuf

/-- One frame: its length, the check of the length, and as many bytes into the
front of the packet buffer. -/
def recvFrame (limit : Nat) (reader : FrameReader) :
    Except FrameError (Bytes × FrameReader) :=
  match readExact 2 reader.chunks with
  | none => .error .connectionLost
  | some (lenBuf, afterLen) =>
      let len := u16FromBeBytes (lenBuf.getD 0 0) (lenBuf.getD 1 0)
      if len = 0 ∨ limit < len then .error (.invalidFrameLength len)
      else
        match readExact len afterLen with
        | none => .error .connectionLost
        | some (data, rest) =>
            let filled := data ++ (growTo len reader.pktBuf).drop len
            .ok (filled.take len, ⟨rest, filled⟩)

/-- `TcpRealityTransport::recv` of the client. -/
def TcpRealityTransport.recv (reader : FrameReader) :
    Except FrameError (Bytes × FrameReader) :=
  recvFrame maxFrameSize reader

/-- The reader of `run_tcp_reality_tunnel`, up to the source check. -/
def tlsToTun (reader : FrameReader) :
    Except FrameError (Bytes × FrameReader) :=
  recvFrame 65535 reader

/-- The reader of `run_tcp_vpn_tunnel`, up to the source check. -/
def tcpVpnTlsToTun (reader : FrameReader) :
    Except FrameError (Bytes × FrameReader) :=
  recvFrame maxFrameSize reader

/-- The three readers. -/
inductive FrameReceiver where
  | transportRecv
  | tlsToTun
  | tcpVpnTlsToTun
deriving Repr, DecidableEq

def FrameReceiver.recv : FrameReceiver → FrameReader →
    Except FrameError (Bytes × FrameReader)
  | .transportRecv, reader => TcpRealityTransport.recv reader
  | .tlsToTun, reader => Redpill.tlsToTun reader
  | .tcpVpnTlsToTun, reader => Redpill.tcpVpnTlsToTun reader

/-- All readers have the same limit. -/
@[simp] theorem FrameReceiver.recv_eq (receiver : FrameReceiver) :
    receiver.recv = recvFrame 65535 := by
  cases receiver <;> rfl

/-- A fresh connection whose peer's bytes arrive in these chunks. -/
def FrameReader.new (chunks : List Bytes) : FrameReader :=
  ⟨chunks, List.replicate 1500 0⟩

theorem frame_length (packet : Bytes) :
    (frame packet).length = 2 + packet.length := by
  rw [frame, List.length_append, u16ToBeBytes_length]

/-- A frame that was read is what the stream starts with, and never what an
earlier frame left in the packet buffer. -/
theorem recvFrame_eq_ok {limit : Nat} {reader next : FrameReader}
    {packet : Bytes} (h : recvFrame limit reader = .ok (packet, next)) :
    packet ≠ [] ∧ packet.length ≤ 65535 ∧
      reader.chunks.flatten = frame packet ++ next.chunks.flatten := by
  unfold recvFrame at h
  split at h
  · cases h
  · rename_i lenBuf afterLen hlen
    obtain ⟨htwo, hstream⟩ := readExact_eq_some hlen
    obtain ⟨high, low, rfl⟩ := List.length_eq_two.mp htwo
    have hword := u16ToBeBytes_u16FromBeBytes high low
    have hmax := u16FromBeBytes_lt high low
    simp only [List.getD_cons_zero, List.getD_cons_succ] at h
    generalize u16FromBeBytes high low = len at h hword hmax
    split at h
    · cases h
    · rename_i hvalid
      split at h
      · cases h
      · rename_i data rest hdata
        obtain ⟨hlength, hrest⟩ := readExact_eq_some hdata
        simp only [Except.ok.injEq, Prod.mk.injEq] at h
        obtain ⟨rfl, rfl⟩ := h
        rw [List.take_left' hlength]
        refine ⟨?_, by omega, ?_⟩
        · rintro rfl
          simp only [List.length_nil] at hlength
          omega
        · rw [hstream, hrest, frame, hlength, hword, List.append_assoc]

/-- A stream that starts with the frame of a packet gives this packet. -/
theorem recvFrame_frame {reader : FrameReader} {packet tail : Bytes}
    (hne : packet ≠ []) (hmax : packet.length ≤ 65535)
    (hstream : reader.chunks.flatten = frame packet ++ tail) :
    ∃ rest, recvFrame 65535 reader = .ok (packet, ⟨rest, packet ++
        (growTo packet.length reader.pktBuf).drop packet.length⟩) ∧
      rest.flatten = tail := by
  rw [frame, List.append_assoc] at hstream
  obtain ⟨afterLen, hlen, hafter⟩ := readExact_append hstream
  obtain ⟨rest, hdata, hrest⟩ := readExact_append hafter
  have hpos : packet.length ≠ 0 := by
    rwa [Ne, List.length_eq_zero_iff]
  have hword := u16FromBeBytes_ofNat (Nat.lt_succ_of_le hmax)
  refine ⟨rest, ?_, hrest⟩
  rw [u16ToBeBytes_length] at hlen
  simp only [recvFrame, hlen, u16ToBeBytes, List.getD_cons_zero,
    List.getD_cons_succ, hword, hdata]
  rw [if_neg (by omega), List.take_left' rfl]

theorem readFrame_of_frame (pktBuf tail : Bytes) {packet : Bytes}
    (hne : packet ≠ []) (hmax : packet.length ≤ 65535) :
    readFrame pktBuf (frame packet ++ tail) = .frame packet
      (packet ++ (growTo packet.length pktBuf).drop packet.length) tail := by
  have hpos : packet.length ≠ 0 := by
    rwa [Ne, List.length_eq_zero_iff]
  have hword := u16FromBeBytes_ofNat (Nat.lt_succ_of_le hmax)
  have hgrow : pktBuf ++ List.replicate (packet.length - pktBuf.length) 0 =
      growTo packet.length pktBuf := by
    unfold growTo
    split
    · rfl
    · rename_i hlong
      simp [Nat.sub_eq_zero_of_le (Nat.not_lt.mp hlong)]
  have hlong : ¬ packet.length + tail.length + 1 + 1 < 2 := by omega
  have henough : ¬ packet.length + tail.length + 1 + 1 < 2 + packet.length := by
    omega
  have hrest : 2 + packet.length = packet.length + 1 + 1 := by omega
  simp only [readFrame, frame, u16ToBeBytes, List.cons_append,
    List.nil_append, List.length_cons, List.length_append,
    List.getElem_cons_zero, List.getElem_cons_succ, hlong, dite_false, hword,
    hpos, if_false, henough, hgrow, List.drop_succ_cons, List.drop_zero]
  simp [hrest]

/-- The reader of a session, which looks at all that has arrived, is the reader
of the stream. -/
theorem readFrame_eq_tlsToTun {reader next : FrameReader} {packet : Bytes}
    (h : tlsToTun reader = .ok (packet, next)) :
    readFrame reader.pktBuf reader.chunks.flatten =
      .frame packet next.pktBuf next.chunks.flatten := by
  obtain ⟨hne, hmax, hstream⟩ := recvFrame_eq_ok h
  obtain ⟨rest, hread, hrest⟩ := recvFrame_frame hne hmax hstream
  rw [tlsToTun, hread] at h
  simp only [Except.ok.injEq, Prod.mk.injEq, true_and] at h
  rw [hstream, readFrame_of_frame _ _ hne hmax, ← h]

theorem frame_append_inj {first second left right : Bytes}
    (hfirst : first.length ≤ 65535) (hsecond : second.length ≤ 65535)
    (h : frame first ++ left = frame second ++ right) :
    first = second ∧ left = right := by
  simp only [frame, u16ToBeBytes, List.cons_append, List.nil_append,
    List.cons.injEq] at h
  obtain ⟨hhigh, hlow, hrest⟩ := h
  have hlength : first.length = second.length := by
    rw [← u16FromBeBytes_ofNat (Nat.lt_succ_of_le hfirst), hhigh, hlow,
      u16FromBeBytes_ofNat (Nat.lt_succ_of_le hsecond)]
  exact List.append_inj hrest hlength

/-- A framing parses in one way only. -/
theorem framing_isPrefix {returned packets : List Bytes}
    (hreturned : ∀ packet ∈ returned, packet.length ≤ 65535)
    (hpackets : ∀ packet ∈ packets, packet.length ≤ 65535)
    (h : framing returned <+: framing packets) : returned <+: packets := by
  induction returned generalizing packets with
  | nil => exact List.nil_prefix
  | cons first rest ih =>
      obtain ⟨tail, htail⟩ := h
      simp only [framing, List.flatMap_cons, List.append_assoc] at htail
      cases packets with
      | nil =>
          have hlength := congrArg List.length htail
          simp [frame] at hlength
      | cons second others =>
          rw [List.flatMap_cons] at htail
          obtain ⟨rfl, hothers⟩ := frame_append_inj
            (hreturned first List.mem_cons_self)
            (hpackets second List.mem_cons_self) htail
          apply List.cons_prefix_cons.mpr
          refine ⟨rfl, ih ?_ ?_ ⟨tail, hothers⟩⟩
          · intro packet hpacket
            exact hreturned packet (List.mem_cons_of_mem first hpacket)
          · intro packet hpacket
            exact hpackets packet (List.mem_cons_of_mem first hpacket)

/-- The receive loop: the packets of one call after another, up to the call
that fails.  Every frame takes bytes from the stream, so that there is one. -/
def FrameReceiver.loop (receiver : FrameReceiver) (reader : FrameReader) :
    List Bytes × FrameReader × FrameError :=
  match _hread : receiver.recv reader with
  | .error error => ([], reader, error)
  | .ok (packet, next) =>
      let result := receiver.loop next
      (packet :: result.1, result.2)
termination_by reader.chunks.flatten.length
decreasing_by
  rw [FrameReceiver.recv_eq] at _hread
  rw [(recvFrame_eq_ok _hread).2.2, List.length_append, frame_length]
  omega

namespace FrameReceiver

variable {receiver : FrameReceiver} {reader next : FrameReader}

theorem loop_of_error {error : FrameError}
    (hread : receiver.recv reader = .error error) :
    receiver.loop reader = ([], reader, error) := by
  rw [loop]
  split
  · rename_i found hfound
    rw [hread] at hfound
    cases hfound
    rfl
  · rename_i hfound
    rw [hread] at hfound
    cases hfound

theorem loop_of_ok {packet : Bytes}
    (hread : receiver.recv reader = .ok (packet, next)) :
    receiver.loop reader =
      (packet :: (receiver.loop next).1, (receiver.loop next).2) := by
  rw [loop]
  split
  · rename_i hfound
    rw [hread] at hfound
    cases hfound
  · rename_i hfound
    rw [hread] at hfound
    cases hfound
    rfl

/-- The loop takes the frames of the packets it returns from the stream, and
nothing else. -/
theorem loop_sound (receiver : FrameReceiver) (reader : FrameReader) :
    (∀ packet ∈ (receiver.loop reader).1,
        packet ≠ [] ∧ packet.length ≤ 65535) ∧
      reader.chunks.flatten = framing (receiver.loop reader).1 ++
        (receiver.loop reader).2.1.chunks.flatten := by
  induction reader using FrameReceiver.loop.induct receiver with
  | case1 reader error hread =>
      rw [loop_of_error hread]
      exact ⟨by simp, rfl⟩
  | case2 reader packet next hread ih =>
      rw [loop_of_ok hread]
      rw [recv_eq] at hread
      obtain ⟨hne, hmax, hstream⟩ := recvFrame_eq_ok hread
      constructor
      · intro found hfound
        rcases List.mem_cons.mp hfound with rfl | hrest
        · exact ⟨hne, hmax⟩
        · exact ih.1 found hrest
      · rw [hstream, ih.2]
        simp [framing]

/-- From any first part of a framing the loop returns the first packets. -/
theorem loop_isPrefix (receiver : FrameReceiver) {packets : List Bytes}
    (hpackets : ∀ packet ∈ packets, packet ≠ [] ∧ packet.length ≤ 65535)
    {reader : FrameReader}
    (hstream : reader.chunks.flatten <+: framing packets) :
    (receiver.loop reader).1 <+: packets := by
  obtain ⟨hreturned, hconsumed⟩ := loop_sound receiver reader
  rw [hconsumed] at hstream
  apply framing_isPrefix
  · intro packet hpacket
    exact (hreturned packet hpacket).2
  · intro packet hpacket
    exact (hpackets packet hpacket).2
  · exact (List.prefix_append _ _).trans hstream

/-- A stream that is the framing of packets gives these packets. -/
theorem loop_framing (receiver : FrameReceiver) {packets : List Bytes}
    (hpackets : ∀ packet ∈ packets, packet ≠ [] ∧ packet.length ≤ 65535)
    {reader : FrameReader}
    (hstream : reader.chunks.flatten = framing packets) :
    (receiver.loop reader).1 = packets := by
  induction packets generalizing reader with
  | nil =>
      have hpart : reader.chunks.flatten <+: framing [] :=
        hstream ▸ List.prefix_rfl
      exact List.prefix_nil.mp (loop_isPrefix receiver hpackets hpart)
  | cons packet rest ih =>
      obtain ⟨hne, hmax⟩ := hpackets packet List.mem_cons_self
      obtain ⟨chunks, hread, hnext⟩ := recvFrame_frame hne hmax hstream
      rw [← receiver.recv_eq] at hread
      rw [loop_of_ok hread, ih _ hnext]
      intro found hfound
      exact hpackets found (List.mem_cons_of_mem packet hfound)

end FrameReceiver

/-- A sender writes the frames of its packets, however it flushes. -/
theorem FrameSender.written_writeAll (sender : FrameSender)
    {operations : List (Option Bytes)}
    (hpackets : ∀ packet ∈ operations.filterMap id, packet.length ≤ 65535)
    (writer : BufWriter) :
    (sender.writeAll writer operations).written =
      writer.written ++ framing (operations.filterMap id) := by
  induction operations generalizing writer with
  | nil => simp [FrameSender.writeAll, framing]
  | cons operation rest ih =>
      cases operation with
      | none =>
          rw [FrameSender.writeAll, ih hpackets, BufWriter.written_flush]
          rfl
      | some packet =>
          obtain ⟨hpacket, hrest⟩ := List.forall_mem_cons.mp hpackets
          have hwrite : (sender.write writer packet).written =
              writer.written ++ frame packet := by
            cases sender with
            | transportSend =>
                have hfits : ¬ maxFrameSize < packet.length :=
                  Nat.not_lt.mpr hpacket
                simp [FrameSender.write, TcpRealityTransport.send, hfits]
            | _ => exact BufWriter.written_writeAll writer (frame packet)
          rw [FrameSender.writeAll, ih hrest, hwrite]
          simp [framing]

/-- What one side sends over TCP Reality the other receives, for each of the
senders and each of the receivers, for any buffer and any chunking; and what a
receiver returns, on any stream, is what it has taken from the stream. -/
theorem tcp_reality_framing (sender : FrameSender) (receiver : FrameReceiver) :
    (∀ operations : List (Option Bytes),
      (∀ packet ∈ operations.filterMap id,
        packet ≠ [] ∧ packet.length ≤ 65535) →
      ∀ reader : FrameReader,
        let stream := (sender.writeAll (BufWriter.withCapacity (64 * 1024))
          operations).flush.inner
        (reader.chunks.flatten = stream →
          (receiver.loop reader).1 = operations.filterMap id) ∧
        (reader.chunks.flatten <+: stream →
          (receiver.loop reader).1 <+: operations.filterMap id)) ∧
    ∀ reader : FrameReader,
      (∀ packet ∈ (receiver.loop reader).1,
        packet <:+: reader.chunks.flatten) ∧
      reader.chunks.flatten = framing (receiver.loop reader).1 ++
        (receiver.loop reader).2.1.chunks.flatten := by
  constructor
  · intro operations hpackets reader
    have hstream : (sender.writeAll (BufWriter.withCapacity (64 * 1024))
        operations).flush.inner = framing (operations.filterMap id) := by
      rw [BufWriter.flush_inner, sender.written_writeAll]
      · rfl
      · intro packet hpacket
        exact (hpackets packet hpacket).2
    simp only [hstream]
    exact ⟨receiver.loop_framing hpackets, receiver.loop_isPrefix hpackets⟩
  · intro reader
    have hconsumed := (receiver.loop_sound reader).2
    refine ⟨?_, hconsumed⟩
    intro packet hpacket
    obtain ⟨before, after, hsplit⟩ := List.append_of_mem hpacket
    rw [hconsumed, hsplit]
    refine ⟨framing before ++ u16ToBeBytes packet.length,
      framing after ++ (receiver.loop reader).2.1.chunks.flatten, ?_⟩
    simp [framing, frame]

/-- Two packets that cross the chunk boundaries of the client's stream. -/
theorem tcp_reality_framing_two_packets :
    (FrameReceiver.tlsToTun.loop
      (FrameReader.new [[0, 1, 69, 0], [2, 96], [0]])).1 = [[69], [96, 0]] := by
  apply ((tcp_reality_framing .transportSend .tlsToTun).1
    [some [69], none, some [96, 0]] _ _).1
  · rfl
  · decide

end Redpill
