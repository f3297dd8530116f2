/-
The uplink: the four receive loops that take client bytes to the TUN, and the
camouflaged client that sends them.  The verdict of the bandwidth shaper on a
packet length is an input of each step.
-/
import Redpill.Downlink

namespace Redpill

open ByteStream

universe u

/-- The tail shared by the QUIC and TCP loops: source check, shaper, write. -/
def validatedWrite (clientIp : Ipv4Addr) (shaperCheck : Nat → Bool)
    (packet : Bytes) : Option Bytes :=
  if !validateSourceIp packet clientIp then none
  else if !shaperCheck packet.length then none
  else writeToTun packet

/-- The datagram loop of `run_vpn_tunnel`: what is written to the TUN for one
datagram.  On a padded session everything that is not IP is skipped, and the
source check, the shaper and the write all see the stripped packet. -/
def datagramToTun (padded : Bool) (clientIp : Ipv4Addr) (shaperCheck : Nat → Bool)
    (data : Bytes) : Option Bytes :=
  if data = [] then none
  else if padded then
    if versionNibble data ≠ 4 ∧ versionNibble data ≠ 6 then none
    else validatedWrite clientIp shaperCheck (stripPadding data)
  else validatedWrite clientIp shaperCheck data

/-- The frame loop of `run_tcp_reality_tunnel`, after a frame was read. -/
def frameToTun (clientIp : Ipv4Addr) (shaperCheck : Nat → Bool) (packet : Bytes) :
    Option Bytes :=
  validatedWrite clientIp shaperCheck packet

/-- The message loop of `run_ws_vpn_tunnel`, for one binary message. -/
def messageToTun (clientIp : Ipv4Addr) (data : Bytes) : Option Bytes :=
  if !validateSourceIp data clientIp then none else writeToTun data

/-- One round of the framed reader over the bytes received so far. -/
inductive FrameRead where
  | incomplete
  | invalid
  | frame (packet : Bytes) (pktBuf : Bytes) (rest : Bytes)
deriving Repr, DecidableEq

/-- Read one length-prefixed frame into the reused packet buffer, which grows
to the longest frame seen.  The packet is the part of the buffer that this
frame has filled. -/
def readFrame (pktBuf stream : Bytes) : FrameRead :=
  if h : stream.length < 2 then .incomplete
  else
    let len := u16FromBeBytes stream[0] stream[1]
    if len = 0 then .invalid
    else if stream.length < 2 + len then .incomplete
    else
      let resized := pktBuf ++ List.replicate (len - pktBuf.length) 0
      let filled := (stream.drop 2).take len ++ resized.drop len
      .frame (filled.take len) filled (stream.drop (2 + len))

theorem validatedWrite_eq_some {clientIp : Ipv4Addr} {shaperCheck : Nat → Bool}
    {packet written : Bytes} :
    validatedWrite clientIp shaperCheck packet = some written ↔
      validateSourceIp packet clientIp = true ∧
        shaperCheck packet.length = true ∧ written = packet := by
  by_cases hvalid : validateSourceIp packet clientIp = true
  · have hne := ne_nil_of_validateSourceIp hvalid
    by_cases hshaper : shaperCheck packet.length = true
    · simp [validatedWrite, hvalid, hshaper, writeToTun, hne, eq_comm]
    · simp [validatedWrite, hvalid, hshaper]
  · simp [validatedWrite, hvalid]

/-- The datagram loop writes the stripped packet or nothing, and only what
passed the source check. -/
theorem datagramToTun_valid {padded : Bool} {clientIp : Ipv4Addr}
    {shaperCheck : Nat → Bool} {data written : Bytes}
    (hwrite : datagramToTun padded clientIp shaperCheck data = some written) :
    validateSourceIp written clientIp = true ∧
      written = camouflagedRecv padded data := by
  unfold datagramToTun at hwrite
  split at hwrite
  · cases hwrite
  · cases padded with
    | false =>
        obtain ⟨hvalid, _, rfl⟩ := validatedWrite_eq_some.mp hwrite
        exact ⟨hvalid, rfl⟩
    | true =>
        rw [if_pos rfl] at hwrite
        split at hwrite
        · cases hwrite
        · obtain ⟨hvalid, _, rfl⟩ := validatedWrite_eq_some.mp hwrite
          exact ⟨hvalid, rfl⟩

theorem frameToTun_valid {clientIp : Ipv4Addr} {shaperCheck : Nat → Bool}
    {packet written : Bytes}
    (hwrite : frameToTun clientIp shaperCheck packet = some written) :
    validateSourceIp written clientIp = true ∧ written = packet := by
  obtain ⟨hvalid, _, rfl⟩ := validatedWrite_eq_some.mp hwrite
  exact ⟨hvalid, rfl⟩

theorem messageToTun_valid {clientIp : Ipv4Addr} {data written : Bytes}
    (hwrite : messageToTun clientIp data = some written) :
    validateSourceIp written clientIp = true ∧ written = data := by
  unfold messageToTun at hwrite
  split at hwrite
  · cases hwrite
  · rename_i hvalid
    have hvalid' : validateSourceIp data clientIp = true := by
      simpa using hvalid
    have hne := ne_nil_of_validateSourceIp hvalid'
    simp only [writeToTun, hne, if_false, Option.some.injEq] at hwrite
    exact ⟨hwrite ▸ hvalid', hwrite.symm⟩

/-- Clients' packets: what the TUN reader sends, and what the idle task
sends. -/
inductive ClientSend where
  | packet (data : Bytes)
  | idle (data : Bytes)
deriving Repr, DecidableEq

def ClientSend.data : ClientSend → Bytes
  | .packet data => data
  | .idle data => data

/-- A packet of the client's own traffic: IPv4 from the assigned address, or
IPv6, with a length field that matches. -/
def RealPacket (clientIp : Ipv4Addr) (packet : Bytes) : Prop :=
  (WellFormedIpv4 packet ∧ HasIpv4Source packet clientIp) ∨
    WellFormedIpv6 packet

/-- What the tasks of a camouflaged client may send. -/
def ClientSend.Admissible (clientIp : Ipv4Addr) : ClientSend → Prop
  | .packet data => RealPacket clientIp data
  | .idle data => clientIdlePadder.Produces data

/-- The real packets of a sequence of sends, in order. -/
def realPackets : List ClientSend → List Bytes
  | [] => []
  | .packet data :: rest => data :: realPackets rest
  | .idle _ :: rest => realPackets rest

/-- The client's connection after a sequence of sends through
`QuicCamouflagedTransport`. -/
def clientSendAll {Conn : Type u} (quinn : Quinn Conn) (paddingEnabled : Bool)
    (conn : Conn) (sends : List ClientSend) : Conn :=
  sends.foldl (fun conn send =>
    (quinn.sendDatagram conn (camouflagedSend paddingEnabled send.data)).2) conn

/-- What the server's padded receive path writes for a sequence of
datagrams. -/
def serverWrites (clientIp : Ipv4Addr) (shaperCheck : Nat → Bool)
    (datagrams : List Bytes) : List Bytes :=
  datagrams.filterMap (datagramToTun true clientIp shaperCheck)

/-- What is assumed of QUIC: every datagram that the client sends is delivered
once and in order. -/
def Quinn.Delivers {Conn : Type u} (quinn : Quinn Conn)
    (delivered : Conn → List Bytes) : Prop :=
  ∀ conn data,
    delivered (quinn.sendDatagram conn data).2 = delivered conn ++ [data]

theorem recordingQuinn_delivers : recordingQuinn.Delivers id :=
  fun _ _ => rfl

theorem clientSendAll_delivered {Conn : Type u} {quinn : Quinn Conn}
    {delivered : Conn → List Bytes} (hquinn : quinn.Delivers delivered)
    (paddingEnabled : Bool) (conn : Conn) (sends : List ClientSend) :
    delivered (clientSendAll quinn paddingEnabled conn sends) =
      delivered conn ++
        sends.map fun send => camouflagedSend paddingEnabled send.data := by
  induction sends generalizing conn with
  | nil => simp [clientSendAll]
  | cons send rest ih =>
      have hstep := ih (quinn.sendDatagram conn
        (camouflagedSend paddingEnabled send.data)).2
      simp only [clientSendAll, List.foldl_cons, List.map_cons] at hstep ⊢
      rw [hstep, hquinn, List.append_assoc, List.singleton_append]

theorem RealPacket.nibble {clientIp : Ipv4Addr} {packet : Bytes}
    (hpacket : RealPacket clientIp packet) :
    versionNibble packet = 4 ∨ versionNibble packet = 6 := by
  rcases hpacket with ⟨h4, _⟩ | h6
  · exact Or.inl h4.1
  · exact Or.inr h6.1

theorem RealPacket.valid {clientIp : Ipv4Addr} {packet : Bytes}
    (hpacket : RealPacket clientIp packet) :
    validateSourceIp packet clientIp = true := by
  rw [validateSourceIp_iff]
  rcases hpacket with ⟨_, hsource⟩ | h6
  · exact Or.inr hsource
  · exact Or.inl h6.1

/-- A real packet survives padding and stripping, whichever the client's
setting. -/
theorem RealPacket.stripped {clientIp : Ipv4Addr} {packet : Bytes}
    (hpacket : RealPacket clientIp packet) (paddingEnabled : Bool) :
    stripPadding (camouflagedSend paddingEnabled packet) = packet := by
  have hext := camouflagedSend_extends paddingEnabled packet
  rcases hpacket with ⟨h4, _⟩ | h6
  · exact stripPadding_of_ipv4 h4 hext
  · exact stripPadding_of_ipv6 h6 hext

theorem datagramToTun_real {clientIp : Ipv4Addr} {shaperCheck : Nat → Bool}
    (hshaper : ∀ len, shaperCheck len = true) {packet : Bytes}
    (hpacket : RealPacket clientIp packet) (paddingEnabled : Bool) :
    datagramToTun true clientIp shaperCheck (camouflagedSend paddingEnabled packet) =
      some packet := by
  have hne := ne_nil_of_validateSourceIp hpacket.valid
  have hext := camouflagedSend_extends paddingEnabled packet
  have hnibble : ¬ (versionNibble (camouflagedSend paddingEnabled packet) ≠ 4 ∧
      versionNibble (camouflagedSend paddingEnabled packet) ≠ 6) := by
    rw [versionNibble_of_extension hne hext]
    rcases hpacket.nibble with h | h <;> simp [h]
  have hsent : camouflagedSend paddingEnabled packet ≠ [] := by
    intro hnil
    rw [hnil] at hext
    exact hne (List.prefix_nil.mp hext)
  rw [datagramToTun, if_neg hsent, if_pos rfl, if_neg hnibble,
    hpacket.stripped paddingEnabled]
  exact validatedWrite_eq_some.mpr ⟨hpacket.valid, hshaper _, rfl⟩

theorem datagramToTun_idle (clientIp : Ipv4Addr) (shaperCheck : Nat → Bool)
    {packet : Bytes} (hpacket : clientIdlePadder.Produces packet)
    (paddingEnabled : Bool) :
    datagramToTun true clientIp shaperCheck (camouflagedSend paddingEnabled packet) =
      none := by
  obtain ⟨random, hmin, _, rfl⟩ := hpacket
  have hlen : 64 ≤ random.length := hmin
  have hne : IdlePadder.generate random ≠ [] := by
    cases random with
    | nil => simp at hlen
    | cons head tail => simp [IdlePadder.generate]
  have hnibble : versionNibble
      (camouflagedSend paddingEnabled (IdlePadder.generate random)) = 0 := by
    rw [versionNibble_of_extension hne (camouflagedSend_extends _ _)]
    exact IdlePadder.versionNibble_generate random
  have hskip :
      versionNibble (camouflagedSend paddingEnabled
        (IdlePadder.generate random)) ≠ 4 ∧
      versionNibble (camouflagedSend paddingEnabled
        (IdlePadder.generate random)) ≠ 6 := by
    rw [hnibble]
    decide
  rw [datagramToTun, if_pos rfl, if_pos hskip, ite_self]

/-- Uplink transparency of a camouflaged session: the server writes exactly
the real packets, in order, and no idle packet. -/
theorem camouflaged_uplink_transparent {Conn : Type u} {quinn : Quinn Conn}
    {delivered : Conn → List Bytes} (hquinn : quinn.Delivers delivered)
    {conn : Conn} (hconn : delivered conn = []) (clientIp : Ipv4Addr)
    {shaperCheck : Nat → Bool} (hshaper : ∀ len, shaperCheck len = true)
    (paddingEnabled : Bool) (sends : List ClientSend)
    (hsends : ∀ send ∈ sends, send.Admissible clientIp) :
    serverWrites clientIp shaperCheck
        (delivered (clientSendAll quinn paddingEnabled conn sends)) =
      realPackets sends := by
  rw [clientSendAll_delivered hquinn, hconn, List.nil_append]
  induction sends with
  | nil => rfl
  | cons send rest ih =>
      have hrest := ih fun s hs => hsends s (List.mem_cons_of_mem send hs)
      have hsend := hsends send List.mem_cons_self
      simp only [serverWrites, List.map_cons] at hrest ⊢
      cases send with
      | packet data =>
          have hwrite := datagramToTun_real hshaper hsend paddingEnabled
          rw [ClientSend.data, List.filterMap_cons_some hwrite, hrest]
          rfl
      | idle data =>
          have hskip := datagramToTun_idle clientIp shaperCheck hsend paddingEnabled
          rw [ClientSend.data, List.filterMap_cons_none hskip, hrest]
          rfl

/-- A 20-byte IPv4 packet from 10.0.1.2 and a 41-byte IPv6 packet. -/
def ipv4Sample : Bytes :=
  [0x45, 0, 0, 20, 0, 0, 0, 0, 64, 17, 0, 0, 10, 0, 1, 2, 8, 8, 8, 8]

def ipv6Sample : Bytes :=
  [0x60, 0, 0, 0, 0, 1, 59, 64] ++ List.replicate 32 0 ++ [9]

/-- Both samples arrive around an idle packet of 64 bytes, with padding on. -/
theorem camouflaged_uplink_transparent_samples :
    serverWrites ⟨10, 0, 1, 2⟩ (fun _ => true)
        (id (clientSendAll recordingQuinn true []
          [.packet ipv4Sample,
            .idle (IdlePadder.generate (List.replicate 64 0xFF)),
            .packet ipv6Sample])) =
      [ipv4Sample, ipv6Sample] := by
  apply camouflaged_uplink_transparent recordingQuinn_delivers rfl _
    (fun _ => rfl) true
  have hipv4 : RealPacket ⟨10, 0, 1, 2⟩ ipv4Sample :=
    Or.inl ⟨by decide, by decide⟩
  have hipv6 : RealPacket ⟨10, 0, 1, 2⟩ ipv6Sample :=
    Or.inr ⟨by decide, 1, by decide, by decide, by decide⟩
  have hidle : clientIdlePadder.Produces
      (IdlePadder.generate (List.replicate 64 0xFF)) :=
    ⟨List.replicate 64 0xFF, by decide, by decide, rfl⟩
  simp only [List.forall_mem_cons, List.not_mem_nil, false_implies,
    implies_true, and_true]
  exact ⟨hipv4, hidle, hipv6⟩

end Redpill
