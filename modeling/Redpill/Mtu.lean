/-
The MTU of the tunnel.  A reader of the TUN has a buffer of fixed size, the
server takes its MTU from the configuration, and the client follows the path
MTU that `run_pmtu_monitor` announces.  What a QUIC datagram can carry of a
path MTU is decided by the QUIC library.
-/
import Redpill.ClientSystem
import Redpill.Config
import Redpill.ControlStream
import Redpill.Framing

namespace Redpill

open ByteStream

/-- The bytes of a packet that the client's reader has room for: `TUN_MTU + 4`
with the header of macOS in it, and `TUN_MTU + 64` on Windows. -/
def clientTunBufLen : Platform → Nat
  | .linux => 1204
  | .macos => 1200
  | .windows => 1264

/-- A read copies as much of a packet as the buffer holds and drops the rest. -/
def readPacket (bufLen : Nat) (packet : Bytes) : Bytes := packet.take bufLen

/-- `QuicRawTransport::send` on a connection that takes datagrams of at most
this size. -/
def QuicRawTransport.send (maxDatagramSize : Nat) (data : Bytes) :
    SendResult :=
  if maxDatagramSize < data.length then .tooLarge else .sent

/-- The MTU of the client's TUN: the configured one as 16 bits of the session
configuration carry it, until updates have been applied. -/
def clientMtu (configured : Nat) (updates : List SessionUpdate) : Nat :=
  (updates.getLast?.map SessionUpdate.mtu).getD (configured % 65536)

/-- The path MTU that the monitor saw last. -/
def lastSampled (first : Nat) (seen : List PmtuSample) : Nat :=
  (seen.getLast?.map PmtuSample.mtu).getD first

/-- What the kernel hands to a reader of the TUN is read whole on both sides,
and the client's QUIC connection takes it in one datagram. -/
structure MtuSound (maxDatagramSize : Nat → Nat) (platform : Platform)
    (configured first : Nat) (seen : List PmtuSample) : Prop where
  server : ∀ packet : Bytes, packet.length ≤ configured →
    readPacket tunBufLen packet = packet
  client : ∀ packet : Bytes,
    packet.length ≤ clientMtu configured (runPmtuMonitor first seen) →
    readPacket (clientTunBufLen platform) packet = packet
  datagram : ∀ packet : Bytes,
    packet.length ≤ clientMtu configured (runPmtuMonitor first seen) →
    QuicRawTransport.send (maxDatagramSize (lastSampled first seen)) packet =
      .sent

/-- No path MTU is announced: the samples stay within 50 bytes of the first
one, or the first that does not cannot be written. -/
def Unannounced (first : Nat) : List PmtuSample → Prop
  | [] => True
  | sample :: rest =>
      if 50 < ((sample.mtu : Int) - first).natAbs then sample.writeOk = false
      else Unannounced first rest

theorem readPacket_iff (bufLen mtu : Nat) :
    (∀ packet : Bytes, packet.length ≤ mtu →
      readPacket bufLen packet = packet) ↔ mtu ≤ bufLen := by
  constructor
  · intro hall
    have hread := hall (List.replicate mtu 0) (by simp)
    have hlength := congrArg List.length hread
    simp only [readPacket, List.length_take, List.length_replicate] at hlength
    omega
  · intro hle packet hpacket
    exact List.take_of_length_le (by omega)

theorem send_iff (maxDatagramSize mtu : Nat) :
    (∀ packet : Bytes, packet.length ≤ mtu →
      QuicRawTransport.send maxDatagramSize packet = .sent) ↔
      mtu ≤ maxDatagramSize := by
  constructor
  · intro hall
    have hsend := hall (List.replicate mtu 0) (by simp)
    simp only [QuicRawTransport.send, List.length_replicate] at hsend
    split at hsend
    · cases hsend
    · omega
  · intro hle packet hpacket
    have hfits : ¬ maxDatagramSize < packet.length := by omega
    simp [QuicRawTransport.send, hfits]

/-- Soundness is a matter of three comparisons. -/
theorem mtuSound_iff {maxDatagramSize : Nat → Nat} {platform : Platform}
    {configured first : Nat} {seen : List PmtuSample} :
    MtuSound maxDatagramSize platform configured first seen ↔
      configured ≤ tunBufLen ∧
        clientMtu configured (runPmtuMonitor first seen) ≤
          clientTunBufLen platform ∧
        clientMtu configured (runPmtuMonitor first seen) ≤
          maxDatagramSize (lastSampled first seen) := by
  rw [← readPacket_iff, ← readPacket_iff, ← send_iff]
  exact ⟨fun h => ⟨h.server, h.client, h.datagram⟩,
    fun ⟨hserver, hclient, hdatagram⟩ => ⟨hserver, hclient, hdatagram⟩⟩

theorem Unannounced.monitor {first : Nat} {samples seen : List PmtuSample}
    (h : Unannounced first samples) (hseen : seen <+: samples) :
    runPmtuMonitor first seen = [] := by
  induction samples generalizing seen with
  | nil =>
      rw [List.prefix_nil.mp hseen]
      rfl
  | cons sample rest ih =>
      cases seen with
      | nil => rfl
      | cons head tail =>
          obtain ⟨rfl, htail⟩ := List.cons_prefix_cons.mp hseen
          rw [Unannounced] at h
          rw [runPmtuMonitor]
          split
          · rename_i hlarge
            rw [if_pos hlarge] at h
            simp [h]
          · rename_i hsmall
            rw [if_neg hsmall] at h
            exact ih h htail

/-- The first path MTU that is announced is the one that the monitor has just
seen. -/
theorem exists_announced {first : Nat} {samples : List PmtuSample}
    (h : ¬ Unannounced first samples) :
    ∃ seen sample, seen ++ [sample] <+: samples ∧
      runPmtuMonitor first (seen ++ [sample]) =
        [⟨sample.mtu, sample.mtu_lt⟩] := by
  induction samples with
  | nil => exact absurd trivial h
  | cons sample rest ih =>
      rw [Unannounced] at h
      split at h
      · rename_i hlarge
        have hwrite : sample.writeOk = true := by simpa using h
        refine ⟨[], sample, List.prefix_append [sample] rest, ?_⟩
        simp [runPmtuMonitor, hlarge, hwrite]
      · rename_i hsmall
        obtain ⟨seen, announced, hpart, hmonitor⟩ := ih h
        refine ⟨sample :: seen, announced, ?_, ?_⟩
        · exact List.cons_prefix_cons.mpr ⟨rfl, hpart⟩
        · rw [List.cons_append, runPmtuMonitor, if_neg hsmall]
          exact hmonitor

/-- Every path MTU that was sampled, the one at the start included, is the last
one at some moment. -/
theorem exists_lastSampled {first mtu : Nat} {samples : List PmtuSample}
    (h : mtu ∈ first :: samples.map PmtuSample.mtu) :
    ∃ seen, seen <+: samples ∧ lastSampled first seen = mtu := by
  rcases List.mem_cons.mp h with rfl | hmem
  · exact ⟨[], List.nil_prefix, rfl⟩
  · obtain ⟨sample, hsample, rfl⟩ := List.mem_map.mp hmem
    obtain ⟨before, after, rfl⟩ := List.append_of_mem hsample
    refine ⟨before ++ [sample], ⟨after, by simp⟩, ?_⟩
    simp [lastSampled]

theorem lastSampled_mem {first : Nat} {samples seen : List PmtuSample}
    (hseen : seen <+: samples) :
    lastSampled first seen ∈ first :: samples.map PmtuSample.mtu := by
  rw [lastSampled]
  cases hlast : seen.getLast? with
  | none => exact List.mem_cons_self
  | some sample =>
      apply List.mem_cons_of_mem
      exact List.mem_map_of_mem (hseen.subset (List.mem_of_getLast? hlast))

/-- For every valid configuration and every history of path MTUs: no packet is
truncated or too large at any moment exactly if the configured MTU fits in both
buffers and in a datagram at every sampled path MTU, and none is announced. -/
theorem mtu_sound (isSocketAddr : String → Bool)
    (maxDatagramSize : Nat → Nat) (platform : Platform)
    (config : ServerConfig) (first : Nat) (samples : List PmtuSample)
    (hvalid : config.validate isSocketAddr = .ok ())
    (hquinn : ∀ mtu, 0 < mtu → maxDatagramSize mtu < mtu)
    (hpath : ∀ sample ∈ samples, 0 < sample.mtu) :
    (∀ seen, seen <+: samples →
      MtuSound maxDatagramSize platform config.mtu first seen) ↔
    config.mtu ≤ tunBufLen ∧ config.mtu ≤ clientTunBufLen platform ∧
      Unannounced first samples ∧
      ∀ mtu ∈ first :: samples.map PmtuSample.mtu,
        config.mtu ≤ maxDatagramSize mtu := by
  obtain ⟨_, _, _, _, ⟨_, hmtu⟩, _⟩ := ServerConfig.validate_eq_ok.mp hvalid
  have hcarried : config.mtu % 65536 = config.mtu :=
    Nat.mod_eq_of_lt (by omega)
  have hconfigured (seen : List PmtuSample)
      (hmonitor : runPmtuMonitor first seen = []) :
      clientMtu config.mtu (runPmtuMonitor first seen) = config.mtu := by
    rw [hmonitor]
    exact hcarried
  simp only [mtuSound_iff]
  constructor
  · intro hall
    have hunannounced : Unannounced first samples := by
      by_contra hannounced
      obtain ⟨seen, sample, hpart, hmonitor⟩ := exists_announced hannounced
      obtain ⟨_, _, hdatagram⟩ := hall _ hpart
      have hpositive := hpath sample (hpart.subset (by simp))
      have htooLarge := hquinn sample.mtu hpositive
      have hlast : lastSampled first (seen ++ [sample]) = sample.mtu := by
        simp [lastSampled]
      have hclient : clientMtu config.mtu
          (runPmtuMonitor first (seen ++ [sample])) = sample.mtu := by
        rw [hmonitor]
        rfl
      rw [hlast, hclient] at hdatagram
      omega
    obtain ⟨hserver, hclient, _⟩ := hall [] List.nil_prefix
    rw [hconfigured [] rfl] at hclient
    refine ⟨hserver, hclient, hunannounced, ?_⟩
    intro mtu hmem
    obtain ⟨seen, hseen, rfl⟩ := exists_lastSampled hmem
    obtain ⟨_, _, hdatagram⟩ := hall seen hseen
    rw [hconfigured seen (hunannounced.monitor hseen)] at hdatagram
    exact hdatagram
  · intro ⟨hserver, hclient, hunannounced, hdatagram⟩ seen hseen
    rw [hconfigured seen (hunannounced.monitor hseen)]
    exact ⟨hserver, hclient, hdatagram _ (lastSampled_mem hseen)⟩

/-- What the QUIC library leaves of a path MTU for a datagram with the usual
connection ids of eight bytes. -/
def quinnDatagramSize (mtu : Nat) : Nat := mtu - 38

/-- The default configuration on a path whose MTU moves from 1400 to 1440. -/
theorem mtu_sound_default :
    MtuSound quinnDatagramSize .linux ServerConfig.default.mtu 1400
      [⟨1440, by decide, true⟩] := by
  apply (mtu_sound isDefaultSocket quinnDatagramSize .linux
    ServerConfig.default 1400 [⟨1440, by decide, true⟩]
    ServerConfig.validate_defaultSockets _ _).mpr _ _ List.prefix_rfl
  · intro mtu hpositive
    exact Nat.sub_lt hpositive (by decide)
  · simp
  · refine ⟨by decide, by decide, ?_, by decide⟩
    simp [Unannounced]

/-- A path MTU that rises from 1400 to 1452 is announced as the MTU of the
client, whose packets of this size are cut and too large. -/
theorem mtu_unsound_after_update :
    ¬ ∀ (isSocketAddr : String → Bool) (maxDatagramSize : Nat → Nat)
        (platform : Platform) (config : ServerConfig) (first : Nat)
        (samples : List PmtuSample),
      config.validate isSocketAddr = .ok () →
      (∀ mtu, 0 < mtu → maxDatagramSize mtu < mtu) →
      (∀ sample ∈ samples, 0 < sample.mtu) →
      ∀ seen, seen <+: samples →
        MtuSound maxDatagramSize platform config.mtu first seen := by
  intro hall
  have hsound := hall isDefaultSocket quinnDatagramSize .linux
    ServerConfig.default 1400 [⟨1452, by decide, true⟩]
    ServerConfig.validate_defaultSockets
    (fun mtu hpositive => Nat.sub_lt hpositive (by decide)) (by simp) _
    List.prefix_rfl
  obtain ⟨_, hclient, _⟩ := mtuSound_iff.mp hsound
  revert hclient
  decide

end Redpill
