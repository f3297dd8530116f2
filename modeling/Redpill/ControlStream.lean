/-
The control stream after the first message: the configuration that the client
reads, the updates that `run_pmtu_monitor` writes behind it, and the client's
`read_session_updates`.
-/
import Redpill.Server

namespace Redpill

open ByteStream

/-- The client reads and decodes the configuration.  The stream transports read
exactly 17 bytes; a WebSocket message must be long enough and is cut.  The
chunks that were not read are returned as well. -/
def Handler.readConfig (handler : Handler) (chunks : List Bytes) :
    Option (SessionConfig × List Bytes) :=
  match handler with
  | .ws =>
      if chunks.flatten.length < sessionConfigLen then none
      else
        (SessionConfig.decode (chunks.flatten.take sessionConfigLen)).map
          fun config => (config, [])
  | _ =>
      (readExact sessionConfigLen chunks).bind fun read =>
        (SessionConfig.decode read.1).map fun config => (config, read.2)

/-- One round of the monitor: the path MTU it finds, a 16-bit number, and
whether the update could be written, should there be one. -/
structure PmtuSample where
  mtu : Nat
  mtu_lt : mtu < 65536
  writeOk : Bool
deriving Repr

/-- The updates that the monitor writes: only changes by more than 50 bytes are
sent, and the first write that fails ends it. -/
def runPmtuMonitor (lastMtu : Nat) : List PmtuSample → List SessionUpdate
  | [] => []
  | sample :: rest =>
      if 50 < ((sample.mtu : Int) - lastMtu).natAbs then
        if sample.writeOk then
          ⟨sample.mtu, sample.mtu_lt⟩ :: runPmtuMonitor sample.mtu rest
        else []
      else runPmtuMonitor lastMtu rest

/-- The loop of the client over a stream that ends with the chunks.  What does
not decode is skipped. -/
def readSessionUpdatesFrom : Nat → List Bytes → List SessionUpdate
  | 0, _ => []
  | fuel + 1, chunks =>
      match readExact sessionUpdateLen chunks with
      | none => []
      | some (buf, rest) =>
          (SessionUpdate.decode buf).toList ++ readSessionUpdatesFrom fuel rest

/-- The updates that the client applies.  Every round takes three bytes, so the
length of the stream bounds the number of rounds. -/
def readSessionUpdates (chunks : List Bytes) : List SessionUpdate :=
  readSessionUpdatesFrom (chunks.flatten.length + 1) chunks

/-- The client reads the configuration that was sent, and leaves what follows
it on a stream. -/
theorem Handler.readConfig_of_flatten (handler : Handler)
    {chunks : List Bytes} {config : SessionConfig} {tail : Bytes}
    (hflat : chunks.flatten = config.encode ++ tail) :
    ∃ rest, handler.readConfig chunks = some (config, rest) ∧
      (handler ≠ .ws → rest.flatten = tail) := by
  cases handler with
  | ws =>
      have hlen : ¬ chunks.flatten.length < sessionConfigLen := by
        rw [hflat, List.length_append, config.encode_length]
        omega
      have htake : chunks.flatten.take sessionConfigLen = config.encode := by
        rw [hflat, ← config.encode_length, List.take_left]
      refine ⟨[], ?_, ?_⟩
      · simp only [readConfig, hlen, if_false, htake, config.decode_encode]
        rfl
      · intro hne
        exact absurd rfl hne
  | _ =>
      obtain ⟨rest, hread, hrest⟩ := readExact_append hflat
      rw [config.encode_length] at hread
      refine ⟨rest, ?_, ?_⟩
      · simp [readConfig, hread, config.decode_encode]
      · intro _
        exact hrest

theorem readSessionUpdatesFrom_of_flatten {updates : List SessionUpdate}
    {chunks : List Bytes} {cut : Bytes} {fuel : Nat}
    (hflat : chunks.flatten = updates.flatMap SessionUpdate.encode ++ cut)
    (hcut : cut.length < sessionUpdateLen) (hfuel : updates.length < fuel) :
    readSessionUpdatesFrom fuel chunks = updates := by
  induction updates generalizing chunks fuel with
  | nil =>
      cases fuel with
      | zero => rfl
      | succ fuel =>
          have hshort : chunks.flatten.length < sessionUpdateLen := by
            rw [hflat]
            exact hcut
          rw [readSessionUpdatesFrom, readExact_of_lt hshort]
  | cons update updates ih =>
      cases fuel with
      | zero => exact absurd hfuel (Nat.not_lt_zero _)
      | succ fuel =>
          rw [List.flatMap_cons, List.append_assoc] at hflat
          obtain ⟨rest, hread, hrest⟩ := readExact_append hflat
          rw [update.encode_length] at hread
          rw [readSessionUpdatesFrom, hread]
          simp only [update.decode_encode, Option.toList_some,
            List.singleton_append, List.cons.injEq, true_and]
          exact ih hrest (Nat.lt_of_succ_lt_succ hfuel)

theorem updates_length_le (updates : List SessionUpdate) :
    updates.length ≤ (updates.flatMap SessionUpdate.encode).length := by
  induction updates with
  | nil => exact Nat.le_refl _
  | cons update updates ih =>
      rw [List.flatMap_cons, List.length_append, List.length_cons,
        update.encode_length, sessionUpdateLen]
      omega

/-- The client applies the updates that were written, in order, however the
stream is cut and wherever it ends. -/
theorem readSessionUpdates_of_flatten {updates : List SessionUpdate}
    {chunks : List Bytes} {cut : Bytes}
    (hflat : chunks.flatten = updates.flatMap SessionUpdate.encode ++ cut)
    (hcut : cut.length < sessionUpdateLen) :
    readSessionUpdates chunks = updates := by
  apply readSessionUpdatesFrom_of_flatten hflat hcut
  have hlen := updates_length_le updates
  rw [hflat, List.length_append]
  omega

end Redpill
