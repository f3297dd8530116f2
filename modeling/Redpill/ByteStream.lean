/-
Byte strings, big-endian 16-bit words and exact reads from a stream that
arrives in chunks.  A reader asking for `n` bytes sees the first `n` bytes of
the concatenated chunks, whatever the chunking.
-/
import Mathlib

namespace ByteStream

abbrev Bytes := List UInt8

/-- The 16-bit word written most significant byte first. -/
def u16FromBeBytes (high low : UInt8) : Nat :=
  high.toNat * 256 + low.toNat

/-- The two bytes of `n as u16`, most significant first: the conversion keeps
the low sixteen bits. -/
def u16ToBeBytes (n : Nat) : Bytes :=
  [UInt8.ofNat (n / 256), UInt8.ofNat n]

@[simp] theorem u16ToBeBytes_length (n : Nat) : (u16ToBeBytes n).length = 2 :=
  rfl

theorem u16FromBeBytes_lt (high low : UInt8) :
    u16FromBeBytes high low < 65536 := by
  have hhigh := high.toNat_lt
  have hlow := low.toNat_lt
  rw [u16FromBeBytes]
  omega

theorem u16FromBeBytes_ofNat {n : Nat} (hn : n < 65536) :
    u16FromBeBytes (UInt8.ofNat (n / 256)) (UInt8.ofNat n) = n := by
  simp only [u16FromBeBytes, UInt8.toNat_ofNat']
  omega

theorem u16ToBeBytes_u16FromBeBytes (high low : UInt8) :
    u16ToBeBytes (u16FromBeBytes high low) = [high, low] := by
  have hlow := low.toNat_lt
  have hdiv : u16FromBeBytes high low / 256 = high.toNat := by
    rw [u16FromBeBytes]
    omega
  have hmod : UInt8.ofNat (u16FromBeBytes high low) = low := by
    rw [← UInt8.toNat_inj, UInt8.toNat_ofNat', u16FromBeBytes]
    omega
  rw [u16ToBeBytes, hdiv, hmod, UInt8.ofNat_toNat]

/-- The byte at a position; out of range the program would panic, which is
`none` here. -/
def index (data : Bytes) (i : Nat) : Option UInt8 := data[i]?

/-- The bytes from `start` up to `stop`, `none` where the range is not one of
the data. -/
def slice (data : Bytes) (start stop : Nat) : Option Bytes :=
  if start ≤ stop ∧ stop ≤ data.length then
    some ((data.drop start).take (stop - start))
  else none

theorem index_eq_some {data : Bytes} {i : Nat} (hi : i < data.length) :
    index data i = some data[i] :=
  List.getElem?_eq_getElem hi

theorem slice_eq_some {data : Bytes} {start stop : Nat}
    (hle : start ≤ stop) (hstop : stop ≤ data.length) :
    slice data start stop = some ((data.drop start).take (stop - start)) :=
  if_pos ⟨hle, hstop⟩

/-- Read exactly `n` bytes from a stream of chunks, or fail at its end.  The
remaining chunks are returned with the bytes. -/
def readExact : Nat → List Bytes → Option (Bytes × List Bytes)
  | 0, chunks => some ([], chunks)
  | _ + 1, [] => none
  | n + 1, chunk :: rest =>
      if n + 1 ≤ chunk.length then
        some (chunk.take (n + 1), chunk.drop (n + 1) :: rest)
      else
        (readExact (n + 1 - chunk.length) rest).map fun result =>
          (chunk ++ result.1, result.2)

/-- Enough bytes in the stream: the read returns the first `n` of them and
leaves the others, in some chunking. -/
theorem readExact_of_le {n : Nat} {chunks : List Bytes}
    (hlen : n ≤ chunks.flatten.length) :
    ∃ rest, readExact n chunks = some (chunks.flatten.take n, rest) ∧
      rest.flatten = chunks.flatten.drop n := by
  induction chunks generalizing n with
  | nil =>
      have hzero : n = 0 := by simpa using hlen
      subst hzero
      exact ⟨[], rfl, rfl⟩
  | cons chunk tail ih =>
      cases n with
      | zero => exact ⟨chunk :: tail, by simp [readExact], by simp⟩
      | succ n =>
          simp only [List.flatten_cons, List.length_append] at hlen ⊢
          by_cases hchunk : n + 1 ≤ chunk.length
          · refine ⟨chunk.drop (n + 1) :: tail, ?_, ?_⟩
            · simp [readExact, hchunk, List.take_append_of_le_length hchunk]
            · simp [List.drop_append_of_le_length hchunk]
          · obtain ⟨rest, hread, hrest⟩ := ih (n := n + 1 - chunk.length) (by omega)
            have hle : chunk.length ≤ n + 1 := by omega
            refine ⟨rest, ?_, ?_⟩
            · simp [readExact, hchunk, hread, List.take_append,
                List.take_of_length_le hle]
            · rw [hrest, List.drop_append, List.drop_eq_nil_of_le hle,
                List.nil_append]

/-- Too few bytes in the stream: the read fails. -/
theorem readExact_of_lt {n : Nat} {chunks : List Bytes}
    (hlen : chunks.flatten.length < n) : readExact n chunks = none := by
  induction chunks generalizing n with
  | nil =>
      cases n with
      | zero => simp at hlen
      | succ n => rfl
  | cons chunk tail ih =>
      cases n with
      | zero => simp at hlen
      | succ n =>
          simp only [List.flatten_cons, List.length_append] at hlen
          have hchunk : ¬ n + 1 ≤ chunk.length := by omega
          simp [readExact, hchunk, ih (n := n + 1 - chunk.length) (by omega)]

/-- What an exact read returns is what the stream starts with. -/
theorem readExact_eq_some {n : Nat} {chunks rest : List Bytes} {data : Bytes}
    (hread : readExact n chunks = some (data, rest)) :
    data.length = n ∧ chunks.flatten = data ++ rest.flatten := by
  rcases Nat.lt_or_ge chunks.flatten.length n with hlt | hle
  · rw [readExact_of_lt hlt] at hread
    cases hread
  · obtain ⟨found, hfound, hrest⟩ := readExact_of_le hle
    rw [hread] at hfound
    simp only [Option.some.injEq, Prod.mk.injEq] at hfound
    obtain ⟨rfl, rfl⟩ := hfound
    rw [hrest, List.take_append_drop]
    exact ⟨List.length_take_of_le hle, rfl⟩

/-- The stream starts with `data`: the read returns it and leaves the rest. -/
theorem readExact_append {data tail : Bytes} {chunks : List Bytes}
    (hflat : chunks.flatten = data ++ tail) :
    ∃ rest, readExact data.length chunks = some (data, rest) ∧
      rest.flatten = tail := by
  have hlen : data.length ≤ chunks.flatten.length := by
    rw [hflat, List.length_append]
    omega
  obtain ⟨rest, hread, hrest⟩ := readExact_of_le hlen
  refine ⟨rest, ?_, ?_⟩
  · rw [hread, hflat, List.take_left]
  · rw [hrest, hflat, List.drop_left]

/-- A buffered writer: what has gone to the stream below, and what has not
yet. -/
structure BufWriter where
  capacity : Nat
  inner : Bytes
  buffer : Bytes
deriving Repr, DecidableEq

namespace BufWriter

def withCapacity (capacity : Nat) : BufWriter := ⟨capacity, [], []⟩

def flush (writer : BufWriter) : BufWriter :=
  { writer with inner := writer.inner ++ writer.buffer, buffer := [] }

/-- The buffer is flushed when the data does not fit in it, and data that would
fill it alone bypasses it. -/
def writeAll (writer : BufWriter) (data : Bytes) : BufWriter :=
  let room :=
    if writer.capacity < writer.buffer.length + data.length then writer.flush
    else writer
  if room.capacity ≤ data.length then
    { room with inner := room.inner ++ data }
  else { room with buffer := room.buffer ++ data }

/-- Everything that was written, in order. -/
def written (writer : BufWriter) : Bytes := writer.inner ++ writer.buffer

@[simp] theorem written_withCapacity (capacity : Nat) :
    (withCapacity capacity).written = [] :=
  rfl

@[simp] theorem written_flush (writer : BufWriter) :
    writer.flush.written = writer.written :=
  List.append_nil _

/-- Nothing overtakes the buffer: data bypasses it only when it is empty. -/
@[simp] theorem written_writeAll (writer : BufWriter) (data : Bytes) :
    (writer.writeAll data).written = writer.written ++ data := by
  unfold writeAll
  by_cases hroom : writer.capacity < writer.buffer.length + data.length
  · by_cases hlarge : writer.capacity ≤ data.length
    · simp [hroom, flush, hlarge, written]
    · simp [hroom, flush, hlarge, written]
  · by_cases hlarge : writer.capacity ≤ data.length
    · have hempty : writer.buffer = [] := by
        rw [← List.length_eq_zero_iff]
        omega
      simp only [hroom, if_false, hlarge, if_true]
      simp [written, hempty]
    · simp [hroom, hlarge, written]

@[simp] theorem flush_inner (writer : BufWriter) :
    writer.flush.inner = writer.written :=
  rfl

/-- What the stream below has been given stays given. -/
theorem inner_isPrefix_flush (writer : BufWriter) :
    writer.inner <+: writer.flush.inner :=
  List.prefix_append _ _

theorem inner_isPrefix_writeAll (writer : BufWriter) (data : Bytes) :
    writer.inner <+: (writer.writeAll data).inner := by
  have hroom : writer.inner <+:
      (if writer.capacity < writer.buffer.length + data.length then
        writer.flush else writer).inner := by
    split
    · exact writer.inner_isPrefix_flush
    · exact List.prefix_rfl
  unfold writeAll
  generalize (if writer.capacity < writer.buffer.length + data.length then
    writer.flush else writer) = room at hroom
  simp only
  split
  · exact hroom.trans (List.prefix_append _ _)
  · exact hroom

end BufWriter

end ByteStream
