/-
One direction of a relay.  What the source has sent lies, in order, at the
sink, in the buffer of the relay, or before the relay, not read yet.  The
operations that move data keep this; those that give data up keep it exactly
when there was none to give up.
-/
import Mathlib

universe u

structure Pipe (α : Type u) where
  sent : List α
  unread : List α
  closed : Bool
  buffer : List α
  delivered : List α
deriving Repr, DecidableEq

namespace Pipe

variable {α : Type u}

def empty : Pipe α := ⟨[], [], false, [], []⟩

/-- The source sends, and the relay has not read it yet. -/
def send (pipe : Pipe α) (chunk : List α) : Pipe α :=
  { pipe with sent := pipe.sent ++ chunk, unread := pipe.unread ++ chunk }

/-- The source sends after the relay has gone. -/
def sendLost (pipe : Pipe α) (chunk : List α) : Pipe α :=
  { pipe with sent := pipe.sent ++ chunk }

/-- The source has sent everything. -/
def close (pipe : Pipe α) : Pipe α := { pipe with closed := true }

/-- The relay reads up to `count`, as far as its buffer has room. -/
def read (capacity count : Nat) (pipe : Pipe α) : Pipe α :=
  let taken := min count (capacity - pipe.buffer.length)
  { pipe with
    unread := pipe.unread.drop taken
    buffer := pipe.buffer ++ pipe.unread.take taken }

/-- The sink takes up to `count` from the buffer. -/
def write (count : Nat) (pipe : Pipe α) : Pipe α :=
  { pipe with
    buffer := pipe.buffer.drop count
    delivered := pipe.delivered ++ pipe.buffer.take count }

def discardBuffer (pipe : Pipe α) : Pipe α := { pipe with buffer := [] }

/-- The relay goes, with all that it has not delivered. -/
def discard (pipe : Pipe α) : Pipe α :=
  { pipe with unread := [], buffer := [] }

def inFlight (pipe : Pipe α) : List α := pipe.buffer ++ pipe.unread

/-- Nothing is lost, added, repeated or reordered. -/
def Lossless (pipe : Pipe α) : Prop :=
  pipe.sent = pipe.delivered ++ pipe.inFlight

instance [DecidableEq α] (pipe : Pipe α) : Decidable pipe.Lossless :=
  inferInstanceAs (Decidable (_ = _))

/-- The pipe once everything in flight is delivered. -/
def drained (pipe : Pipe α) : Pipe α :=
  { pipe.discard with delivered := pipe.delivered ++ pipe.inFlight }

@[simp] theorem inFlight_read (capacity count : Nat) (pipe : Pipe α) :
    (pipe.read capacity count).inFlight = pipe.inFlight := by
  simp [inFlight, read]

theorem delivered_write_append (count : Nat) (pipe : Pipe α) :
    (pipe.write count).delivered ++ (pipe.write count).inFlight =
      pipe.delivered ++ pipe.inFlight := by
  simp only [write, inFlight, List.append_assoc]
  rw [← List.append_assoc (pipe.buffer.take count), List.take_append_drop]

theorem lossless_empty : (empty : Pipe α).Lossless :=
  rfl

theorem lossless_close {pipe : Pipe α} :
    pipe.close.Lossless ↔ pipe.Lossless :=
  Iff.rfl

theorem lossless_read {capacity count : Nat} {pipe : Pipe α} :
    (pipe.read capacity count).Lossless ↔ pipe.Lossless := by
  rw [Lossless, inFlight_read]
  exact Iff.rfl

theorem lossless_write {count : Nat} {pipe : Pipe α} :
    (pipe.write count).Lossless ↔ pipe.Lossless := by
  rw [Lossless, delivered_write_append]
  exact Iff.rfl

theorem lossless_send {chunk : List α} {pipe : Pipe α} :
    (pipe.send chunk).Lossless ↔ pipe.Lossless := by
  simp only [Lossless, send, inFlight]
  rw [← List.append_assoc pipe.buffer, ← List.append_assoc pipe.delivered]
  exact List.append_left_inj chunk

/-- Nothing can be sent to a relay that has gone. -/
theorem lossless_sendLost {chunk : List α} {pipe : Pipe α}
    (hpipe : pipe.Lossless) : (pipe.sendLost chunk).Lossless ↔ chunk = [] := by
  rw [Lossless, show (pipe.sendLost chunk).sent = pipe.sent ++ chunk from rfl,
    show (pipe.sendLost chunk).delivered ++ (pipe.sendLost chunk).inFlight =
      pipe.delivered ++ pipe.inFlight from rfl, ← hpipe]
  exact List.append_right_eq_self

theorem lossless_discardBuffer {pipe : Pipe α} (hpipe : pipe.Lossless) :
    pipe.discardBuffer.Lossless ↔ pipe.buffer = [] := by
  rw [Lossless, show pipe.discardBuffer.sent = pipe.sent from rfl,
    show pipe.discardBuffer.delivered ++ pipe.discardBuffer.inFlight =
      pipe.delivered ++ pipe.unread from rfl, hpipe, inFlight,
    List.append_right_inj]
  exact List.append_left_eq_self

theorem lossless_discard {pipe : Pipe α} (hpipe : pipe.Lossless) :
    pipe.discard.Lossless ↔ pipe.inFlight = [] := by
  rw [Lossless, show pipe.discard.sent = pipe.sent from rfl,
    show pipe.discard.delivered ++ pipe.discard.inFlight =
      pipe.delivered ++ [] from rfl, hpipe, List.append_right_inj]

@[simp] theorem drained_read (capacity count : Nat) (pipe : Pipe α) :
    (pipe.read capacity count).drained = pipe.drained := by
  simp only [drained, inFlight_read]
  rfl

@[simp] theorem drained_write (count : Nat) (pipe : Pipe α) :
    (pipe.write count).drained = pipe.drained := by
  simp only [drained, delivered_write_append]
  rfl

/-- With nothing left to read, one write delivers the rest. -/
theorem write_eq_drained {pipe : Pipe α} (hunread : pipe.unread = []) :
    pipe.write pipe.buffer.length = pipe.drained := by
  simp [write, drained, discard, inFlight, hunread]

/-- A buffer that was written out has room again. -/
theorem read_write_unread_lt {capacity : Nat} {pipe : Pipe α}
    (hcapacity : 0 < capacity) (hunread : pipe.unread ≠ []) :
    ((pipe.write pipe.buffer.length).read capacity capacity).unread.length <
      pipe.unread.length := by
  have hpos : 0 < pipe.unread.length := List.length_pos_iff.mpr hunread
  simp only [read, write, List.length_drop, Nat.sub_self, Nat.sub_zero,
    Nat.min_self]
  omega

end Pipe
