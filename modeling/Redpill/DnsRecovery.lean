/-
The DNS override of a Linux client (`route.rs`), as operations on two files:
`/etc/resolv.conf` and its backup.  Every operation may fail, and the client may
die between any two of them.  A write that fails may still have emptied the file
and left the first bytes of the new content.
-/
import Redpill.ByteStream
import Redpill.Machine

namespace Redpill

open ByteStream

/-- How `std::fs::write` ends: the content is there, the file could not be
opened, or it was emptied and the write broke off. -/
inductive WriteResult where
  | done
  | notOpened
  | cutOff (written : Nat)
deriving Repr, DecidableEq

/-- The file after a write. -/
def WriteResult.apply (content : Bytes) (file : Option Bytes) :
    WriteResult → Option Bytes
  | .done => some content
  | .notOpened => file
  | .cutOff written => some (content.take written)

/-- `std::fs::read_to_string`: the file must exist, the read must succeed and
the content must be UTF-8. -/
def readToString (succeeds : Bool) (file : Option Bytes) : Option Bytes :=
  file.filter fun content =>
    succeeds && ByteArray.validateUTF8 ⟨content.toArray⟩

/-- `cleanup_client_dns` runs when a client starts and when it stops. -/
inductive CleanupStage where
  | stale
  | final
deriving Repr, DecidableEq

/-- Where the client is: the next file operation, with what it has read. -/
inductive DnsPhase where
  | down
  | cleanupRead (stage : CleanupStage)
  | cleanupWrite (stage : CleanupStage) (orig : Bytes)
  | cleanupRemove (stage : CleanupStage)
  | ready
  | setupRead
  | setupBackup (orig : Bytes)
  | setupOverride
  | running
deriving Repr, DecidableEq

/-- After the stale cleanup the client connects; after the final one it
exits. -/
def CleanupStage.next : CleanupStage → DnsPhase
  | .stale => .ready
  | .final => .down

/-- The two files and the phase of the client.  `intact` and `cleaned` record
what the code does not look at: whether its last operations have succeeded, and
whether it has just ended a cleanup all of whose operations have. -/
structure DnsState where
  resolv : Option Bytes
  backup : Option Bytes
  phase : DnsPhase
  intact : Bool
  cleaned : Bool
deriving Repr, DecidableEq

inductive DnsEvent where
  | start
  | read (succeeds : Bool)
  | write (result : WriteResult)
  | remove (succeeds : Bool)
  | setup
  | stop
  | crash
deriving Repr, DecidableEq

/-- The content that setup writes over the original. -/
def dnsOverrideContent : Bytes :=
  "nameserver 1.1.1.1\nnameserver 1.0.0.1\n".toList.flatMap
    String.utf8EncodeChar

namespace DnsState

/-- Before the first run of the client. -/
def fresh (original : Bytes) : DnsState where
  resolv := some original
  backup := none
  phase := .down
  intact := false
  cleaned := false

/-- The original is in one of the files, and a cleanup whose operations have
all succeeded has put it back. -/
def Kept (original : Bytes) (state : DnsState) : Prop :=
  (state.resolv = some original ∨ state.backup = some original) ∧
    (state.cleaned = true → state.resolv = some original)

instance (original : Bytes) (state : DnsState) :
    Decidable (state.Kept original) :=
  inferInstanceAs (Decidable (_ ∧ _))

/-- Reading the backup, or the original in setup, where an error counts as an
empty file. -/
def readStep (state : DnsState) (succeeds : Bool) : Option DnsState :=
  match state.phase with
  | .cleanupRead stage =>
      match readToString succeeds state.backup with
      | some orig => some { state with
          phase := .cleanupWrite stage orig, cleaned := false }
      | none => some { state with
          phase := stage.next, intact := state.backup.isNone, cleaned := false }
  | .setupRead =>
      match readToString succeeds state.resolv with
      | some orig => some { state with
          phase := .setupBackup orig, cleaned := false }
      | none => some { state with
          phase := .setupBackup [], intact := false, cleaned := false }
  | _ => none

/-- Restoring the original, writing the backup, or overriding.  Only an error
of the last one is looked at. -/
def writeStep (state : DnsState) (result : WriteResult) : Option DnsState :=
  match state.phase with
  | .cleanupWrite stage orig => some { state with
      resolv := result.apply orig state.resolv
      phase := .cleanupRemove stage
      intact := decide (result = .done)
      cleaned := false }
  | .setupBackup orig => some { state with
      backup := result.apply orig state.backup
      phase := .setupOverride
      intact := state.intact && decide (result = .done)
      cleaned := false }
  | .setupOverride => some { state with
      resolv := result.apply dnsOverrideContent state.resolv
      phase := if result = .done then .running else .down
      cleaned := false }
  | _ => none

/-- Removing the backup, whether or not the original could be restored. -/
def removeStep (state : DnsState) (succeeds : Bool) : Option DnsState :=
  match state.phase with
  | .cleanupRemove stage => some { state with
      backup := if succeeds then none else state.backup
      phase := stage.next
      cleaned := succeeds && state.intact }
  | _ => none

/-- One event of the client.  Setup runs once at most in a run, and only a run
that has set up cleans up when it stops. -/
def step (state : DnsState) : DnsEvent → Option DnsState
  | .start =>
      if state.phase = .down then
        some { state with phase := .cleanupRead .stale, cleaned := false }
      else none
  | .read succeeds => state.readStep succeeds
  | .write result => state.writeStep result
  | .remove succeeds => state.removeStep succeeds
  | .setup =>
      if state.phase = .ready then
        some { state with phase := .setupRead, cleaned := false }
      else none
  | .stop =>
      if state.phase = .running then
        some { state with phase := .cleanupRead .final, cleaned := false }
      else none
  | .crash => some { state with phase := .down, cleaned := false }

/-- What the code would have to check before it goes on: the backup is written,
completely, only if the stale cleanup had nothing to restore or restored it and
the original could be read; the override is written only if the backup was; the
backup is removed only if the original was restored. -/
def careful (state : DnsState) : DnsEvent → Bool
  | .write result =>
      match state.phase with
      | .setupBackup _ =>
          decide (result = .notOpened) ||
            (state.intact && decide (result = .done))
      | .setupOverride => decide (result = .notOpened) || state.intact
      | _ => true
  | .remove succeeds => !succeeds || state.intact
  | _ => true

/-- A backup holds the original, and without one the file itself does. -/
def Safe (original : Bytes) (state : DnsState) : Prop :=
  state.backup = some original ∨
    state.backup = none ∧ state.resolv = some original

/-- What is known of the files in each phase. -/
def Holds (original : Bytes) (state : DnsState) : Prop :=
  match state.phase with
  | .down | .cleanupRead _ | .running => state.Safe original
  | .ready | .setupRead =>
      state.Safe original ∧
        (state.intact = true → state.resolv = some original)
  | .setupBackup orig =>
      state.Safe original ∧ (state.intact = true →
        orig = original ∧ state.resolv = some original)
  | .setupOverride =>
      state.Safe original ∧
        (state.intact = true → state.backup = some original)
  | .cleanupWrite _ orig => state.backup = some original ∧ orig = original
  | .cleanupRemove _ =>
      state.backup = some original ∧
        (state.intact = true → state.resolv = some original)

/-- The invariant of careful runs. -/
def Inv (original : Bytes) (state : DnsState) : Prop :=
  state.Holds original ∧
    (state.cleaned = true → state.resolv = some original)

end DnsState

theorem readToString_eq_some {succeeds : Bool} {file : Option Bytes}
    {content : Bytes} (h : readToString succeeds file = some content) :
    file = some content :=
  (Option.filter_eq_some_iff.mp h).1

namespace DnsState

variable {original : Bytes} {state next : DnsState}

theorem Safe.kept (h : state.Safe original) :
    state.resolv = some original ∨ state.backup = some original := by
  rcases h with hbackup | ⟨_, hresolv⟩
  · exact Or.inr hbackup
  · exact Or.inl hresolv

/-- In every phase the files are safe. -/
theorem Holds.safe (h : state.Holds original) : state.Safe original := by
  rw [Holds] at h
  split at h
  · exact h
  · exact h
  · exact h
  · exact h.1
  · exact h.1
  · exact h.1
  · exact h.1
  · exact Or.inl h.1
  · exact Or.inl h.1

theorem Inv.kept (h : state.Inv original) : state.Kept original :=
  ⟨h.1.safe.kept, h.2⟩

/-- Only a cleanup says that the files are clean. -/
theorem Holds.inv (h : state.Holds original)
    (hcleaned : state.cleaned = false) : state.Inv original := by
  refine ⟨h, ?_⟩
  intro hclean
  rw [hcleaned] at hclean
  exact absurd hclean Bool.false_ne_true

theorem inv_fresh (original : Bytes) : (fresh original).Inv original := by
  apply Holds.inv
  · exact Or.inr ⟨rfl, rfl⟩
  · rfl

/-- After a cleanup that read no backup, the files are as they were. -/
theorem holds_next {stage : CleanupStage} (hphase : state.phase = stage.next)
    (hsafe : state.Safe original)
    (hintact : state.intact = true → state.resolv = some original) :
    state.Holds original := by
  rw [Holds, hphase]
  cases stage with
  | stale => exact ⟨hsafe, hintact⟩
  | final => exact hsafe

theorem inv_readStep {succeeds : Bool} (hinv : state.Inv original)
    (h : state.readStep succeeds = some next) : next.Inv original := by
  have hsafe := hinv.1.safe
  have hholds := hinv.1
  rw [readStep] at h
  split at h
  · rename_i stage hphase
    split at h
    · rename_i orig hread
      obtain rfl := Option.some.inj h
      have hbackup := readToString_eq_some hread
      refine Holds.inv ?_ rfl
      rcases hsafe with horiginal | ⟨hnone, _⟩
      · exact ⟨horiginal, Option.some.inj (hbackup.symm.trans horiginal)⟩
      · exact absurd (hbackup.symm.trans hnone) (Option.some_ne_none orig)
    · obtain rfl := Option.some.inj h
      refine Holds.inv (holds_next rfl (by exact hsafe) ?_) rfl
      intro hintact
      rcases hsafe with horiginal | ⟨_, hresolv⟩
      · rw [horiginal] at hintact
        exact absurd hintact Bool.false_ne_true
      · exact hresolv
  · rename_i hphase
    rw [Holds, hphase] at hholds
    split at h
    · rename_i orig hread
      obtain rfl := Option.some.inj h
      refine Holds.inv ⟨hsafe, ?_⟩ rfl
      intro hintact
      have hresolv := hholds.2 hintact
      exact ⟨Option.some.inj ((readToString_eq_some hread).symm.trans hresolv),
        hresolv⟩
    · obtain rfl := Option.some.inj h
      refine Holds.inv ⟨hsafe, ?_⟩ rfl
      intro hintact
      exact absurd hintact Bool.false_ne_true
  · exact absurd h (Option.some_ne_none next).symm

theorem inv_writeStep {result : WriteResult} (hinv : state.Inv original)
    (hcareful : state.careful (.write result) = true)
    (h : state.writeStep result = some next) : next.Inv original := by
  have hsafe := hinv.1.safe
  have hholds := hinv.1
  rw [careful] at hcareful
  rw [writeStep] at h
  split at h
  · rename_i stage orig hphase
    obtain rfl := Option.some.inj h
    rw [Holds, hphase] at hholds
    refine Holds.inv ⟨hholds.1, ?_⟩ rfl
    intro hdone
    have hresult : result = .done := of_decide_eq_true hdone
    simp only [hresult, WriteResult.apply, hholds.2]
  · rename_i orig hphase
    obtain rfl := Option.some.inj h
    rw [Holds, hphase] at hholds
    rw [hphase] at hcareful
    simp only [Bool.or_eq_true, decide_eq_true_eq, Bool.and_eq_true]
      at hcareful
    refine Holds.inv ⟨?_, ?_⟩ rfl
    · rcases hcareful with rfl | ⟨hintact, rfl⟩
      · exact hsafe
      · left
        simp only [WriteResult.apply, (hholds.2 hintact).1]
    · intro hintact
      rw [Bool.and_eq_true, decide_eq_true_eq] at hintact
      simp only [hintact.2, WriteResult.apply, (hholds.2 hintact.1).1]
  · rename_i hphase
    obtain rfl := Option.some.inj h
    rw [Holds, hphase] at hholds
    rw [hphase] at hcareful
    simp only [Bool.or_eq_true, decide_eq_true_eq] at hcareful
    have hnext : Safe original
        { state with resolv := result.apply dnsOverrideContent state.resolv } := by
      rcases hcareful with rfl | hintact
      · exact hsafe
      · exact Or.inl (hholds.2 hintact)
    refine Holds.inv ?_ rfl
    by_cases hresult : result = .done
    · rw [Holds, if_pos hresult]
      exact hnext
    · rw [Holds, if_neg hresult]
      exact hnext
  · exact absurd h (Option.some_ne_none next).symm

theorem inv_removeStep {succeeds : Bool} (hinv : state.Inv original)
    (hcareful : state.careful (.remove succeeds) = true)
    (h : state.removeStep succeeds = some next) : next.Inv original := by
  have hholds := hinv.1
  rw [removeStep] at h
  split at h
  · rename_i stage hphase
    obtain rfl := Option.some.inj h
    rw [Holds, hphase] at hholds
    obtain ⟨hbackup, hrestored⟩ := hholds
    refine ⟨holds_next rfl ?_ hrestored, ?_⟩
    · cases succeeds with
      | true => exact Or.inr ⟨rfl, hrestored hcareful⟩
      | false => exact Or.inl hbackup
    · intro hcleaned
      exact hrestored (Bool.and_eq_true _ _ ▸ hcleaned).2
  · exact absurd h (Option.some_ne_none next).symm

theorem inv_step {event : DnsEvent} (hinv : state.Inv original)
    (hcareful : state.careful event = true)
    (h : state.step event = some next) : next.Inv original := by
  have hsafe := hinv.1.safe
  cases event with
  | read succeeds => exact inv_readStep hinv h
  | write result => exact inv_writeStep hinv hcareful h
  | remove succeeds => exact inv_removeStep hinv hcareful h
  | setup =>
      rw [step] at h
      split at h
      · rename_i hphase
        obtain rfl := Option.some.inj h
        have hholds := hinv.1
        rw [Holds, hphase] at hholds
        exact Holds.inv hholds rfl
      · exact absurd h (Option.some_ne_none next).symm
  | crash =>
      obtain rfl := Option.some.inj h
      exact Holds.inv hsafe rfl
  | _ =>
      rw [step] at h
      split at h
      · obtain rfl := Option.some.inj h
        exact Holds.inv hsafe rfl
      · exact absurd h (Option.some_ne_none next).symm

/-- Over every sequence of runs and crashes in which the client is careful, the
original is never lost, and a cleanup that succeeds has put it back. -/
theorem dns_kept (original : Bytes) (schedule : List DnsEvent)
    (hcareful : Machine.Meets step
      (fun state event => state.careful event = true) (fresh original)
      schedule) :
    Machine.Always step (Kept original) (fresh original) schedule :=
  Machine.always_of_meets (fun _ _ _ => inv_step) (fun _ => Inv.kept)
    (inv_fresh original) hcareful

/-- A run that is killed once the override is in place, and a second one that
stops in order. -/
def crashAndStop : List DnsEvent :=
  [.start, .read true, .setup, .read true, .write .done, .write .done, .crash,
    .start, .read true, .write .done, .remove true, .setup, .read true,
    .write .done, .write .done, .stop, .read true, .write .done, .remove true]

theorem dns_kept_crashAndStop :
    Machine.Meets step (fun state event => state.careful event = true)
        (fresh [0x23]) crashAndStop ∧
      Machine.Always step (Kept [0x23]) (fresh [0x23]) crashAndStop :=
  have hcareful : Machine.Meets step
      (fun state event => state.careful event = true) (fresh [0x23])
      crashAndStop := by decide
  ⟨hcareful, dns_kept [0x23] crashAndStop hcareful⟩

/-- An original that is not UTF-8 counts as empty: its backup is empty, and the
override destroys it although no operation on the disk has failed. -/
theorem not_utf8_lost :
    ∃ state : DnsState,
      Machine.run step (fresh [0x23, 0xff]) [.start, .read true, .setup,
        .read true, .write .done, .write .done] = some state ∧
      state.backup = some [] ∧ ¬ state.Kept [0x23, 0xff] := by
  refine ⟨_, rfl, ?_, ?_⟩
  · decide
  · decide

end DnsState

end Redpill
