/-
The shutdown of the client's main loop.  A spawned task waits for the first
signal and wakes the selects that wait on the `Notify` at that moment; nothing
is kept for a select that is entered later.  The selects and the code between
them are phases here, so that a signal can arrive in any of them.
-/
import Redpill.ClientTeardown

namespace Redpill

inductive ShutdownSignal where
  | interrupt
  | terminate
  | hangup
deriving Repr, DecidableEq

/-- The selects of the loop. -/
inductive LoopWait where
  | probing
  | tunnel
  | failedBackoff
  | lostBackoff
deriving Repr, DecidableEq

namespace LoopWait

/-- Whether the select has the branch `shutdown.notified()`.  The backoff after
a failed connection waits for `ctrl_c` in its place. -/
def notified : LoopWait → Bool
  | failedBackoff => false
  | _ => true

/-- The phase of the client during the select. -/
def clientPhase : LoopWait → ClientPhase
  | probing => .connecting
  | tunnel => .tunnelling
  | _ => .backoff

/-- The branches a select can take.  Its shutdown branch needs a wake-up; a
wake-up does not keep it from another branch that is ready as well. -/
def takes (woken : Bool) : LoopWait → ClientEvent → Bool
  | probing, .connected _ => true
  | probing, .connectFailed => true
  | tunnel, .tunnelLost => true
  | tunnel, .healthReconnect => true
  | failedBackoff, .backoffElapsed => true
  | lostBackoff, .backoffElapsed => true
  | _, .shutdown => woken
  | _, _ => false

end LoopWait

/-- Where the loop is.  Between two selects it runs the code of the branch that
was taken, and waits for nothing. -/
inductive LoopPhase where
  | starting
  | waiting (wait : LoopWait) (woken : Bool)
  | after (event : ClientEvent)
  | returned

/-- The loop with its shutdown task: whether a signal has reached the task,
whether the task has handled it, and how many connections were tried after
that. -/
structure ShutdownLoop where
  client : Client
  phase : LoopPhase
  signalled : Bool
  handled : Bool
  lateProbes : Nat

inductive LoopEvent where
  | signal (signal : ShutdownSignal)
  | handle
  | select (event : ClientEvent)
  | proceed

namespace ShutdownLoop

def start : ShutdownLoop := ⟨Client.start, .starting, false, false, 0⟩

/-- A signal reaches the task, and the `ctrl_c` of the backoff after a failed
connection if it is an interrupt. -/
def deliver (loop : ShutdownLoop) (signal : ShutdownSignal) : ShutdownLoop :=
  match loop.phase, signal with
  | .waiting .failedBackoff _, .interrupt =>
      { loop with signalled := true, phase := .waiting .failedBackoff true }
  | _, _ => { loop with signalled := true }

/-- `notify_waiters` wakes the select that waits on the `Notify` now. -/
def notifyWaiters (loop : ShutdownLoop) : ShutdownLoop :=
  match loop.phase with
  | .waiting wait woken =>
      { loop with handled := true, phase := .waiting wait (woken || wait.notified) }
  | _ => { loop with handled := true }

/-- Enter a select.  The one at the head of the loop starts
`probe_and_connect`. -/
def enter (loop : ShutdownLoop) (wait : LoopWait) : ShutdownLoop :=
  { loop with
    phase := .waiting wait false
    lateProbes :=
      if wait = .probing ∧ loop.handled = true then loop.lateProbes + 1
      else loop.lateProbes }

/-- Where the code of a branch leads. -/
def follow (loop : ShutdownLoop) : ClientEvent → ShutdownLoop
  | .connected _ =>
      if loop.client.phase = .tunnelling then loop.enter .tunnel
      else { loop with phase := .returned }
  | .connectFailed => loop.enter .failedBackoff
  | .tunnelLost => loop.enter .lostBackoff
  | .healthReconnect => loop.enter .probing
  | .backoffElapsed => loop.enter .probing
  | .shutdown => { loop with phase := .returned }

/-- One step of the loop or of its shutdown task, which ends after the first
signal. -/
def step (settings : ClientSettings) (loop : ShutdownLoop) :
    LoopEvent → Option ShutdownLoop
  | .signal signal => some (loop.deliver signal)
  | .handle =>
      if loop.signalled && !loop.handled then some loop.notifyWaiters else none
  | .select event =>
      match loop.phase with
      | .waiting wait woken =>
          if wait.takes woken event then some { loop with phase := .after event }
          else none
      | _ => none
  | .proceed =>
      match loop.phase with
      | .starting => some (loop.enter .probing)
      | .after event =>
          (loop.client.step settings event).map fun client =>
            { loop with client := client }.follow event
      | _ => none

variable {settings : ClientSettings} {loop next : ShutdownLoop}

@[simp] theorem deliver_client (signal : ShutdownSignal) :
    (loop.deliver signal).client = loop.client := by
  unfold deliver
  split <;> rfl

@[simp] theorem deliver_handled (signal : ShutdownSignal) :
    (loop.deliver signal).handled = loop.handled := by
  unfold deliver
  split <;> rfl

@[simp] theorem deliver_lateProbes (signal : ShutdownSignal) :
    (loop.deliver signal).lateProbes = loop.lateProbes := by
  unfold deliver
  split <;> rfl

@[simp] theorem notifyWaiters_client :
    loop.notifyWaiters.client = loop.client := by
  unfold notifyWaiters
  split <;> rfl

@[simp] theorem notifyWaiters_lateProbes :
    loop.notifyWaiters.lateProbes = loop.lateProbes := by
  unfold notifyWaiters
  split <;> rfl

@[simp] theorem follow_client (event : ClientEvent) :
    (loop.follow event).client = loop.client := by
  cases event with
  | connected input =>
      simp only [follow]
      split <;> rfl
  | _ => rfl

@[simp] theorem follow_handled (event : ClientEvent) :
    (loop.follow event).handled = loop.handled := by
  cases event with
  | connected input =>
      simp only [follow]
      split <;> rfl
  | _ => rfl

theorem follow_lateProbes (loop : ShutdownLoop) (event : ClientEvent)
    (hhandled : loop.handled = false) :
    (loop.follow event).lateProbes = loop.lateProbes := by
  cases event with
  | connected input =>
      simp only [follow]
      split <;> simp [enter]
  | shutdown => rfl
  | _ => simp [follow, enter, hhandled]

/-- What a step is: a signal, its handling, the choice of a branch, or the code
that leads to the next select. -/
theorem step_cases {event : LoopEvent}
    (hstep : loop.step settings event = some next) :
    (∃ signal, event = .signal signal ∧ next = loop.deliver signal) ∨
      (event = .handle ∧ loop.signalled = true ∧ loop.handled = false ∧
        next = loop.notifyWaiters) ∨
      (∃ wait woken taken, event = .select taken ∧
        loop.phase = .waiting wait woken ∧ wait.takes woken taken = true ∧
        next = { loop with phase := .after taken }) ∨
      (event = .proceed ∧ loop.phase = .starting ∧
        next = loop.enter .probing) ∨
      (∃ taken client, event = .proceed ∧ loop.phase = .after taken ∧
        loop.client.step settings taken = some client ∧
        next = { loop with client := client }.follow taken) := by
  cases event with
  | signal signal =>
      left
      simp only [step, Option.some.injEq] at hstep
      exact ⟨signal, rfl, hstep.symm⟩
  | handle =>
      right; left
      simp only [step] at hstep
      split at hstep
      · rename_i hwaiting
        simp only [Bool.and_eq_true, Bool.not_eq_true'] at hwaiting
        simp only [Option.some.injEq] at hstep
        exact ⟨rfl, hwaiting.1, hwaiting.2, hstep.symm⟩
      · cases hstep
  | select taken =>
      right; right; left
      simp only [step] at hstep
      split at hstep
      · rename_i wait woken hphase
        split at hstep
        · rename_i htakes
          simp only [Option.some.injEq] at hstep
          exact ⟨wait, woken, taken, rfl, hphase, htakes, hstep.symm⟩
        · cases hstep
      · cases hstep
  | proceed =>
      right; right; right
      simp only [step] at hstep
      split at hstep
      · rename_i hphase
        simp only [Option.some.injEq] at hstep
        exact Or.inl ⟨rfl, hphase, hstep.symm⟩
      · rename_i taken hphase
        obtain ⟨client, hclient, hnext⟩ := Option.map_eq_some_iff.mp hstep
        exact Or.inr ⟨taken, client, rfl, hphase, hclient, hnext.symm⟩
      · cases hstep

/-- A step moves the client by one of its events or not at all. -/
theorem step_client {event : LoopEvent}
    (hstep : loop.step settings event = some next) :
    next.client = loop.client ∨
      ∃ taken, loop.client.step settings taken = some next.client := by
  rcases step_cases hstep with ⟨signal, _, rfl⟩ | ⟨_, _, _, rfl⟩ |
    ⟨wait, woken, taken, _, _, _, rfl⟩ | ⟨_, _, rfl⟩ |
    ⟨taken, client, _, _, hclient, rfl⟩
  · exact Or.inl (deliver_client signal)
  · exact Or.inl notifyWaiters_client
  · exact Or.inl rfl
  · exact Or.inl rfl
  · right
    refine ⟨taken, ?_⟩
    rw [follow_client]
    exact hclient

/-- With its signals and selects the loop refines the one whose shutdown can
come in any phase. -/
theorem reachable_client
    (hreach : Machine.Reachable (step settings) start loop) :
    Machine.Reachable (Client.step settings) Client.start loop.client := by
  apply hreach.project client
  intro loop event next hstep
  exact step_client hstep

/-- The loop knows that it must end: its select is woken, it is on its way out,
or the setup it is in fails. -/
def Informed (settings : ClientSettings) (loop : ShutdownLoop) : Prop :=
  match loop.phase with
  | .waiting _ woken => woken = true
  | .after .shutdown => True
  | .after (.connected input) =>
      (Client.settle (Client.onConnected settings input loop.client)).phase ≠
        .tunnelling
  | .returned => True
  | _ => False

/-- The signal is heard: it is handled while the loop waits in a select that
listens to it, or has no select ahead of it; and a select that was woken by a
handled signal takes its shutdown branch. -/
def Hears (settings : ClientSettings) (loop : ShutdownLoop) :
    LoopEvent → Prop
  | .handle =>
      match loop.phase with
      | .waiting wait woken => wait.notified = true ∨ woken = true
      | _ => loop.Informed settings
  | .select taken =>
      loop.handled = true →
        match loop.phase with
        | .waiting _ woken => woken = true → taken = .shutdown
        | _ => True
  | _ => True

/-- As long as every signal is heard, no connection is tried after one, and a
loop whose signal was handled is informed. -/
structure Quiet (settings : ClientSettings) (loop : ShutdownLoop) : Prop where
  informed : loop.handled = true → loop.Informed settings
  lateProbes : loop.lateProbes = 0

theorem Informed.deliver (h : loop.Informed settings)
    (signal : ShutdownSignal) : (loop.deliver signal).Informed settings := by
  unfold ShutdownLoop.deliver
  split
  · rfl
  · exact h

theorem notifyWaiters_informed (h : loop.Hears settings .handle) :
    loop.notifyWaiters.Informed settings := by
  unfold notifyWaiters
  simp only [Hears] at h
  split
  · rename_i wait woken hphase
    simp only [hphase] at h
    simp only [Informed, Bool.or_eq_true]
    exact h.symm
  · rename_i hphase
    split at h
    · rename_i wait woken hwaiting
      exact absurd hwaiting (hphase wait woken)
    · exact h

theorem step_connected {client stepped : Client} {input : SetupInput}
    (hclient : client.step settings (.connected input) = some stepped) :
    stepped = Client.settle (Client.onConnected settings input client) := by
  simp only [Client.step] at hclient
  split at hclient
  · exact (Option.some.inj hclient).symm
  · cases hclient

/-- An informed loop leaves through its shutdown branch or with the error of
its setup. -/
theorem follow_of_informed {taken : ClientEvent} {client : Client}
    (h : loop.Informed settings) (hphase : loop.phase = .after taken)
    (hclient : loop.client.step settings taken = some client) :
    { loop with client := client }.follow taken =
      { loop with client := client, phase := .returned } := by
  rw [Informed, hphase] at h
  cases taken with
  | shutdown => rfl
  | connected input =>
      have hphase' : client.phase ≠ .tunnelling := by
        rw [step_connected hclient]
        exact h
      simp [follow, hphase']
  | _ => exact h.elim

/-- A heard step keeps the loop quiet. -/
theorem Quiet.step {event : LoopEvent} (h : loop.Quiet settings)
    (hears : loop.Hears settings event)
    (hstep : loop.step settings event = some next) : next.Quiet settings := by
  rcases step_cases hstep with ⟨signal, rfl, rfl⟩ | ⟨rfl, _, _, rfl⟩ |
    ⟨wait, woken, taken, rfl, hphase, htakes, rfl⟩ | ⟨rfl, hphase, rfl⟩ |
    ⟨taken, client, rfl, hphase, hclient, rfl⟩
  · constructor
    · intro hhandled
      rw [deliver_handled] at hhandled
      exact (h.informed hhandled).deliver signal
    · rw [deliver_lateProbes]
      exact h.lateProbes
  · constructor
    · intro _
      exact notifyWaiters_informed hears
    · rw [notifyWaiters_lateProbes]
      exact h.lateProbes
  · constructor
    · intro hhandled
      have hwoken := h.informed hhandled
      simp only [Informed, hphase] at hwoken
      simp only [Hears, hphase] at hears
      rw [hears hhandled hwoken]
      trivial
    · exact h.lateProbes
  · have hunhandled : loop.handled = false := by
      by_contra hhandled
      have hinformed := h.informed (by simpa using hhandled)
      simp only [Informed, hphase] at hinformed
    constructor
    · intro hhandled
      rw [enter, hunhandled] at hhandled
      cases hhandled
    · simp [enter, hunhandled, h.lateProbes]
  · by_cases hhandled : loop.handled = true
    · rw [follow_of_informed (h.informed hhandled) hphase hclient]
      exact ⟨fun _ => trivial, h.lateProbes⟩
    · rw [Bool.not_eq_true] at hhandled
      constructor
      · intro hnext
        rw [follow_handled, hhandled] at hnext
        cases hnext
      · rw [follow_lateProbes { loop with client := client } taken hhandled]
        exact h.lateProbes

/-- In every run whose signals are heard, the loop never starts another
`probe_and_connect` once the signal is handled. -/
theorem run_client_heeds_shutdown (settings : ClientSettings)
    (schedule : List LoopEvent) (final : ShutdownLoop)
    (hears : Machine.Meets (step settings) (Hears settings) start schedule)
    (hrun : Machine.run (step settings) start schedule = some final) :
    final.lateProbes = 0 := by
  have hstart : start.Quiet settings := by
    constructor
    · intro hhandled
      cases hhandled
    · rfl
  have hfinal : final.Quiet settings := by
    apply Machine.run_invariant_of_meets _ hstart hears hrun
    intro loop event next hquiet hhears hstep
    exact hquiet.step hhears hstep
  exact hfinal.lateProbes

/-- A terminate signal in the tunnel ends the loop without another
attempt. -/
theorem run_client_heeds_terminate :
    ∃ final, Machine.run (step Client.linuxSettings) start
        [.proceed, .select (.connected Client.allSucceed), .proceed,
          .signal .terminate, .handle, .select .shutdown, .proceed] =
          some final ∧
      final.lateProbes = 0 := by
  refine ⟨_, rfl, ?_⟩
  apply run_client_heeds_shutdown Client.linuxSettings
    [.proceed, .select (.connected Client.allSucceed), .proceed,
      .signal .terminate, .handle, .select .shutdown, .proceed] _ _ rfl
  exact ⟨trivial, fun hhandled => Bool.noConfusion hhandled, trivial, trivial,
    Or.inl rfl, fun _ _ => rfl, trivial, trivial⟩

/-- The signal that arrives while a failed connection is backed off wakes
nothing, and the loop tries to connect again. -/
theorem run_client_misses_terminate :
    ¬ ∀ (settings : ClientSettings) (schedule : List LoopEvent)
        (final : ShutdownLoop),
      Machine.run (step settings) start schedule = some final →
        final.lateProbes = 0 := by
  intro hall
  have hlate := hall Client.linuxSettings
    [.proceed, .select .connectFailed, .proceed, .signal .terminate, .handle,
      .select .backoffElapsed, .proceed] _ rfl
  revert hlate
  decide

/-- The phase of the client that the loop is in. -/
def Agrees (loop : ShutdownLoop) : Prop :=
  match loop.phase with
  | .starting => loop.client.phase = .connecting
  | .waiting wait _ => loop.client.phase = wait.clientPhase
  | .after taken => ∃ wait woken, LoopWait.takes woken wait taken = true ∧
      loop.client.phase = wait.clientPhase
  | .returned => True

theorem follow_agrees (loop : ShutdownLoop) {client before : Client} {taken : ClientEvent}
    (hclient : before.step settings taken = some client) :
    ({ loop with client := client }.follow taken).Agrees := by
  cases taken with
  | connected input =>
      simp only [follow]
      split
      · rename_i htunnelling
        exact htunnelling
      · trivial
  | shutdown => trivial
  | _ =>
      simp only [Client.step] at hclient
      split at hclient
      · simp only [Option.some.injEq] at hclient
        subst hclient
        rfl
      · cases hclient

theorem Agrees.step {event : LoopEvent} (h : loop.Agrees)
    (hstep : loop.step settings event = some next) : next.Agrees := by
  rcases step_cases hstep with ⟨signal, _, rfl⟩ | ⟨_, _, _, rfl⟩ |
    ⟨wait, woken, taken, _, hphase, htakes, rfl⟩ | ⟨_, hphase, rfl⟩ |
    ⟨taken, client, _, _, hclient, rfl⟩
  · unfold deliver
    split
    · rename_i hphase _
      simp only [Agrees, hphase] at h
      exact h
    · exact h
  · unfold notifyWaiters
    split
    · rename_i hphase
      simp only [Agrees, hphase] at h
      exact h
    · exact h
  · simp only [Agrees, hphase] at h
    exact ⟨wait, woken, htakes, h⟩
  · simp only [Agrees, hphase] at h
    exact h
  · exact follow_agrees loop hclient

/-- The loop can still start a connection after its signal was handled. -/
def ProbesLate (settings : ClientSettings) (loop : ShutdownLoop) : Prop :=
  ∃ schedule final,
    Machine.run (ShutdownLoop.step settings) loop schedule = some final ∧
      0 < final.lateProbes

theorem ProbesLate.of_step (event : LoopEvent)
    (hstep : loop.step settings event = some next)
    (h : next.ProbesLate settings) : loop.ProbesLate settings := by
  obtain ⟨schedule, final, hrun, hlate⟩ := h
  exact ⟨event :: schedule, final,
    (Machine.run_cons_eq_some _).mpr ⟨next, hstep, hrun⟩, hlate⟩

theorem ProbesLate.of_select (taken : ClientEvent) {wait : LoopWait}
    {woken : Bool} (hphase : loop.phase = .waiting wait woken)
    (htakes : wait.takes woken taken = true)
    (h : ShutdownLoop.ProbesLate settings { loop with phase := .after taken }) :
    loop.ProbesLate settings := by
  apply ProbesLate.of_step (.select taken) _ h
  simp [ShutdownLoop.step, hphase, htakes]

theorem ProbesLate.of_after (taken : ClientEvent) (client : Client)
    (hphase : loop.phase = .after taken)
    (hclient : loop.client.step settings taken = some client)
    (h : ({ loop with client := client }.follow taken).ProbesLate settings) :
    loop.ProbesLate settings := by
  apply ProbesLate.of_step .proceed _ h
  simp [ShutdownLoop.step, hphase, hclient]

theorem enter_probesLate (hhandled : loop.handled = true) :
    (loop.enter .probing).ProbesLate settings :=
  ⟨[], _, rfl, by simp [enter, hhandled]⟩

/-- Every select has a branch that leads to another attempt. -/
theorem waiting_probesLate {wait : LoopWait} {woken : Bool}
    (hhandled : loop.handled = true)
    (hphase : loop.phase = .waiting wait woken)
    (hclient : loop.client.phase = wait.clientPhase) :
    loop.ProbesLate settings := by
  have helapsed (loop : ShutdownLoop) (hhandled : loop.handled = true)
      (hphase : loop.phase = .after .backoffElapsed)
      (hclient : loop.client.phase = .backoff) :
      loop.ProbesLate settings := by
    apply ProbesLate.of_after .backoffElapsed
      { loop.client with phase := .connecting } hphase
    · simp [Client.step, hclient]
    · exact enter_probesLate hhandled
  cases wait with
  | probing =>
      apply ProbesLate.of_select .connectFailed hphase rfl
      apply ProbesLate.of_after .connectFailed
        { loop.client with
          phase := .backoff, attempt := loop.client.attempt + 1 } rfl
      · simp only [Client.step, hclient, LoopWait.clientPhase, if_true]
      · apply ProbesLate.of_select .backoffElapsed rfl rfl
        exact helapsed _ hhandled rfl rfl
  | tunnel =>
      apply ProbesLate.of_select .healthReconnect hphase rfl
      apply ProbesLate.of_after .healthReconnect
        { loop.client with phase := .connecting, attempt := 0 } rfl
      · simp only [Client.step, hclient, LoopWait.clientPhase, if_true]
      · exact enter_probesLate hhandled
  | _ =>
      apply ProbesLate.of_select .backoffElapsed hphase rfl
      exact helapsed _ hhandled rfl hclient

theorem takes_step {wait : LoopWait} {woken : Bool} {taken : ClientEvent}
    {client : Client} (htakes : wait.takes woken taken = true)
    (hclient : client.phase = wait.clientPhase) :
    ∃ stepped, client.step settings taken = some stepped := by
  cases taken with
  | shutdown =>
      cases wait <;> simp [Client.step, hclient, LoopWait.clientPhase]
  | _ =>
      cases wait <;>
        simp_all [LoopWait.takes, Client.step, LoopWait.clientPhase]

/-- Code that is not on its way out leads to a select. -/
theorem follow_waiting {taken : ClientEvent} {client : Client}
    (huninformed : ¬ loop.Informed settings)
    (hphase : loop.phase = .after taken)
    (hclient : loop.client.step settings taken = some client) :
    ∃ wait, ({ loop with client := client }.follow taken).phase =
      .waiting wait false := by
  rw [Informed, hphase] at huninformed
  cases taken with
  | shutdown => exact absurd trivial huninformed
  | connected input =>
      have htunnelling : client.phase = .tunnelling := by
        rw [step_connected hclient]
        exact not_ne_iff.mp huninformed
      exact ⟨.tunnel, by simp [follow, htunnelling, enter]⟩
  | _ => exact ⟨_, rfl⟩

/-- A signal that is not heard may well be lost: the loop can start another
`probe_and_connect` after it was handled. -/
theorem uninformed_probesLate
    (hreach : Machine.Reachable (step settings) start loop)
    (hhandled : loop.handled = true)
    (huninformed : ¬ loop.Informed settings) : loop.ProbesLate settings := by
  have hagrees : loop.Agrees := by
    apply hreach.invariant
    · intro loop event next hloop hstep
      exact hloop.step hstep
    · rfl
  cases hphase : loop.phase with
  | starting =>
      apply ProbesLate.of_step .proceed _ (enter_probesLate hhandled)
      simp [step, hphase]
  | waiting wait woken =>
      simp only [Agrees, hphase] at hagrees
      exact waiting_probesLate hhandled hphase hagrees
  | after taken =>
      simp only [Agrees, hphase] at hagrees
      obtain ⟨wait, woken, htakes, hclient⟩ := hagrees
      obtain ⟨client, hstep⟩ := takes_step htakes hclient
      obtain ⟨entered, hentered⟩ := follow_waiting huninformed hphase hstep
      have hnext := follow_agrees loop hstep
      simp only [Agrees, hentered] at hnext
      apply ProbesLate.of_after taken client hphase hstep
      apply waiting_probesLate _ hentered hnext
      rw [follow_handled]
      exact hhandled
  | returned =>
      rw [Informed, hphase] at huninformed
      exact absurd trivial huninformed

end ShutdownLoop

end Redpill
