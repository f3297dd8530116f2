/-
A notification with a single permit and one task that may wait for it.  A
notification wakes the waiting task or is stored, at most once; a waiter that
is dropped after it was notified passes the notification on.
-/
import Mathlib

/-- The stored permit, and the registered waiter with whether it has been
notified. -/
structure Notify where
  permit : Bool
  waiter : Option Bool
deriving Repr, DecidableEq

namespace Notify

def new : Notify := ⟨false, none⟩

/-- Wake the waiter, or store the permit if none is asleep. -/
def notifyOne (notify : Notify) : Notify :=
  match notify.waiter with
  | some false => { notify with waiter := some true }
  | some true | none => { notify with permit := true }

/-- The first poll of a wait: it takes the permit, or registers the waiter. -/
def poll (notify : Notify) : Bool × Notify :=
  if notify.permit then (true, { notify with permit := false })
  else (false, { notify with waiter := some false })

/-- A waiter that was notified returns. -/
def wake (notify : Notify) : Option Notify :=
  match notify.waiter with
  | some true => some { notify with waiter := none }
  | some false | none => none

/-- The wait is dropped. -/
def cancel (notify : Notify) : Notify :=
  match notify.waiter with
  | some true => ({ notify with waiter := none } : Notify).notifyOne
  | some false | none => { notify with waiter := none }

/-- A notification has been given and not yet been taken. -/
def Pending (notify : Notify) : Prop :=
  notify.permit = true ∨ notify.waiter = some true

instance (notify : Notify) : Decidable notify.Pending :=
  inferInstanceAs (Decidable (_ ∨ _))

theorem pending_notifyOne (notify : Notify) : notify.notifyOne.Pending := by
  unfold notifyOne
  split
  · exact Or.inr rfl
  · exact Or.inl rfl
  · exact Or.inl rfl

theorem notifyOne_waiter {notify : Notify} (hnone : notify.waiter = none) :
    notify.notifyOne.waiter = none := by
  simp [notifyOne, hnone]

@[simp] theorem cancel_waiter (notify : Notify) :
    notify.cancel.waiter = none := by
  unfold cancel
  split
  · exact notifyOne_waiter rfl
  · rfl
  · rfl

/-- A dropped waiter loses no notification. -/
theorem pending_cancel {notify : Notify} (hpending : notify.Pending) :
    notify.cancel.Pending := by
  unfold cancel
  split
  · exact pending_notifyOne _
  · rename_i hwaiter
    exact Or.inl (hpending.resolve_right (by simp [hwaiter]))
  · rename_i hwaiter
    exact Or.inl (hpending.resolve_right (by simp [hwaiter]))

theorem poll_takes {notify : Notify} (hpoll : notify.poll.1 = true) :
    notify.poll.2.waiter = notify.waiter := by
  unfold poll at hpoll ⊢
  cases hpermit : notify.permit with
  | true => simp
  | false => simp [hpermit] at hpoll

theorem wake_waiter {notify next : Notify}
    (hwake : notify.wake = some next) : next.waiter = none := by
  unfold wake at hwake
  split at hwake
  · rw [Option.some.injEq] at hwake
    rw [← hwake]
  · cases hwake
  · cases hwake

/-- A poll registers only when nothing is pending for it. -/
theorem poll_registers {notify : Notify} (hpoll : notify.poll.1 = false) :
    notify.permit = false ∧
      notify.poll.2 = { notify with waiter := some false } := by
  unfold poll at hpoll ⊢
  cases hpermit : notify.permit with
  | true => simp [hpermit] at hpoll
  | false => simp

end Notify
