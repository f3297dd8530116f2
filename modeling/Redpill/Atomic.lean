/-
Atomic cells under relaxed ordering.  A cell keeps every value it has held, in
modification order.  A load, and an exchange that fails, may return any of
them, however old; an exchange that succeeds, like every other
read-modify-write, acts on the newest one.  The loop that lowers a cell to a
value by weak exchanges is verified here once, for any transitive relation.
-/
import Mathlib

namespace Atomic

universe u

variable {α : Type u}

/-- The newest value, and the ones it replaced, newest first. -/
structure Cell (α : Type u) where
  value : α
  older : List α
deriving Repr, DecidableEq

/-- How the memory resolves one operation of a thread: it writes, or it reads
the value that is `age` writes old. -/
inductive Choice where
  | write
  | read (age : Nat)
deriving Repr, DecidableEq

namespace Cell

def new (value : α) : Cell α := ⟨value, []⟩

def load (cell : Cell α) (age : Nat) : Option α :=
  (cell.value :: cell.older)[age]?

def store (cell : Cell α) (value : α) : Cell α :=
  ⟨value, cell.value :: cell.older⟩

/-- A value the cell holds or has held. -/
def Held (cell : Cell α) (value : α) : Prop :=
  value ∈ cell.value :: cell.older

theorem held_value (cell : Cell α) : cell.Held cell.value :=
  List.mem_cons_self

theorem held_of_load {cell : Cell α} {age : Nat} {value : α}
    (hload : cell.load age = some value) : cell.Held value :=
  List.mem_of_getElem? hload

theorem held_new {value seen : α} (hseen : (new value).Held seen) :
    seen = value :=
  List.mem_singleton.mp hseen

theorem held_store {cell : Cell α} {value seen : α} :
    (cell.store value).Held seen ↔ seen = value ∨ cell.Held seen :=
  List.mem_cons

/-- Every value of the cell has the property. -/
def All (property : α → Prop) (cell : Cell α) : Prop :=
  ∀ value, cell.Held value → property value

theorem All.new {property : α → Prop} {value : α} (hvalue : property value) :
    (new value).All property := by
  intro seen hseen
  rw [held_new hseen]
  exact hvalue

theorem All.store {property : α → Prop} {cell : Cell α}
    (hcell : cell.All property) {value : α} (hvalue : property value) :
    (cell.store value).All property := by
  intro seen hseen
  rcases held_store.mp hseen with rfl | hold
  · exact hvalue
  · exact hcell seen hold

theorem All.load {property : α → Prop} {cell : Cell α}
    (hcell : cell.All property) {age : Nat} {value : α}
    (hload : cell.load age = some value) : property value :=
  hcell value (held_of_load hload)

/-- `compare_exchange_weak`: it replaces the newest value if that is the
expected one, or fails, for whatever reason, and returns a value the cell has
held. -/
def exchangeWeak [DecidableEq α] (cell : Cell α) (expected new : α) :
    Choice → Option (Cell α × Option α)
  | .write =>
      if cell.value = expected then some (cell.store new, none) else none
  | .read age => (cell.load age).map fun seen => (cell, some seen)

/-- `compare_exchange`: it does not fail at the expected value. -/
def exchange [DecidableEq α] (cell : Cell α) (expected new : α)
    (choice : Choice) : Option (Cell α × Option α) :=
  (cell.exchangeWeak expected new choice).filter fun after =>
    decide (after.2 ≠ some expected)

theorem exchangeWeak_cases [DecidableEq α] {cell next : Cell α}
    {expected new : α} {choice : Choice} {failed : Option α}
    (h : cell.exchangeWeak expected new choice = some (next, failed)) :
    (cell.value = expected ∧ next = cell.store new ∧ failed = none) ∨
      (next = cell ∧ ∃ seen, cell.Held seen ∧ failed = some seen) := by
  cases choice with
  | write =>
      rw [exchangeWeak, Option.ite_none_right_eq_some, Option.some.injEq,
        Prod.mk.injEq] at h
      exact Or.inl ⟨h.1, h.2.1.symm, h.2.2.symm⟩
  | read age =>
      simp only [exchangeWeak, Option.map_eq_some_iff, Prod.mk.injEq] at h
      obtain ⟨seen, hload, rfl, rfl⟩ := h
      exact Or.inr ⟨rfl, seen, held_of_load hload, rfl⟩

theorem exchange_cases [DecidableEq α] {cell next : Cell α}
    {expected new : α} {choice : Choice} {failed : Option α}
    (h : cell.exchange expected new choice = some (next, failed)) :
    (cell.value = expected ∧ next = cell.store new ∧ failed = none) ∨
      (next = cell ∧ ∃ seen, cell.Held seen ∧ failed = some seen) :=
  exchangeWeak_cases (Option.eq_some_of_filter_eq_some h)

end Cell

/-- A thread that lowers a cell: about to load it, about to test the value it
saw, or finished. -/
inductive Lowering (α : Type u) where
  | loading
  | testing (seen : α)
  | finished
deriving Repr, DecidableEq

section Lowering

variable (before : α → α → Prop) [DecidableRel before] [DecidableEq α]

/-- The loop after an exchange: it is left when the exchange succeeded. -/
def Lowering.after : Option α → Lowering α
  | none => .finished
  | some seen => .testing seen

/-- `while target < seen`, exchange `seen` for `target`. -/
def Lowering.step (target : α) (cell : Cell α) :
    Lowering α → Choice → Option (Cell α × Lowering α)
  | .loading, .read age =>
      (cell.load age).map fun seen => (cell, .testing seen)
  | .testing seen, choice =>
      if before target seen then
        (cell.exchangeWeak seen target choice).map fun exchanged =>
          (exchanged.1, .after exchanged.2)
      else some (cell, .finished)
  | .loading, .write => none
  | .finished, _ => none

/-- What a step of the loop can do: keep the cell, or replace its newest value
by a target that comes before it. -/
theorem Lowering.step_cases {target : α} {cell next : Cell α}
    {thread after : Lowering α} {choice : Choice}
    (hstep : thread.step before target cell choice = some (next, after)) :
    (next = cell ∧ ∃ seen, cell.Held seen ∧ after = .testing seen) ∨
      (next = cell ∧ after = .finished ∧
        ∃ seen, thread = .testing seen ∧ ¬ before target seen) ∨
      (next = cell.store target ∧ after = .finished ∧
        before target cell.value) := by
  cases thread with
  | loading =>
      cases choice with
      | write => simp [step] at hstep
      | read age =>
          simp only [step, Option.map_eq_some_iff, Prod.mk.injEq] at hstep
          obtain ⟨seen, hload, rfl, rfl⟩ := hstep
          exact Or.inl ⟨rfl, seen, Cell.held_of_load hload, rfl⟩
  | testing seen =>
      by_cases hbefore : before target seen
      · simp only [step, hbefore, ↓reduceIte, Option.map_eq_some_iff,
          Prod.mk.injEq, Prod.exists] at hstep
        obtain ⟨_, failed, hexchange, rfl, rfl⟩ := hstep
        rcases Cell.exchangeWeak_cases hexchange with
          ⟨hvalue, rfl, rfl⟩ | ⟨rfl, other, hheld, rfl⟩
        · exact Or.inr (Or.inr ⟨rfl, rfl, hvalue ▸ hbefore⟩)
        · exact Or.inl ⟨rfl, other, hheld, rfl⟩
      · simp only [step, hbefore, ↓reduceIte, Option.some.injEq,
          Prod.mk.injEq] at hstep
        obtain ⟨rfl, rfl⟩ := hstep
        exact Or.inr (Or.inl ⟨rfl, rfl, seen, rfl, hbefore⟩)
  | finished => simp [step] at hstep

/-- Every write put its value before all the values it found. -/
def Cell.Descending (cell : Cell α) : Prop :=
  ∀ value ∈ cell.older, before cell.value value

/-- A thread between two steps only knows values the cell has held. -/
def Lowering.Knows (cell : Cell α) : Lowering α → Prop
  | .loading => True
  | .testing seen => cell.Held seen
  | .finished => True

/-- The part of the invariant that belongs to one thread: what it knows, and
that a finished one left nothing above its target. -/
def Lowering.Settled (target : α) (cell : Cell α) (thread : Lowering α) :
    Prop :=
  thread.Knows cell ∧ (thread = .finished → ¬ before target cell.value)

variable {before}

omit [DecidableRel before] [DecidableEq α] in
theorem Cell.descending_new (value : α) :
    Cell.Descending before (Cell.new value) := by
  intro seen hseen
  simp [Cell.new] at hseen

omit [DecidableRel before] [DecidableEq α] in
theorem Cell.Descending.store [IsTrans α before] {cell : Cell α}
    (hcell : Cell.Descending before cell) {target : α}
    (htarget : before target cell.value) :
    Cell.Descending before (cell.store target) := by
  intro seen hseen
  rcases List.mem_cons.mp hseen with rfl | hold
  · exact htarget
  · exact Trans.trans htarget (hcell seen hold)

omit [DecidableRel before] [DecidableEq α] in
/-- A loop that stops at an old value was right to stop. -/
theorem Cell.Descending.not_before [IsTrans α before] {cell : Cell α}
    (hcell : Cell.Descending before cell) {target seen : α}
    (hseen : cell.Held seen) (hnot : ¬ before target seen) :
    ¬ before target cell.value := by
  intro hbefore
  rcases List.mem_cons.mp hseen with rfl | hold
  · exact hnot hbefore
  · exact hnot (Trans.trans hbefore (hcell seen hold))

theorem Lowering.step_descending [IsTrans α before] {target : α}
    {cell next : Cell α} {thread after : Lowering α} {choice : Choice}
    (hcell : Cell.Descending before cell)
    (hstep : thread.step before target cell choice = some (next, after)) :
    Cell.Descending before next := by
  rcases step_cases before hstep with ⟨rfl, _⟩ | ⟨rfl, _⟩ | ⟨rfl, _, hbefore⟩
  · exact hcell
  · exact hcell
  · exact hcell.store hbefore

/-- The stepping thread stays settled. -/
theorem Lowering.Settled.step [IsTrans α before] [Std.Irrefl before]
    {target : α} {cell next : Cell α} {thread after : Lowering α}
    {choice : Choice} (hcell : Cell.Descending before cell)
    (hthread : thread.Settled before target cell)
    (hstep : thread.step before target cell choice = some (next, after)) :
    after.Settled before target next := by
  rcases step_cases before hstep with ⟨rfl, seen, hseen, rfl⟩ |
    ⟨rfl, rfl, seen, rfl, hnot⟩ | ⟨rfl, rfl, _⟩
  · exact ⟨hseen, fun hfinished => by cases hfinished⟩
  · exact ⟨trivial, fun _ => hcell.not_before hthread.1 hnot⟩
  · exact ⟨trivial, fun _ => irrefl target⟩

/-- A bound on the newest value is never undone. -/
theorem Lowering.step_bound [IsTrans α before] {target other : α}
    {cell next : Cell α} {moved after : Lowering α} {choice : Choice}
    (hbound : ¬ before target cell.value)
    (hstep : moved.step before other cell choice = some (next, after)) :
    ¬ before target next.value := by
  rcases step_cases before hstep with ⟨rfl, _⟩ | ⟨rfl, _⟩ | ⟨rfl, _, hbefore⟩
  · exact hbound
  · exact hbound
  · exact fun hlower => hbound (Trans.trans hlower hbefore)

/-- The newest value only ever becomes a target. -/
theorem Lowering.step_value {target : α} {cell next : Cell α}
    {moved after : Lowering α} {choice : Choice}
    (hstep : moved.step before target cell choice = some (next, after)) :
    next.value = cell.value ∨ next.value = target := by
  rcases step_cases before hstep with ⟨rfl, _⟩ | ⟨rfl, _⟩ | ⟨rfl, _⟩
  · exact Or.inl rfl
  · exact Or.inl rfl
  · exact Or.inr rfl

theorem Lowering.step_held {target : α} {cell next : Cell α}
    {moved after : Lowering α} {choice : Choice}
    (hstep : moved.step before target cell choice = some (next, after))
    {seen : α} (hseen : cell.Held seen) : next.Held seen := by
  rcases step_cases before hstep with ⟨rfl, _⟩ | ⟨rfl, _⟩ | ⟨rfl, _⟩
  · exact hseen
  · exact hseen
  · exact Cell.held_store.mpr (Or.inr hseen)

/-- The other threads stay settled too. -/
theorem Lowering.Settled.other [IsTrans α before] {target other : α}
    {cell next : Cell α} {thread moved after : Lowering α} {choice : Choice}
    (hthread : thread.Settled before target cell)
    (hstep : moved.step before other cell choice = some (next, after)) :
    thread.Settled before target next := by
  refine ⟨?_, fun hfinished => step_bound (hthread.2 hfinished) hstep⟩
  cases thread with
  | loading => trivial
  | testing seen => exact step_held hstep hthread.1
  | finished => trivial

end Lowering

end Atomic
