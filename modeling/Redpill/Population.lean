/-
Processes over a shared store.  Two laws of accounting for a population of any
size: a shared counter that every local step moves together with the weight of
the stepping process is the sum of the weights, and a shared set of resources
that processes take and give back one at a time is exactly what they hold, with
no resource held twice.
-/
import Mathlib

namespace Population

universe u v

variable {P : Type u} {R : Type v}

/-- The total weight of a population. -/
def total (weight : P → ℤ) (procs : List P) : ℤ :=
  (procs.map weight).sum

@[simp] theorem total_nil (weight : P → ℤ) : total weight [] = 0 :=
  rfl

@[simp] theorem total_append_singleton (weight : P → ℤ) (procs : List P)
    (proc : P) :
    total weight (procs ++ [proc]) = total weight procs + weight proc := by
  simp [total]

/-- Replacing one process moves the total by the difference of the two
weights. -/
theorem total_set (weight : P → ℤ) {procs : List P} {index : Nat} {old : P}
    (hold : procs[index]? = some old) (new : P) :
    total weight (procs.set index new) =
      total weight procs + (weight new - weight old) := by
  induction procs generalizing index with
  | nil => simp at hold
  | cons head tail ih =>
      cases index with
      | zero =>
          simp only [List.getElem?_cons_zero, Option.some.injEq] at hold
          subst hold
          simp only [total, List.set_cons_zero, List.map_cons, List.sum_cons]
          ring
      | succ index =>
          rw [List.getElem?_cons_succ] at hold
          have htail := ih hold
          simp only [total, List.set_cons_succ, List.map_cons,
            List.sum_cons] at htail ⊢
          rw [htail]
          ring

theorem total_nonneg (weight : P → ℤ) (hweight : ∀ proc, 0 ≤ weight proc)
    (procs : List P) : 0 ≤ total weight procs := by
  induction procs with
  | nil => simp
  | cons head tail ih =>
      have hhead := hweight head
      simp only [total, List.map_cons, List.sum_cons] at ih ⊢
      omega

theorem total_eq_zero (weight : P → ℤ) {procs : List P}
    (hzero : ∀ proc ∈ procs, weight proc = 0) : total weight procs = 0 := by
  induction procs with
  | nil => rfl
  | cons head tail ih =>
      have htail := ih fun proc hproc =>
        hzero proc (List.mem_cons_of_mem head hproc)
      have hhead := hzero head List.mem_cons_self
      simp only [total, List.map_cons, List.sum_cons] at htail ⊢
      omega

/-- `owned` is exactly the set of resources held by the population, and no
resource is held by two processes. -/
structure Owned (holds : P → Option R) (owned : Finset R) (procs : List P) :
    Prop where
  mem_iff : ∀ r, r ∈ owned ↔
    ∃ (index : Nat) (proc : P), procs[index]? = some proc ∧ holds proc = some r
  distinct : ∀ {i j : Nat} {p q : P} {r : R}, procs[i]? = some p →
    procs[j]? = some q → holds p = some r → holds q = some r → i = j

variable {holds : P → Option R} {owned : Finset R} {procs : List P}

theorem Owned.nil (holds : P → Option R) : Owned holds ∅ [] where
  mem_iff r := by simp
  distinct hp := by simp at hp

/-- A process that arrives empty-handed changes nothing. -/
theorem Owned.append (h : Owned holds owned procs) {proc : P}
    (hproc : holds proc = none) : Owned holds owned (procs ++ [proc]) where
  mem_iff r := by
    rw [h.mem_iff r]
    constructor
    · rintro ⟨index, holder, hindex, hholds⟩
      refine ⟨index, holder, ?_, hholds⟩
      obtain ⟨hlt, _⟩ := List.getElem?_eq_some_iff.mp hindex
      rw [List.getElem?_append_left hlt, hindex]
    · rintro ⟨index, holder, hindex, hholds⟩
      rcases List.mem_append.mp (List.mem_of_getElem? hindex) with hold | hnew
      · obtain ⟨old, hold⟩ := List.mem_iff_getElem?.mp hold
        exact ⟨old, holder, hold, hholds⟩
      · rw [List.mem_singleton.mp hnew, hproc] at hholds
        cases hholds
  distinct {i j p q r} hp hq hholdsp hholdsq := by
    have hold : ∀ {k : Nat} {s : P}, (procs ++ [proc])[k]? = some s →
        holds s = some r → procs[k]? = some s := by
      intro k s hs hholds
      by_cases hlt : k < procs.length
      · rwa [List.getElem?_append_left hlt] at hs
      · rw [List.getElem?_append_right (Nat.le_of_not_lt hlt)] at hs
        have hmem := List.mem_of_getElem? hs
        rw [List.mem_singleton.mp hmem, hproc] at hholds
        cases hholds
    exact h.distinct (hold hp hholdsp) (hold hq hholdsq) hholdsp hholdsq

variable {index : Nat} {old new : P}

/-- The process found at an index after one process was replaced. -/
theorem getElem?_set_cases (hold : procs[index]? = some old) {j : Nat} {q : P}
    (hq : (procs.set index new)[j]? = some q) :
    (j = index ∧ q = new) ∨ (j ≠ index ∧ procs[j]? = some q) := by
  obtain ⟨hlt, _⟩ := List.getElem?_eq_some_iff.mp hold
  by_cases heq : j = index
  · subst heq
    rw [List.getElem?_set_self hlt, Option.some.injEq] at hq
    exact Or.inl ⟨rfl, hq.symm⟩
  · rw [List.getElem?_set_ne (Ne.symm heq)] at hq
    exact Or.inr ⟨heq, hq⟩

theorem getElem?_set_of_ne {j : Nat} {q : P} (hne : j ≠ index)
    (hq : procs[j]? = some q) : (procs.set index new)[j]? = some q := by
  rw [List.getElem?_set_ne (Ne.symm hne), hq]

theorem getElem?_set_new (hold : procs[index]? = some old) :
    (procs.set index new)[index]? = some new := by
  obtain ⟨hlt, _⟩ := List.getElem?_eq_some_iff.mp hold
  exact List.getElem?_set_self hlt

/-- A step that neither takes nor gives back. -/
theorem Owned.keep (h : Owned holds owned procs)
    (hold : procs[index]? = some old) (hsame : holds new = holds old) :
    Owned holds owned (procs.set index new) where
  mem_iff r := by
    rw [h.mem_iff r]
    constructor
    · rintro ⟨j, q, hq, hholds⟩
      by_cases heq : j = index
      · subst heq
        rw [hold, Option.some.injEq] at hq
        subst hq
        exact ⟨j, new, getElem?_set_new hold, hsame.trans hholds⟩
      · exact ⟨j, q, getElem?_set_of_ne heq hq, hholds⟩
    · rintro ⟨j, q, hq, hholds⟩
      rcases getElem?_set_cases hold hq with ⟨rfl, rfl⟩ | ⟨_, hq⟩
      · exact ⟨j, old, hold, hsame.symm.trans hholds⟩
      · exact ⟨j, q, hq, hholds⟩
  distinct {i j p q r} hp hq hholdsp hholdsq := by
    have hback : ∀ {k : Nat} {s : P}, (procs.set index new)[k]? = some s →
        holds s = some r → ∃ t, procs[k]? = some t ∧ holds t = some r := by
      intro k s hs hholds
      rcases getElem?_set_cases hold hs with ⟨rfl, rfl⟩ | ⟨_, hs⟩
      · exact ⟨old, hold, hsame.symm.trans hholds⟩
      · exact ⟨s, hs, hholds⟩
    obtain ⟨p', hp', hholdsp'⟩ := hback hp hholdsp
    obtain ⟨q', hq', hholdsq'⟩ := hback hq hholdsq
    exact h.distinct hp' hq' hholdsp' hholdsq'

/-- Replacing one process exchanges its part of what the population carries. -/
theorem flatMap_set_perm {Q : Type v} (carries : P → List Q)
    (hold : procs[index]? = some old) (new : P) :
    ∃ rest, (procs.flatMap carries).Perm (carries old ++ rest) ∧
      ((procs.set index new).flatMap carries).Perm (carries new ++ rest) := by
  induction procs generalizing index with
  | nil => simp at hold
  | cons head tail ih =>
      cases index with
      | zero =>
          simp only [List.getElem?_cons_zero, Option.some.injEq] at hold
          subst hold
          exact ⟨tail.flatMap carries, List.Perm.refl _, List.Perm.refl _⟩
      | succ index =>
          rw [List.getElem?_cons_succ] at hold
          obtain ⟨rest, hbefore, hafter⟩ := ih hold
          refine ⟨carries head ++ rest, ?_, ?_⟩
          · rw [List.flatMap_cons, ← List.append_assoc]
            exact (hbefore.append_left _).trans (by
              rw [← List.append_assoc]
              exact List.perm_append_comm.append_right rest)
          · rw [List.set_cons_succ, List.flatMap_cons, ← List.append_assoc]
            exact (hafter.append_left _).trans (by
              rw [← List.append_assoc]
              exact List.perm_append_comm.append_right rest)

variable [DecidableEq R] {r : R}

/-- A process without a resource takes one that nobody holds. -/
theorem Owned.acquire (h : Owned holds owned procs)
    (hold : procs[index]? = some old) (hfree : holds old = none)
    (hfresh : r ∉ owned) (hnew : holds new = some r) :
    Owned holds (insert r owned) (procs.set index new) where
  mem_iff r' := by
    rw [Finset.mem_insert, h.mem_iff r']
    constructor
    · rintro (rfl | ⟨j, q, hq, hholds⟩)
      · exact ⟨index, new, getElem?_set_new hold, hnew⟩
      · have hne : j ≠ index := by
          rintro rfl
          rw [hold, Option.some.injEq] at hq
          rw [← hq, hfree] at hholds
          cases hholds
        exact ⟨j, q, getElem?_set_of_ne hne hq, hholds⟩
    · rintro ⟨j, q, hq, hholds⟩
      rcases getElem?_set_cases hold hq with ⟨rfl, rfl⟩ | ⟨_, hq⟩
      · rw [hnew, Option.some.injEq] at hholds
        exact Or.inl hholds.symm
      · exact Or.inr ⟨j, q, hq, hholds⟩
  distinct {i j p q r'} hp hq hholdsp hholdsq := by
    have hnot : ∀ {k : Nat} {s : P}, procs[k]? = some s →
        holds s ≠ some r := fun hs hholds =>
      hfresh ((h.mem_iff r).mpr ⟨_, _, hs, hholds⟩)
    rcases getElem?_set_cases hold hp with ⟨rfl, rfl⟩ | ⟨_, hp'⟩ <;>
      rcases getElem?_set_cases hold hq with ⟨rfl, rfl⟩ | ⟨_, hq'⟩
    · rfl
    · rw [hnew] at hholdsp
      exact absurd (hholdsq.trans hholdsp.symm) (hnot hq')
    · rw [hnew] at hholdsq
      exact absurd (hholdsp.trans hholdsq.symm) (hnot hp')
    · exact h.distinct hp' hq' hholdsp hholdsq

/-- A process gives back the resource it holds. -/
theorem Owned.release (h : Owned holds owned procs)
    (hold : procs[index]? = some old) (hheld : holds old = some r)
    (hnew : holds new = none) :
    Owned holds (owned.erase r) (procs.set index new) where
  mem_iff r' := by
    rw [Finset.mem_erase, h.mem_iff r']
    constructor
    · rintro ⟨hne, j, q, hq, hholds⟩
      have hindex : j ≠ index := by
        rintro rfl
        rw [hold, Option.some.injEq] at hq
        rw [← hq, hheld, Option.some.injEq] at hholds
        exact hne hholds.symm
      exact ⟨j, q, getElem?_set_of_ne hindex hq, hholds⟩
    · rintro ⟨j, q, hq, hholds⟩
      rcases getElem?_set_cases hold hq with ⟨rfl, rfl⟩ | ⟨hindex, hq⟩
      · rw [hnew] at hholds
        cases hholds
      · refine ⟨?_, j, q, hq, hholds⟩
        rintro rfl
        exact hindex (h.distinct hq hold hholds hheld)
  distinct {i j p q r'} hp hq hholdsp hholdsq := by
    rcases getElem?_set_cases hold hp with ⟨rfl, rfl⟩ | ⟨_, hp⟩
    · rw [hnew] at hholdsp
      cases hholdsp
    · rcases getElem?_set_cases hold hq with ⟨rfl, rfl⟩ | ⟨_, hq⟩
      · rw [hnew] at hholdsq
        cases hholdsq
      · exact h.distinct hp hq hholdsp hholdsq

end Population
