/-
Runs of a partial machine.  A machine is given by its step function alone: a
schedule is a list of labels, and a run is blocked as soon as one of its steps
is.  Every invariant of a whole run is derived here from what one step keeps,
either for all schedules or for the schedules whose steps meet a condition.
-/
import Mathlib

namespace Machine

universe u v

variable {S : Type u} {L : Type v}

/-- Execute a schedule from a state. -/
def run (step : S → L → Option S) : S → List L → Option S
  | state, [] => some state
  | state, label :: rest =>
      match step state label with
      | some next => run step next rest
      | none => none

/-- Every step of the run is taken from a state, and with a label, that the
condition accepts.  What follows a blocked step is not part of the run. -/
def Meets (step : S → L → Option S) (condition : S → L → Prop) :
    S → List L → Prop
  | _, [] => True
  | state, label :: rest =>
      condition state label ∧
        match step state label with
        | some next => Meets step condition next rest
        | none => True

instance decidableMeets (step : S → L → Option S) (condition : S → L → Prop)
    [∀ state label, Decidable (condition state label)] :
    ∀ (state : S) (schedule : List L),
      Decidable (Meets step condition state schedule)
  | _, [] => isTrue trivial
  | state, label :: rest =>
      match hnext : step state label with
      | some next =>
          haveI := decidableMeets step condition next rest
          decidable_of_iff
            (condition state label ∧ Meets step condition next rest)
            (by simp [Meets, hnext])
      | none => decidable_of_iff (condition state label)
          (by simp [Meets, hnext])

/-- A state that some schedule produces. -/
def Reachable (step : S → L → Option S) (start state : S) : Prop :=
  ∃ schedule : List L, run step start schedule = some state

@[simp] theorem run_nil (step : S → L → Option S) (state : S) :
    run step state [] = some state :=
  rfl

theorem run_cons (step : S → L → Option S) (state : S) (label : L)
    (rest : List L) :
    run step state (label :: rest) =
      (step state label).bind fun next => run step next rest := by
  rw [run]
  cases step state label <;> rfl

theorem run_cons_eq_some (step : S → L → Option S) {state final : S}
    {label : L} {rest : List L} :
    run step state (label :: rest) = some final ↔
      ∃ next, step state label = some next ∧ run step next rest = some final := by
  rw [run_cons, Option.bind_eq_some_iff]

theorem run_append (step : S → L → Option S) (state : S)
    (first second : List L) :
    run step state (first ++ second) =
      (run step state first).bind fun next => run step next second := by
  induction first generalizing state with
  | nil => rfl
  | cons label rest ih =>
      simp only [List.cons_append, run_cons]
      cases step state label with
      | none => rfl
      | some next => exact ih next

theorem Reachable.refl (step : S → L → Option S) (start : S) :
    Reachable step start start :=
  ⟨[], rfl⟩

theorem Reachable.step {step : S → L → Option S} {start state next : S}
    {label : L} (hstate : Reachable step start state)
    (hnext : step state label = some next) : Reachable step start next := by
  obtain ⟨schedule, hrun⟩ := hstate
  refine ⟨schedule ++ [label], ?_⟩
  rw [run_append, hrun]
  simp [run_cons, hnext]

theorem Reachable.trans {step : S → L → Option S} {start middle final : S}
    (hmiddle : Reachable step start middle)
    (hfinal : Reachable step middle final) : Reachable step start final := by
  obtain ⟨first, hfirst⟩ := hmiddle
  obtain ⟨second, hsecond⟩ := hfinal
  refine ⟨first ++ second, ?_⟩
  rw [run_append, hfirst]
  exact hsecond

/-- The invariant rule under a condition: what every accepted step keeps, an
accepted run keeps. -/
theorem run_invariant_of_meets {step : S → L → Option S}
    {condition : S → L → Prop} {Inv : S → Prop}
    (hstep : ∀ state label next, Inv state → condition state label →
      step state label = some next → Inv next)
    {start final : S} {schedule : List L} (hstart : Inv start)
    (hmeets : Meets step condition start schedule)
    (hrun : run step start schedule = some final) : Inv final := by
  induction schedule generalizing start with
  | nil =>
      rw [run_nil, Option.some.injEq] at hrun
      exact hrun ▸ hstart
  | cons label rest ih =>
      obtain ⟨next, hnext, htail⟩ := (run_cons_eq_some step).mp hrun
      rw [Meets, hnext] at hmeets
      exact ih (hstep start label next hstart hmeets.1 hnext) hmeets.2 htail

/-- What the steps of a run put out, in order. -/
def collect {O : Type*} (step : S → L → Option S) (out : S → L → List O) :
    S → List L → List O
  | _, [] => []
  | state, label :: rest =>
      out state label ++
        match step state label with
        | some next => collect step out next rest
        | none => []

/-- The invariant rule for a state and what was put out on the way to it. -/
theorem collect_invariant {O : Type*} {step : S → L → Option S}
    {condition : S → L → Prop} {out : S → L → List O}
    (Inv : S → List O → Prop)
    (hstep : ∀ state label next outs, Inv state outs → condition state label →
      step state label = some next → Inv next (outs ++ out state label))
    {start final : S} {schedule : List L} {outs : List O}
    (hstart : Inv start outs) (hmeets : Meets step condition start schedule)
    (hrun : run step start schedule = some final) :
    Inv final (outs ++ collect step out start schedule) := by
  induction schedule generalizing start outs with
  | nil =>
      rw [run_nil, Option.some.injEq] at hrun
      rw [collect, List.append_nil, ← hrun]
      exact hstart
  | cons label rest ih =>
      obtain ⟨next, hnext, htail⟩ := (run_cons_eq_some step).mp hrun
      rw [Meets, hnext] at hmeets
      have hinv := hstep start label next outs hstart hmeets.1 hnext
      rw [collect, hnext, ← List.append_assoc]
      exact ih hinv hmeets.2 htail

theorem collect_sublist {O : Type*} {step : S → L → Option S}
    {first second : S → L → List O}
    (hsub : ∀ state label, (first state label).Sublist (second state label))
    (start : S) (schedule : List L) :
    (collect step first start schedule).Sublist
      (collect step second start schedule) := by
  induction schedule generalizing start with
  | nil => exact List.Sublist.refl _
  | cons label rest ih =>
      rw [collect, collect]
      apply (hsub start label).append
      cases step start label with
      | none => exact List.Sublist.refl _
      | some next => exact ih next

/-- Where one output is always a part of the other, a run puts out the same
exactly if each of its steps does. -/
theorem collect_eq_iff_meets {O : Type*} {step : S → L → Option S}
    {first second : S → L → List O}
    (hsub : ∀ state label, (first state label).Sublist (second state label))
    {start final : S} {schedule : List L}
    (hrun : run step start schedule = some final) :
    collect step first start schedule = collect step second start schedule ↔
      Meets step (fun state label => first state label = second state label)
        start schedule := by
  induction schedule generalizing start with
  | nil => exact ⟨fun _ => trivial, fun _ => rfl⟩
  | cons label rest ih =>
      obtain ⟨next, hnext, htail⟩ := (run_cons_eq_some step).mp hrun
      simp only [collect, Meets, hnext, ← ih htail]
      constructor
      · intro hsame
        have htail' : (collect step first next rest).Sublist
            (collect step second next rest) := collect_sublist hsub next rest
        have hhead := (hsub start label).length_le
        have hrest := htail'.length_le
        have hlength := congrArg List.length hsame
        simp only [List.length_append] at hlength
        exact ⟨(hsub start label).eq_of_length (by omega),
          htail'.eq_of_length (by omega)⟩
      · intro ⟨hhead, hrest⟩
        rw [hhead, hrest]

/-- A property holds in every state of the run, the first one included. -/
def Always (step : S → L → Option S) (property : S → Prop) :
    S → List L → Prop
  | state, [] => property state
  | state, label :: rest =>
      property state ∧
        match step state label with
        | some next => Always step property next rest
        | none => True

theorem Always.head {step : S → L → Option S} {property : S → Prop}
    {state : S} {schedule : List L}
    (h : Always step property state schedule) : property state := by
  cases schedule with
  | nil => exact h
  | cons label rest => exact h.1

/-- What every accepted step keeps holds in every state of an accepted run. -/
theorem always_of_meets {step : S → L → Option S}
    {condition : S → L → Prop} {Inv property : S → Prop}
    (hstep : ∀ state label next, Inv state → condition state label →
      step state label = some next → Inv next)
    (hproperty : ∀ state, Inv state → property state)
    {start : S} {schedule : List L} (hstart : Inv start)
    (hmeets : Meets step condition start schedule) :
    Always step property start schedule := by
  induction schedule generalizing start with
  | nil => exact hproperty start hstart
  | cons label rest ih =>
      refine ⟨hproperty start hstart, ?_⟩
      cases hnext : step start label with
      | none => trivial
      | some next =>
          rw [Meets, hnext] at hmeets
          exact ih (hstep start label next hstart hmeets.1 hnext) hmeets.2

theorem meets_of_forall {step : S → L → Option S} {condition : S → L → Prop}
    (hall : ∀ state label, condition state label) (start : S)
    (schedule : List L) : Meets step condition start schedule := by
  induction schedule generalizing start with
  | nil => trivial
  | cons label rest ih =>
      refine ⟨hall start label, ?_⟩
      cases step start label with
      | none => trivial
      | some next => exact ih next

/-- The exactness rule for runs whose steps are allowed: if the property
survives an allowed step exactly when the step is accepted, it holds along the
run exactly when the whole run is accepted. -/
theorem always_iff_meets_of_meets {step : S → L → Option S}
    {allowed condition : S → L → Prop} {property : S → Prop} (Inv : S → Prop)
    (hinv : ∀ state label next, Inv state → allowed state label →
      step state label = some next → Inv next)
    (hexact : ∀ state label next, Inv state → property state →
      allowed state label → step state label = some next →
        (property next ↔ condition state label))
    {start final : S} {schedule : List L} (hstart : Inv start)
    (hproperty : property start) (hallowed : Meets step allowed start schedule)
    (hrun : run step start schedule = some final) :
    Always step property start schedule ↔
      Meets step condition start schedule := by
  induction schedule generalizing start with
  | nil => exact ⟨fun _ => trivial, fun _ => hproperty⟩
  | cons label rest ih =>
      obtain ⟨next, hnext, htail⟩ := (run_cons_eq_some step).mp hrun
      rw [Meets, hnext] at hallowed
      have hiff := hexact start label next hstart hproperty hallowed.1 hnext
      have hnextInv := hinv start label next hstart hallowed.1 hnext
      rw [Always, Meets, hnext]
      constructor
      · intro ⟨_, halways⟩
        have hproperty' := halways.head
        exact ⟨hiff.mp hproperty',
          (ih hnextInv hproperty' hallowed.2 htail).mp halways⟩
      · intro ⟨hcondition, hmeets⟩
        have hproperty' := hiff.mpr hcondition
        exact ⟨hproperty, (ih hnextInv hproperty' hallowed.2 htail).mpr hmeets⟩

/-- The exactness rule for all runs. -/
theorem always_iff_meets {step : S → L → Option S}
    {condition : S → L → Prop} {property : S → Prop} (Inv : S → Prop)
    (hinv : ∀ state label next, Inv state →
      step state label = some next → Inv next)
    (hexact : ∀ state label next, Inv state → property state →
      step state label = some next → (property next ↔ condition state label))
    {start final : S} {schedule : List L} (hstart : Inv start)
    (hproperty : property start)
    (hrun : run step start schedule = some final) :
    Always step property start schedule ↔
      Meets step condition start schedule := by
  have hall : Meets step (fun _ _ => True) start schedule :=
    meets_of_forall (fun _ _ => trivial) start schedule
  exact always_iff_meets_of_meets Inv
    (fun state label next hstate _ hstep => hinv state label next hstate hstep)
    (fun state label next hstate hproperty _ hstep =>
      hexact state label next hstate hproperty hstep)
    hstart hproperty hall hrun

/-- Two conditions that agree at every step of the run accept it together. -/
theorem meets_congr {step : S → L → Option S}
    {first second : S → L → Prop} (Inv : S → Prop)
    (hinv : ∀ state label next, Inv state →
      step state label = some next → Inv next)
    (hiff : ∀ state label, Inv state →
      (first state label ↔ second state label))
    {start : S} {schedule : List L} (hstart : Inv start) :
    Meets step first start schedule ↔ Meets step second start schedule := by
  induction schedule generalizing start with
  | nil => exact Iff.rfl
  | cons label rest ih =>
      rw [Meets, Meets, hiff start label hstart]
      cases hnext : step start label with
      | none => exact Iff.rfl
      | some next =>
          have hnextInv := hinv start label next hstart hnext
          exact and_congr_right fun _ => ih hnextInv

/-- A condition on the labels of a schedule is one on the steps of its run. -/
theorem Meets.and_labels {step : S → L → Option S}
    {condition : S → L → Prop} {allowed : L → Prop} {start : S}
    {schedule : List L} (hmeets : Meets step condition start schedule)
    (hallowed : ∀ label ∈ schedule, allowed label) :
    Meets step (fun state label => condition state label ∧ allowed label)
      start schedule := by
  induction schedule generalizing start with
  | nil => trivial
  | cons label rest ih =>
      obtain ⟨hcondition, hrest⟩ := hmeets
      refine ⟨⟨hcondition, hallowed label List.mem_cons_self⟩, ?_⟩
      cases hnext : step start label with
      | none => trivial
      | some next =>
          rw [hnext] at hrest
          apply ih hrest
          intro other hother
          exact hallowed other (List.mem_cons_of_mem label hother)

theorem Meets.and {step : S → L → Option S} {first second : S → L → Prop}
    {start : S} {schedule : List L} (hfirst : Meets step first start schedule)
    (hsecond : Meets step second start schedule) :
    Meets step (fun state label => first state label ∧ second state label)
      start schedule := by
  induction schedule generalizing start with
  | nil => trivial
  | cons label rest ih =>
      refine ⟨⟨hfirst.1, hsecond.1⟩, ?_⟩
      rw [Meets] at hfirst hsecond
      cases hnext : step start label with
      | none => trivial
      | some next =>
          rw [hnext] at hfirst hsecond
          exact ih hfirst.2 hsecond.2

/-- A run that is not blocked meets a condition on its labels exactly when
every label does. -/
theorem meets_labels_iff {step : S → L → Option S} {allowed : L → Prop}
    {start final : S} {schedule : List L}
    (hrun : run step start schedule = some final) :
    Meets step (fun _ label => allowed label) start schedule ↔
      ∀ label ∈ schedule, allowed label := by
  induction schedule generalizing start with
  | nil => exact ⟨fun _ => List.forall_mem_nil _, fun _ => trivial⟩
  | cons label rest ih =>
      obtain ⟨next, hnext, htail⟩ := (run_cons_eq_some step).mp hrun
      rw [Meets, hnext, List.forall_mem_cons]
      exact and_congr_right fun _ => ih htail

/-- The separation rule: accepted steps keep `good`, every other step leads
from it to `bad`, and no step leaves `bad`.  Then a run from a good state ends
in one exactly when the whole run is accepted. -/
theorem good_iff_meets {step : S → L → Option S}
    {condition : S → L → Prop} {good bad : S → Prop}
    (hkeep : ∀ state label next, good state → condition state label →
      step state label = some next → good next)
    (hleave : ∀ state label next, good state → ¬ condition state label →
      step state label = some next → bad next)
    (hstay : ∀ state label next, bad state →
      step state label = some next → bad next)
    (hdisjoint : ∀ state, good state → ¬ bad state)
    {start final : S} {schedule : List L} (hstart : good start)
    (hrun : run step start schedule = some final) :
    good final ↔ Meets step condition start schedule := by
  induction schedule generalizing start with
  | nil =>
      rw [run_nil, Option.some.injEq] at hrun
      exact ⟨fun _ => trivial, fun _ => hrun ▸ hstart⟩
  | cons label rest ih =>
      obtain ⟨next, hnext, htail⟩ := (run_cons_eq_some step).mp hrun
      rw [Meets, hnext]
      by_cases hcondition : condition start label
      · rw [ih (hkeep start label next hstart hcondition hnext) htail]
        exact ⟨fun hmeets => ⟨hcondition, hmeets⟩, fun hmeets => hmeets.2⟩
      · constructor
        · intro hfinal
          have hbad : bad final :=
            run_invariant_of_meets
              (fun state label next hstate _ hstep =>
                hstay state label next hstate hstep)
              (hleave start label next hstart hcondition hnext)
              (meets_of_forall (fun _ _ => trivial) next rest) htail
          exact absurd hbad (hdisjoint final hfinal)
        · intro hmeets
          exact absurd hmeets.1 hcondition

/-- The invariant rule: what every step keeps holds in every reachable
state. -/
theorem Reachable.invariant {step : S → L → Option S} {Inv : S → Prop}
    (hstep : ∀ state label next, Inv state →
      step state label = some next → Inv next)
    {start state : S} (hstart : Inv start)
    (hstate : Reachable step start state) : Inv state := by
  obtain ⟨schedule, hrun⟩ := hstate
  have hmeets : Meets step (fun _ _ => True) start schedule :=
    meets_of_forall (fun _ _ => trivial) start schedule
  exact run_invariant_of_meets
    (fun state label next hinv _ hnext => hstep state label next hinv hnext)
    hstart hmeets hrun

/-- The refinement rule: if every step of the concrete machine is one of the
abstract machine under the projection, or invisible, then what is reachable
below is reachable above. -/
theorem Reachable.project {T : Type*} {K : Type*} {step : S → L → Option S}
    {abstract : T → K → Option T} (project : S → T)
    (hstep : ∀ state label next, step state label = some next →
      project next = project state ∨
        ∃ above, abstract (project state) above = some (project next))
    {start state : S} (hstate : Reachable step start state) :
    Reachable abstract (project start) (project state) := by
  obtain ⟨schedule, hrun⟩ := hstate
  induction schedule generalizing start with
  | nil =>
      rw [run_nil, Option.some.injEq] at hrun
      exact ⟨[], by rw [run_nil, hrun]⟩
  | cons label rest ih =>
      obtain ⟨next, hnext, htail⟩ := (run_cons_eq_some step).mp hrun
      obtain ⟨above, habove⟩ := ih htail
      rcases hstep start label next hnext with hsame | ⟨first, hfirst⟩
      · exact ⟨above, by rw [← hsame, habove]⟩
      · exact ⟨first :: above, (run_cons_eq_some abstract).mpr
          ⟨project next, hfirst, habove⟩⟩

/-- The progress rule: if from every good state that is not done some allowed
step leads to a good state of lower rank, then allowed steps lead to a good
state that is done. -/
theorem exists_run_of_rank {step : S → L → Option S} {Good done : S → Prop}
    {allowed : L → Prop} (rank : S → Nat)
    (hnext : ∀ state, Good state → ¬ done state → ∃ label next,
      allowed label ∧ step state label = some next ∧ Good next ∧
        rank next < rank state)
    {start : S} (hstart : Good start) :
    ∃ schedule final, (∀ label ∈ schedule, allowed label) ∧
      run step start schedule = some final ∧ Good final ∧ done final := by
  induction hrank : rank start using Nat.strongRecOn generalizing start with
  | ind bound ih =>
      by_cases hdone : done start
      · exact ⟨[], start, List.forall_mem_nil _, rfl, hstart, hdone⟩
      · obtain ⟨label, next, hlabel, hstep, hgood, hless⟩ :=
          hnext start hstart hdone
        obtain ⟨rest, final, hrest, hrun, hfinal⟩ :=
          ih (rank next) (hrank ▸ hless) hgood rfl
        exact ⟨label :: rest, final, List.forall_mem_cons.mpr ⟨hlabel, hrest⟩,
          (run_cons_eq_some step).mpr ⟨next, hstep, hrun⟩, hfinal⟩

end Machine
