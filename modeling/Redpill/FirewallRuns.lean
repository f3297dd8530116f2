/-
Whole runs of a program with scripts: starts, crashes between any two commands,
stops, and edits of others in between.  In a run the rules of others are as the
others make them, the program's own do not pile up, and they are the intended
ones whenever a script has come to its end.
-/
import Redpill.FirewallScripts

namespace Redpill

namespace RuleScripts

variable {C X : Type} {scripts : RuleScripts C X} {rules : RuleChain}

section Runs

variable [DecidableEq C]

/-- What a script has to be like.  `limit` bounds the number of the program's
rules in a chain. -/
structure Lawful (scripts : RuleScripts C X) (limit : C → Nat) : Prop where
  safe : ∀ setting, ∀ command ∈ scripts.setup setting ++
    scripts.cleanup setting, ∀ rules, scripts.managed command.chain ∧
      scripts.Safe rules command
  bounded : ∀ setting left chain body, .deleteUpTo left chain body ∈
    scripts.setup setting ++ scripts.cleanup setting → limit chain ≤ left
  small : ∀ setting chain, (scripts.target setting chain).length ≤ limit chain
  setup_eq : ∀ setting chain, scripts.managed chain → ∃ cleaning,
    (scripts.setup setting).filter (fun command => command.chain = chain) =
      cleaning ++ (scripts.target setting chain).map (.append chain) ∧
    (∀ command ∈ cleaning,
      Removes (scripts.target setting chain) command) ∧
    ∀ rule, scripts.own chain rule →
      ∃ command ∈ cleaning, scripts.Dooms rule command
  cleanup_eq : ∀ setting chain, scripts.managed chain →
    (∀ command ∈ (scripts.cleanup setting).filter
      (fun command => command.chain = chain), Removes [] command) ∧
    ∀ rule, scripts.own chain rule → ∃ command ∈
      (scripts.cleanup setting).filter (fun command => command.chain = chain),
      scripts.Dooms rule command

/-- What the program is working towards. -/
def goal (scripts : RuleScripts C X) (host : ScriptHost C X) (chain : C) :
    Option (List (List Clause)) :=
  match host.phase with
  | .down => none
  | .starting | .serving => some (scripts.target host.setting chain)
  | .stopping | .stopped => some []

structure Inv (scripts : RuleScripts C X) (limit : C → Nat)
    (host : ScriptHost C X) : Prop where
  safe : ∀ command ∈ host.plan, scripts.managed command.chain ∧
    scripts.Safe (host.chains command.chain) command
  small : ∀ chain, (scripts.ownRules chain (host.chains chain)).length ≤
    limit chain
  waiting : host.phase ≠ .starting → host.phase ≠ .stopping → host.plan = []
  progress : ∀ chain, scripts.managed chain → ∀ target,
    scripts.goal host chain = some target →
      scripts.Progress target chain host.plan (host.chains chain)

variable {limit : C → Nat} {host next : ScriptHost C X}

/-- The commands of a script before the first of them has run. -/
theorem progress_script {target : List (List Clause)} {chain : C}
    {plan cleaning : List (FirewallCommand C)}
    (hplan : plan.filter (fun command => command.chain = chain) =
      cleaning ++ target.map (.append chain))
    (hremoves : ∀ command ∈ cleaning, Removes target command)
    (hdoomed : ∀ rule, scripts.own chain rule →
      ∃ command ∈ cleaning, scripts.Dooms rule command)
    (hsafe : ∀ command ∈ plan, scripts.Safe rules command)
    (hbounded : ∀ left body, .deleteUpTo left chain body ∈ plan →
      (scripts.ownRules chain rules).length ≤ left) :
    scripts.Progress target chain plan rules := by
  refine ⟨cleaning, target, hplan, hremoves, ?_, ?_⟩
  · intro left body hmem
    have hcommand : .deleteUpTo left chain body ∈ plan :=
      List.mem_of_mem_filter (hplan ▸ List.mem_append_left _ hmem)
    rw [countP_ownRules fun rule hspec =>
      hsafe _ hcommand rule (of_decide_eq_true hspec)]
    exact List.countP_le_length.trans (hbounded left body hcommand)
  · have hnone : scripts.kept cleaning chain rules = [] := by
      rw [kept_eq, List.filter_eq_nil_iff]
      intro rule _
      simp only [decide_eq_true_eq, not_and, not_not]
      exact hdoomed rule
    rw [hnone]
    rfl

namespace Inv

theorem start (hlawful : scripts.Lawful limit) (h : scripts.Inv limit host)
    (setting : X) : scripts.Inv limit { host with
      phase := .starting
      setting := setting
      plan := scripts.setup setting } := by
  have hsafe : ∀ command ∈ scripts.setup setting, ∀ rules, _ :=
    fun command hcommand => hlawful.safe setting command
      (List.mem_append_left _ hcommand)
  refine ⟨fun command hcommand => hsafe command hcommand _, h.small,
    fun hstarting => absurd rfl hstarting, ?_⟩
  intro chain hmanaged target hgoal
  obtain rfl := Option.some.inj hgoal
  obtain ⟨cleaning, hplan, hremoves, hdoomed⟩ :=
    hlawful.setup_eq setting chain hmanaged
  refine progress_script hplan hremoves hdoomed
    (fun command hcommand => (hsafe command hcommand _).2) ?_
  intro left body hmem
  exact (h.small chain).trans (hlawful.bounded setting left chain body
    (List.mem_append_left _ hmem))

theorem signal (hlawful : scripts.Lawful limit) (h : scripts.Inv limit host) :
    scripts.Inv limit { host with
      phase := .stopping
      plan := scripts.cleanup host.setting } := by
  have hsafe : ∀ command ∈ scripts.cleanup host.setting, ∀ rules, _ :=
    fun command hcommand => hlawful.safe host.setting command
      (List.mem_append_right _ hcommand)
  refine ⟨fun command hcommand => hsafe command hcommand _, h.small,
    fun _ hstopping => absurd rfl hstopping, ?_⟩
  intro chain hmanaged target hgoal
  obtain rfl := Option.some.inj hgoal
  obtain ⟨hremoves, hdoomed⟩ := hlawful.cleanup_eq host.setting chain hmanaged
  refine progress_script (List.append_nil _).symm hremoves hdoomed
    (fun command hcommand => (hsafe command hcommand _).2) ?_
  intro left body hmem
  exact (h.small chain).trans (hlawful.bounded host.setting left chain body
    (List.mem_append_right _ hmem))

theorem other {edit : RuleEdit C} (h : scripts.Inv limit host)
    (hforeign : scripts.Foreign edit) :
    scripts.Inv limit { host with
      chains := Function.update host.chains edit.chain
        (edit.effect (host.chains edit.chain)) } := by
  refine ⟨?_, ?_, h.waiting, ?_⟩
  · intro command hcommand
    obtain ⟨hmanaged, hsafe⟩ := h.safe command hcommand
    refine ⟨hmanaged, ?_⟩
    dsimp only
    by_cases hchain : command.chain = edit.chain
    · rw [hchain] at hsafe ⊢
      rw [Function.update_self]
      exact hsafe.later (later_edit edit _)
    · rw [Function.update_of_ne hchain]
      exact hsafe
  · intro chain
    dsimp only
    by_cases hchain : chain = edit.chain
    · subst hchain
      rw [Function.update_self, ownRules_edit hforeign]
      exact h.small _
    · rw [Function.update_of_ne hchain]
      exact h.small chain
  · intro chain hmanaged target hgoal
    have hprogress := h.progress chain hmanaged target hgoal
    dsimp only
    by_cases hchain : chain = edit.chain
    · subst hchain
      rw [Function.update_self]
      refine hprogress.of_edit hforeign ?_
      intro command hcommand hsame
      exact hsame ▸ (h.safe command hcommand).2
    · rw [Function.update_of_ne hchain]
      exact hprogress

theorem goal_of_busy (hlawful : scripts.Lawful limit)
    (hbusy : host.phase = .starting ∨ host.phase = .stopping) (chain : C) :
    ∃ target, scripts.goal host chain = some target ∧
      target.length ≤ limit chain := by
  rcases hbusy with hphase | hphase
  · exact ⟨_, by rw [goal, hphase], hlawful.small _ _⟩
  · exact ⟨[], by rw [goal, hphase], Nat.zero_le _⟩

/-- A command of the script. -/
theorem next_command {first : FirewallCommand C} {rest : List (FirewallCommand C)}
    (hlawful : scripts.Lawful limit) (h : scripts.Inv limit host)
    (hplan : host.plan = first :: rest) :
    scripts.Inv limit { host with
      chains := Function.update host.chains first.chain
        (first.effect scripts.found (host.chains first.chain)).1
      plan := (first.effect scripts.found (host.chains first.chain)).2 ++
        rest } := by
  obtain ⟨hmanaged, hsafe⟩ := h.safe first (hplan ▸ List.mem_cons_self)
  have hbusy : host.phase = .starting ∨ host.phase = .stopping := by
    by_contra hwaiting
    rw [not_or] at hwaiting
    rw [h.waiting hwaiting.1 hwaiting.2] at hplan
    cases hplan
  have hprogress : ∀ chain, scripts.managed chain → ∀ target,
      scripts.goal host chain = some target → scripts.Progress target chain
        ((first.effect scripts.found (host.chains first.chain)).2 ++ rest)
        (Function.update host.chains first.chain
          (first.effect scripts.found (host.chains first.chain)).1 chain) := by
    intro chain hchain target hgoal
    have hold := h.progress chain hchain target hgoal
    rw [hplan] at hold
    by_cases hsame : chain = first.chain
    · subst hsame
      rw [Function.update_self]
      exact hold.effect hsafe
    · rw [Function.update_of_ne hsame]
      exact hold.elsewhere (Ne.symm hsame) hsafe
  refine ⟨?_, ?_, ?_, hprogress⟩
  · intro next hnext
    dsimp only at hnext ⊢
    rcases List.mem_append.mp hnext with hfollow | hlater
    · obtain ⟨hchain, hnow⟩ := safe_followup hsafe hfollow
      rw [hchain, Function.update_self]
      exact ⟨hmanaged, hnow⟩
    · obtain ⟨hnextManaged, hnow⟩ := h.safe next
        (hplan ▸ List.mem_cons_of_mem _ hlater)
      refine ⟨hnextManaged, ?_⟩
      by_cases hchain : next.chain = first.chain
      · rw [hchain] at hnow ⊢
        rw [Function.update_self]
        exact hnow.later (later_effect hsafe)
      · rw [Function.update_of_ne hchain]
        exact hnow
  · intro chain
    dsimp only
    by_cases hsame : chain = first.chain
    · subst hsame
      rw [Function.update_self]
      rcases effect_cases hsafe with ⟨hsub, _⟩ | ⟨appended, body, rfl⟩
      · exact (scripts.length_ownRules_le hsub).trans (h.small _)
      · obtain ⟨target, hgoal, hlimit⟩ := goal_of_busy hlawful hbusy appended
        have hold := h.progress appended hmanaged target hgoal
        rw [hplan] at hold
        refine (Nat.le_of_eq ?_).trans (hold.length_lt.trans_le hlimit)
        exact scripts.length_ownRules_append (hsafe _)
    · rw [Function.update_of_ne hsame]
      exact h.small chain
  · intro hstarting hstopping
    exact (hbusy.elim hstarting hstopping).elim

/-- The end of a script. -/
theorem finished (h : scripts.Inv limit host) (hplan : host.plan = [])
    {phase : ScriptPhase}
    (hgoal : ∀ chain,
      scripts.goal { host with phase := phase, plan := [] } chain =
        scripts.goal host chain) :
    scripts.Inv limit { host with phase := phase, plan := [] } := by
  refine ⟨by simp, h.small, fun _ _ => rfl, ?_⟩
  intro chain hmanaged target htarget
  rw [hgoal chain] at htarget
  have hprogress := h.progress chain hmanaged target htarget
  rw [hplan] at hprogress
  exact hprogress

/-- Every step keeps the invariant, as long as others keep to their rules. -/
theorem step (hlawful : scripts.Lawful limit) (h : scripts.Inv limit host)
    {event : ScriptEvent C X}
    (hforeign : ∀ edit, event = .other edit → scripts.Foreign edit)
    (hstep : scripts.step host event = some next) :
    scripts.Inv limit next := by
  cases event with
  | start setting =>
      simp only [RuleScripts.step, Option.ite_none_right_eq_some,
        Option.some.injEq] at hstep
      obtain ⟨_, rfl⟩ := hstep
      exact h.start hlawful setting
  | command =>
      simp only [RuleScripts.step] at hstep
      cases hplan : host.plan with
      | cons first rest =>
          rw [hplan] at hstep
          obtain rfl := Option.some.inj hstep
          exact h.next_command hlawful hplan
      | nil =>
          rw [hplan] at hstep
          dsimp only at hstep
          split at hstep
          · rename_i hphase
            obtain rfl := Option.some.inj hstep
            refine h.finished hplan (fun chain => ?_)
            rw [goal, goal, hphase]
          · split at hstep
            · rename_i hphase
              obtain rfl := Option.some.inj hstep
              refine h.finished hplan (fun chain => ?_)
              rw [goal, goal, hphase]
            · cases hstep
  | signal =>
      simp only [RuleScripts.step, Option.ite_none_right_eq_some,
        Option.some.injEq] at hstep
      obtain ⟨_, rfl⟩ := hstep
      exact h.signal hlawful
  | crash =>
      simp only [RuleScripts.step, Option.ite_none_left_eq_some,
        Option.some.injEq] at hstep
      obtain ⟨_, rfl⟩ := hstep
      exact ⟨by simp, h.small, fun _ _ => rfl, fun _ _ _ hgoal => nomatch hgoal⟩
  | other edit =>
      obtain rfl := Option.some.inj hstep
      exact h.other (hforeign edit rfl)

end Inv

/-- What an event does to the rules of others in a chain. -/
def onOthers (chain : C) (bodies : List (List Clause)) :
    ScriptEvent C X → List (List Clause)
  | .other edit => if edit.chain = chain then edit.onBodies bodies else bodies
  | .start _ | .command | .signal | .crash => bodies

theorem foldl_onOthers_commands (chain : C) (count : Nat)
    (bodies : List (List Clause)) :
    (List.replicate count (ScriptEvent.command : ScriptEvent C X)).foldl
      (onOthers chain) bodies = bodies := by
  induction count with
  | zero => rfl
  | succ count ih =>
      rw [List.replicate_succ, List.foldl_cons]
      exact ih

/-- The rules of others are as the others make them. -/
theorem others_step (h : scripts.Inv limit host) {event : ScriptEvent C X}
    (hforeign : ∀ edit, event = .other edit → scripts.Foreign edit)
    (hstep : scripts.step host event = some next) (chain : C) :
    (scripts.others chain (next.chains chain)).map Rule.body =
      onOthers chain ((scripts.others chain (host.chains chain)).map Rule.body)
        event := by
  cases event with
  | start setting =>
      simp only [step, Option.ite_none_right_eq_some,
        Option.some.injEq] at hstep
      obtain ⟨_, rfl⟩ := hstep
      rfl
  | command =>
      simp only [step] at hstep
      cases hplan : host.plan with
      | cons first rest =>
          rw [hplan] at hstep
          obtain rfl := Option.some.inj hstep
          dsimp only [onOthers]
          by_cases hsame : chain = first.chain
          · subst hsame
            rw [Function.update_self, others_effect
              (h.safe first (hplan ▸ List.mem_cons_self)).2]
          · rw [Function.update_of_ne hsame]
      | nil =>
          rw [hplan] at hstep
          dsimp only at hstep
          split at hstep
          · obtain rfl := Option.some.inj hstep
            rfl
          · split at hstep
            · obtain rfl := Option.some.inj hstep
              rfl
            · cases hstep
  | signal =>
      simp only [step, Option.ite_none_right_eq_some,
        Option.some.injEq] at hstep
      obtain ⟨_, rfl⟩ := hstep
      rfl
  | crash =>
      simp only [step, Option.ite_none_left_eq_some,
        Option.some.injEq] at hstep
      obtain ⟨_, rfl⟩ := hstep
      rfl
  | other edit =>
      obtain rfl := Option.some.inj hstep
      dsimp only [onOthers]
      by_cases hsame : edit.chain = chain
      · subst hsame
        rw [Function.update_self, if_pos rfl, others_edit (hforeign edit rfl)]
      · rw [Function.update_of_ne (Ne.symm hsame), if_neg hsame]

theorem inv_of_run (hlawful : scripts.Lawful limit)
    (h : scripts.Inv limit host) {events : List (ScriptEvent C X)}
    (hforeign : ∀ edit, .other edit ∈ events → scripts.Foreign edit)
    (hrun : Machine.run scripts.step host events = some next) :
    scripts.Inv limit next ∧ ∀ chain,
      (scripts.others chain (next.chains chain)).map Rule.body =
        events.foldl (onOthers chain)
          ((scripts.others chain (host.chains chain)).map Rule.body) := by
  induction events generalizing host with
  | nil =>
      obtain rfl := Option.some.inj hrun
      exact ⟨h, fun _ => rfl⟩
  | cons event rest ih =>
      obtain ⟨middle, hstep, hrest⟩ :=
        (Machine.run_cons_eq_some scripts.step).mp hrun
      have hevent : ∀ edit, event = .other edit → scripts.Foreign edit := by
        rintro edit rfl
        exact hforeign edit List.mem_cons_self
      obtain ⟨hinv, hothers⟩ := ih (h.step hlawful hevent hstep)
        (fun edit hedit => hforeign edit (List.mem_cons_of_mem _ hedit)) hrest
      refine ⟨hinv, fun chain => ?_⟩
      rw [hothers chain, List.foldl_cons, others_step h hevent hstep chain]

/-- A script that nothing interrupts comes to its end. -/
def Completes (scripts : RuleScripts C X) (host next : ScriptHost C X) : Prop :=
  ∃ count, Machine.run scripts.step host (List.replicate count .command) =
    some next

theorem Completes.head {middle : ScriptHost C X}
    (hstep : scripts.step host .command = some middle)
    (hrest : scripts.Completes middle next) : scripts.Completes host next := by
  obtain ⟨count, hrun⟩ := hrest
  refine ⟨count + 1, ?_⟩
  rw [List.replicate_succ, Machine.run_cons_eq_some]
  exact ⟨middle, hstep, hrun⟩

theorem Completes.trans {middle : ScriptHost C X}
    (hfirst : scripts.Completes host middle)
    (hsecond : scripts.Completes middle next) :
    scripts.Completes host next := by
  obtain ⟨first, hfirst⟩ := hfirst
  obtain ⟨second, hsecond⟩ := hsecond
  refine ⟨first + second, ?_⟩
  rw [List.replicate_add, Machine.run_append, hfirst]
  exact hsecond

theorem step_command {first : FirewallCommand C}
    {rest : List (FirewallCommand C)} (hplan : host.plan = first :: rest) :
    scripts.step host .command = some { host with
      chains := Function.update host.chains first.chain
        (first.effect scripts.found (host.chains first.chain)).1
      plan := (first.effect scripts.found (host.chains first.chain)).2 ++
        rest } := by
  rw [step, hplan]

/-- The host after a command and all that follows from it. -/
def afterCommand (scripts : RuleScripts C X) (chains : C → RuleChain)
    (command : FirewallCommand C) : C → RuleChain :=
  Function.update chains command.chain
    (command.total scripts.found (chains command.chain))

/-- The deletions by handle that a listing leaves to do. -/
theorem completes_handles (host : ScriptHost C X) (chain : C)
    (handles : List Text) {rest : List (FirewallCommand C)}
    (hplan : host.plan = handles.map (.deleteHandle chain) ++ rest) :
    scripts.Completes host { host with
      chains := Function.update host.chains chain
        (handles.foldl RuleChain.deleteHandle (host.chains chain))
      plan := rest } := by
  induction handles generalizing host with
  | nil =>
      rw [List.map_nil, List.nil_append] at hplan
      refine ⟨0, ?_⟩
      rw [← hplan, List.foldl_nil, Function.update_eq_self]
      rfl
  | cons handle handles ih =>
      rw [List.map_cons, List.cons_append] at hplan
      have hrest := ih { host with
        chains := Function.update host.chains chain
          ((host.chains chain).deleteHandle handle)
        plan := handles.map (.deleteHandle chain) ++ rest } rfl
      simp only [Function.update_self, Function.update_idem] at hrest
      exact hrest.head (step_command hplan)

/-- A command with nothing to follow. -/
theorem completes_once {first : FirewallCommand C}
    {rest : List (FirewallCommand C)} (hplan : host.plan = first :: rest)
    (hlast : first.effect scripts.found (host.chains first.chain) =
      (first.total scripts.found (host.chains first.chain), [])) :
    scripts.Completes host { host with
      chains := scripts.afterCommand host.chains first
      plan := rest } := by
  have hstep : scripts.step host .command = _ := step_command hplan
  rw [hlast] at hstep
  exact Completes.head hstep ⟨0, rfl⟩

theorem completes_deleteUpTo (left : Nat) (host : ScriptHost C X) (chain : C)
    (body : List Clause) {rest : List (FirewallCommand C)}
    (hplan : host.plan = .deleteUpTo left chain body :: rest) :
    scripts.Completes host { host with
      chains := scripts.afterCommand host.chains (.deleteUpTo left chain body)
      plan := rest } := by
  induction left generalizing host with
  | zero => exact completes_once hplan rfl
  | succ left ih =>
      rcases (host.chains chain).deleteFirst_cases body with ⟨hnone, _⟩ |
        ⟨fewer, hsome, _⟩
      · refine completes_once hplan ?_
        simp only [FirewallCommand.chain, FirewallCommand.effect,
          FirewallCommand.total, FirewallCommand.deleteRounds, hnone]
      · have hstep : scripts.step host .command = _ := step_command hplan
        simp only [FirewallCommand.chain, FirewallCommand.effect, hsome,
          List.cons_append, List.nil_append] at hstep
        have hrest := ih { host with
          chains := Function.update host.chains chain fewer
          plan := .deleteUpTo left chain body :: rest } rfl
        simp only [afterCommand, FirewallCommand.chain, FirewallCommand.total,
          Function.update_self, Function.update_idem] at hrest
        simp only [afterCommand, FirewallCommand.chain, FirewallCommand.total,
          FirewallCommand.deleteRounds, hsome]
        exact hrest.head hstep

/-- Each round of the loop without a bound deletes a rule. -/
theorem completes_deleteWhile (host : ScriptHost C X) (chain : C)
    (body : List Clause) {rest : List (FirewallCommand C)}
    (hplan : host.plan = .deleteWhile chain body :: rest) :
    scripts.Completes host { host with
      chains := scripts.afterCommand host.chains (.deleteWhile chain body)
      plan := rest } := by
  induction hlength : (host.chains chain).rules.length
    using Nat.strong_induction_on generalizing host with
  | _ length ih =>
      by_cases hfound : ∃ rule ∈ (host.chains chain).rules,
          rule.spec = body.map Clause.uncounted
      · obtain ⟨fewer, first, rule, second, hsome, hnext, hfewer, hrules,
          hspec⟩ := (host.chains chain).deleteFirst_eq_some hfound
        have hstep : scripts.step host .command = _ := step_command hplan
        simp only [FirewallCommand.chain, FirewallCommand.effect, hsome,
          List.cons_append, List.nil_append] at hstep
        have hshorter : fewer.rules.length < length := by
          rw [← hlength, hrules, hfewer]
          simp only [List.length_append, List.length_cons]
          omega
        have hrest := ih _ hshorter { host with
          chains := Function.update host.chains chain fewer
          plan := .deleteWhile chain body :: rest } rfl
            (by simp only [Function.update_self])
        have htotal : FirewallCommand.total scripts.found fewer
            (.deleteWhile chain body) = FirewallCommand.total scripts.found
              (host.chains chain) (.deleteWhile chain body) := by
          apply RuleChain.ext
          · simp [FirewallCommand.total, RuleChain.keep, hrules, hfewer, hspec]
          · exact hnext
        simp only [afterCommand, FirewallCommand.chain, Function.update_self,
          Function.update_idem, htotal] at hrest
        exact hrest.head hstep
      · have hnone : ∀ rule ∈ (host.chains chain).rules,
            rule.spec ≠ body.map Clause.uncounted := by
          intro rule hrule hspec
          exact hfound ⟨rule, hrule, hspec⟩
        have htotal : FirewallCommand.total scripts.found (host.chains chain)
            (.deleteWhile chain body) = host.chains chain := by
          apply RuleChain.ext
          · exact List.filter_eq_self.mpr fun rule hrule =>
              decide_eq_true (hnone rule hrule)
          · rfl
        refine completes_once hplan ?_
        simp only [FirewallCommand.chain, htotal, FirewallCommand.effect,
          (host.chains chain).deleteFirst_eq_none hnone]

theorem completes_first {first : FirewallCommand C}
    {rest : List (FirewallCommand C)} (host : ScriptHost C X)
    (hplan : host.plan = first :: rest) :
    scripts.Completes host { host with
      chains := scripts.afterCommand host.chains first
      plan := rest } := by
  cases first with
  | deleteUpTo left chain body =>
      exact completes_deleteUpTo left host chain body hplan
  | deleteWhile chain body => exact completes_deleteWhile host chain body hplan
  | list chain =>
      have hstep : scripts.step host .command = _ := step_command hplan
      have hrest : scripts.Completes _ _ := completes_handles { host with
        chains := Function.update host.chains chain (host.chains chain)
        plan := (scripts.found chain (host.chains chain)).map
          (.deleteHandle chain) ++ rest } chain _ rfl
      simp only [Function.update_self, Function.update_idem] at hrest
      exact hrest.head hstep
  | _ => exact completes_once hplan rfl

/-- A script that nothing interrupts reaches its end, with the effects of its
commands one after another. -/
theorem completes_plan (host : ScriptHost C X) :
    scripts.Completes host { host with
      chains := host.plan.foldl scripts.afterCommand host.chains
      plan := [] } := by
  induction hplan : host.plan generalizing host with
  | nil =>
      refine ⟨0, ?_⟩
      rw [List.foldl_nil, ← hplan]
      rfl
  | cons first rest ih =>
      exact (completes_first host hplan).trans (ih { host with
        chains := scripts.afterCommand host.chains first
        plan := rest } rfl)

/-- In each chain these are the effects of the commands on that chain. -/
theorem foldl_afterCommand (plan : List (FirewallCommand C))
    (chains : C → RuleChain) (chain : C) :
    plan.foldl scripts.afterCommand chains chain =
      (plan.filter fun command => command.chain = chain).foldl
        (FirewallCommand.total scripts.found) (chains chain) := by
  induction plan generalizing chains with
  | nil => rfl
  | cons command rest ih =>
      rw [List.foldl_cons, ih, List.filter_cons]
      by_cases hsame : command.chain = chain
      · subst hsame
        rw [if_pos (decide_eq_true rfl), List.foldl_cons, afterCommand,
          Function.update_self]
      · rw [if_neg (by simpa using hsame), afterCommand,
          Function.update_of_ne (Ne.symm hsame)]

theorem completes_start (hphase : host.phase = .starting) :
    ∃ next, scripts.Completes host next ∧ next.phase = .serving ∧
      next.setting = host.setting := by
  refine ⟨{ host with
      chains := host.plan.foldl scripts.afterCommand host.chains
      phase := .serving
      plan := [] }, (completes_plan host).trans (.head ?_ ⟨0, rfl⟩), rfl, rfl⟩
  simp only [step, hphase, if_true]

theorem completes_stop (hphase : host.phase = .stopping) :
    ∃ next, scripts.Completes host next ∧ next.phase = .stopped := by
  refine ⟨{ host with
      chains := host.plan.foldl scripts.afterCommand host.chains
      phase := .stopped
      plan := [] }, (completes_plan host).trans (.head ?_ ⟨0, rfl⟩), rfl⟩
  simp only [step, hphase, reduceCtorEq, if_true, if_false]

end Runs

end RuleScripts

end Redpill
