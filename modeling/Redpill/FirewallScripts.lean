/-
Scripts of firewall commands.  A program sets its rules up when it starts, by a
script that first removes what earlier runs have left, and takes them back when
it is told to stop.  It may die between any two commands, and others edit the
same chains all the time.
-/
import Redpill.Firewall
import Redpill.Machine

namespace Redpill

/-- A command on one of the chains.  `deleteUpTo` and `deleteWhile` are loops
of deletions, the first with a bound on its rounds; the failure of a single
deletion is ignored.  `list` prints the chain and finds handles in it. -/
inductive FirewallCommand (C : Type) where
  | deleteUpTo (left : Nat) (chain : C) (body : List Clause)
  | deleteWhile (chain : C) (body : List Clause)
  | delete (chain : C) (body : List Clause)
  | list (chain : C)
  | deleteHandle (chain : C) (handle : Text)
  | append (chain : C) (body : List Clause)

namespace FirewallCommand

variable {C : Type}

def chain : FirewallCommand C → C
  | .deleteUpTo _ chain _ => chain
  | .deleteWhile chain _ => chain
  | .delete chain _ => chain
  | .list chain => chain
  | .deleteHandle chain _ => chain
  | .append chain _ => chain

/-- One command: the chain after it, and what is left to do of a loop. -/
def effect (found : C → RuleChain → List Text) (rules : RuleChain) :
    FirewallCommand C → RuleChain × List (FirewallCommand C)
  | .deleteUpTo 0 _ _ => (rules, [])
  | .deleteUpTo (left + 1) chain body =>
      match rules.deleteFirst body with
      | some rest => (rest, [.deleteUpTo left chain body])
      | none => (rules, [])
  | .deleteWhile chain body =>
      match rules.deleteFirst body with
      | some rest => (rest, [.deleteWhile chain body])
      | none => (rules, [])
  | .delete _ body => ((rules.deleteFirst body).getD rules, [])
  | .list chain => (rules, (found chain rules).map (.deleteHandle chain))
  | .deleteHandle _ handle => (rules.deleteHandle handle, [])
  | .append _ body => (rules.append body, [])

/-- The rounds of a loop with a bound, one after another. -/
def deleteRounds (body : List Clause) : Nat → RuleChain → RuleChain
  | 0, rules => rules
  | left + 1, rules =>
      match rules.deleteFirst body with
      | some rest => deleteRounds body left rest
      | none => rules

/-- The chain after a command with all that follows from it, if nothing comes
between. -/
def total (found : C → RuleChain → List Text) (rules : RuleChain) :
    FirewallCommand C → RuleChain
  | .deleteUpTo left _ body => deleteRounds body left rules
  | .deleteWhile _ body => rules.keep (rules.rules.filter fun rule =>
      decide (rule.spec ≠ body.map Clause.uncounted)) List.filter_sublist
  | .delete _ body => (rules.deleteFirst body).getD rules
  | .list chain => (found chain rules).foldl RuleChain.deleteHandle rules
  | .deleteHandle _ handle => rules.deleteHandle handle
  | .append _ body => rules.append body

end FirewallCommand

/-- What others do with a chain: `iptables -A` and `iptables -D`. -/
inductive RuleEdit (C : Type) where
  | append (chain : C) (body : List Clause)
  | delete (chain : C) (body : List Clause)

namespace RuleEdit

variable {C : Type}

def chain : RuleEdit C → C
  | .append chain _ => chain
  | .delete chain _ => chain

def body : RuleEdit C → List Clause
  | .append _ body => body
  | .delete _ body => body

def effect (rules : RuleChain) : RuleEdit C → RuleChain
  | .append _ body => rules.append body
  | .delete _ body => (rules.deleteFirst body).getD rules

/-- The same on the bodies of the rules. -/
def onBodies (bodies : List (List Clause)) : RuleEdit C → List (List Clause)
  | .append _ body => bodies ++ [body]
  | .delete _ body => bodies.eraseP fun other =>
      other.map Clause.uncounted = body.map Clause.uncounted

end RuleEdit

/-- The scripts of a program: its rules in each chain, how it finds their
handles, and the scripts with the rules that they are to leave. -/
structure RuleScripts (C : Type) (X : Type) where
  own : C → Rule → Prop
  ownDecidable : ∀ chain, DecidablePred (own chain)
  found : C → RuleChain → List Text
  managed : C → Prop
  setup : X → List (FirewallCommand C)
  cleanup : X → List (FirewallCommand C)
  target : X → C → List (List Clause)

inductive ScriptPhase where
  | down
  | starting
  | serving
  | stopping
  | stopped
deriving Repr, DecidableEq

/-- The chains of a host, and the program with the rest of its script. -/
structure ScriptHost (C : Type) (X : Type) where
  chains : C → RuleChain
  phase : ScriptPhase
  setting : X
  plan : List (FirewallCommand C)

/-- `crash` is any end of the program other than by its cleanup. -/
inductive ScriptEvent (C : Type) (X : Type) where
  | start (setting : X)
  | command
  | signal
  | crash
  | other (edit : RuleEdit C)

namespace RuleScripts

variable {C X : Type} (scripts : RuleScripts C X)

instance (chain : C) : DecidablePred (scripts.own chain) :=
  scripts.ownDecidable chain

/-- The program's rules in a chain. -/
def ownRules (chain : C) (rules : RuleChain) : List Rule :=
  rules.rules.filter fun rule => scripts.own chain rule

/-- The rules of others. -/
def others (chain : C) (rules : RuleChain) : List Rule :=
  rules.rules.filter fun rule => ¬ scripts.own chain rule

variable [DecidableEq C]

def step (host : ScriptHost C X) : ScriptEvent C X → Option (ScriptHost C X)
  | .start setting =>
      if host.phase = .down ∨ host.phase = .stopped then
        some { host with
          phase := .starting
          setting := setting
          plan := scripts.setup setting }
      else none
  | .command =>
      match host.plan with
      | command :: rest =>
          let result := command.effect scripts.found (host.chains command.chain)
          some { host with
            chains := Function.update host.chains command.chain result.1
            plan := result.2 ++ rest }
      | [] =>
          if host.phase = .starting then some { host with phase := .serving }
          else if host.phase = .stopping then
            some { host with phase := .stopped }
          else none
  | .signal =>
      if host.phase = .serving then
        some { host with
          phase := .stopping
          plan := scripts.cleanup host.setting }
      else none
  | .crash =>
      if host.phase = .down ∨ host.phase = .stopped then none
      else some { host with phase := .down, plan := [] }
  | .other edit =>
      some { host with
        chains := Function.update host.chains edit.chain
          (edit.effect (host.chains edit.chain)) }

omit [DecidableEq C] in
/-- The rules of the program are told from all others. -/
theorem length_ownRules_le {chain : C} {first second : RuleChain}
    (hsub : first.rules.Sublist second.rules) :
    (scripts.ownRules chain first).length ≤
      (scripts.ownRules chain second).length :=
  (hsub.filter _).length_le

omit [DecidableEq C] in
theorem length_ownRules_append {chain : C} {rules : RuleChain}
    {body : List Clause} (hown : scripts.own chain ⟨rules.nextHandle, body⟩) :
    (scripts.ownRules chain (rules.append body)).length =
      (scripts.ownRules chain rules).length + 1 := by
  simp [ownRules, RuleChain.append, hown]

/-- The command removes the rule by the time it has completed. -/
def Dooms (rule : Rule) : FirewallCommand C → Prop
  | .deleteUpTo _ _ body | .deleteWhile _ body =>
      rule.spec = body.map Clause.uncounted
  | .list chain => scripts.own chain rule
  | .deleteHandle _ handle => decimal rule.handle = handle
  | .delete _ _ | .append _ _ => False

instance (rule : Rule) : DecidablePred (scripts.Dooms rule) := fun command =>
  match command with
  | .deleteUpTo _ _ _ | .deleteWhile _ _ =>
      inferInstanceAs (Decidable (_ = _))
  | .list _ => inferInstanceAs (Decidable (scripts.own _ rule))
  | .deleteHandle _ _ => inferInstanceAs (Decidable (_ = _))
  | .delete _ _ | .append _ _ => inferInstanceAs (Decidable False)

/-- The command only concerns rules of the program.  A handle that was found
belongs to one of these, or to no rule any more. -/
def Safe (rules : RuleChain) : FirewallCommand C → Prop
  | .deleteUpTo _ chain body | .deleteWhile chain body | .delete chain body =>
      ∀ rule : Rule, rule.spec = body.map Clause.uncounted →
        scripts.own chain rule
  | .list chain => ∀ rules, scripts.found chain rules =
      (scripts.ownRules chain rules).map fun rule => decimal rule.handle
  | .deleteHandle chain handle => ∃ n, handle = decimal n ∧
      n < rules.nextHandle ∧
        ∀ rule ∈ rules.rules, rule.handle = n → scripts.own chain rule
  | .append chain body => ∀ handle, scripts.own chain ⟨handle, body⟩

/-- The command is one of a cleanup. -/
def Removes (target : List (List Clause)) : FirewallCommand C → Prop
  | .append _ _ => False
  | .delete _ _ => target = []
  | _ => True

/-- The rules of the program that the commands leave. -/
def kept (cleaning : List (FirewallCommand C)) (chain : C)
    (rules : RuleChain) : List Rule :=
  (scripts.ownRules chain rules).filter fun rule =>
    ¬ ∃ command ∈ cleaning, scripts.Dooms rule command

/-- The loops with a bound can delete all that they find. -/
def Enough (chain : C) (cleaning : List (FirewallCommand C))
    (rules : RuleChain) : Prop :=
  ∀ left body, .deleteUpTo left chain body ∈ cleaning →
    rules.rules.countP (fun rule => rule.spec = body.map Clause.uncounted) ≤
      left

/-- What is left to do with a chain leads to the target: first rules are
removed, then the missing ones are appended. -/
def Progress (target : List (List Clause)) (chain : C)
    (plan : List (FirewallCommand C)) (rules : RuleChain) : Prop :=
  ∃ cleaning pending,
    plan.filter (fun command => command.chain = chain) =
      cleaning ++ pending.map (.append chain) ∧
    (∀ command ∈ cleaning, Removes target command) ∧
    Enough chain cleaning rules ∧
    (scripts.kept cleaning chain rules).map Rule.body ++ pending = target

end RuleScripts

/-- What comes later in a chain: rules go, and new ones have new handles. -/
def RuleChain.Later (first second : RuleChain) : Prop :=
  first.nextHandle ≤ second.nextHandle ∧
    ∀ rule ∈ second.rules, rule ∈ first.rules ∨ first.nextHandle ≤ rule.handle

namespace RuleChain

variable {first second : RuleChain} {body : List Clause}

theorem Later.of_sublist (hsub : second.rules.Sublist first.rules)
    (hnext : second.nextHandle = first.nextHandle) : first.Later second :=
  ⟨hnext.ge, fun _ hrule => Or.inl (hsub.subset hrule)⟩

theorem later_append (rules : RuleChain) (body : List Clause) :
    rules.Later (rules.append body) := by
  refine ⟨Nat.le_succ _, ?_⟩
  intro rule hrule
  rcases List.mem_append.mp hrule with hold | hnew
  · exact Or.inl hold
  · rw [List.mem_singleton.mp hnew]
    exact Or.inr (Nat.le_refl _)

/-- A deletion fails, or it takes the first rule with the specification. -/
theorem deleteFirst_cases (rules : RuleChain) (body : List Clause) :
    (rules.deleteFirst body = none ∧
        ∀ rule ∈ rules.rules, rule.spec ≠ body.map Clause.uncounted) ∨
      ∃ rest, rules.deleteFirst body = some rest ∧
        rest.nextHandle = rules.nextHandle ∧
        rest.rules = rules.rules.eraseP
          (fun rule => rule.spec = body.map Clause.uncounted) ∧
        ∃ rule ∈ rules.rules, rule.spec = body.map Clause.uncounted := by
  by_cases hfound : ∃ rule ∈ rules.rules, rule.spec = body.map Clause.uncounted
  · refine Or.inr ⟨_, if_pos ?_, rfl, rfl, hfound⟩
    obtain ⟨rule, hrule, hspec⟩ := hfound
    exact List.any_eq_true.mpr ⟨rule, hrule, decide_eq_true hspec⟩
  · have hnone : ∀ rule ∈ rules.rules,
        rule.spec ≠ body.map Clause.uncounted := by
      intro rule hrule hspec
      exact hfound ⟨rule, hrule, hspec⟩
    exact Or.inl ⟨rules.deleteFirst_eq_none hnone, hnone⟩

/-- Whether it fails or not, the rules are those without the first one that
matches. -/
theorem rules_deleteFirst (rules : RuleChain) (body : List Clause) :
    ((rules.deleteFirst body).getD rules).rules = rules.rules.eraseP
        (fun rule => rule.spec = body.map Clause.uncounted) ∧
      ((rules.deleteFirst body).getD rules).nextHandle = rules.nextHandle := by
  rcases rules.deleteFirst_cases body with ⟨hnone, hall⟩ | ⟨rest, hsome, hnext,
    hrest, _⟩
  · rw [hnone]
    refine ⟨(List.eraseP_of_forall_not ?_).symm, rfl⟩
    intro rule hrule
    simpa using hall rule hrule
  · rw [hsome]
    exact ⟨hrest, hnext⟩

end RuleChain

/-- An erased element that the filter drops makes no difference. -/
theorem filter_eraseP_of_not {α : Type} {p q : α → Bool} {items : List α}
    (h : ∀ item, p item = true → q item = false) :
    (items.eraseP p).filter q = items.filter q := by
  induction items with
  | nil => rfl
  | cons item rest ih =>
      cases hp : p item with
      | true => rw [List.eraseP_cons_of_pos hp, List.filter_cons, h item hp]; rfl
      | false =>
          rw [List.eraseP_cons_of_neg (by simp [hp]), List.filter_cons,
            List.filter_cons, ih]

/-- One that the filter keeps may be erased before or after. -/
theorem filter_eraseP_of_imp {α : Type} {p q : α → Bool} {items : List α}
    (h : ∀ item, p item = true → q item = true) :
    (items.eraseP p).filter q = (items.filter q).eraseP p := by
  rw [List.eraseP_filter]
  congr 2
  funext item
  cases hp : p item with
  | true => simp [h item hp]
  | false => rfl

namespace RuleScripts

variable {C X : Type} {scripts : RuleScripts C X} {rules after : RuleChain}
  {command : FirewallCommand C}

theorem Safe.later (hsafe : scripts.Safe rules command)
    (hlater : rules.Later after) : scripts.Safe after command := by
  cases command with
  | deleteHandle chain handle =>
      obtain ⟨n, hhandle, hn, hown⟩ := hsafe
      refine ⟨n, hhandle, Nat.lt_of_lt_of_le hn hlater.1, ?_⟩
      intro rule hrule heq
      rcases hlater.2 rule hrule with hold | hnew
      · exact hown rule hold heq
      · omega
  | _ => exact hsafe

/-- What a command does to its chain: rules of the program go, or one comes. -/
theorem effect_cases (hsafe : scripts.Safe rules command) :
    ((command.effect scripts.found rules).1.rules.Sublist rules.rules ∧
        (command.effect scripts.found rules).1.nextHandle =
          rules.nextHandle ∧
        scripts.others command.chain (command.effect scripts.found rules).1 =
          scripts.others command.chain rules) ∨
      ∃ chain body, command = .append chain body := by
  have herase : ∀ body : List Clause, ∀ chain, (∀ rule : Rule,
      rule.spec = body.map Clause.uncounted → scripts.own chain rule) →
      (rules.rules.eraseP fun rule =>
        rule.spec = body.map Clause.uncounted).filter
          (fun rule => ¬ scripts.own chain rule) =
        scripts.others chain rules := by
    intro body chain hown
    apply filter_eraseP_of_not
    intro rule hspec
    simpa using hown rule (of_decide_eq_true hspec)
  cases command with
  | deleteUpTo left chain body =>
      cases left with
      | zero => exact Or.inl ⟨List.Sublist.refl _, rfl, rfl⟩
      | succ left =>
          rcases rules.deleteFirst_cases body with ⟨hnone, _⟩ | ⟨rest, hsome,
            hnext, hrest, _⟩
          · rw [FirewallCommand.effect, hnone]
            exact Or.inl ⟨List.Sublist.refl _, rfl, rfl⟩
          · rw [FirewallCommand.effect, hsome]
            refine Or.inl ⟨hrest ▸ List.eraseP_sublist, hnext, ?_⟩
            rw [others, hrest]
            exact herase body chain hsafe
  | deleteWhile chain body =>
      rcases rules.deleteFirst_cases body with ⟨hnone, _⟩ | ⟨rest, hsome,
        hnext, hrest, _⟩
      · rw [FirewallCommand.effect, hnone]
        exact Or.inl ⟨List.Sublist.refl _, rfl, rfl⟩
      · rw [FirewallCommand.effect, hsome]
        refine Or.inl ⟨hrest ▸ List.eraseP_sublist, hnext, ?_⟩
        rw [others, hrest]
        exact herase body chain hsafe
  | delete chain body =>
      obtain ⟨hrest, hnext⟩ := rules.rules_deleteFirst body
      refine Or.inl ⟨rules.deleteFirst_sublist body, hnext, ?_⟩
      rw [FirewallCommand.effect, others, hrest]
      exact herase body chain hsafe
  | list chain => exact Or.inl ⟨List.Sublist.refl _, rfl, rfl⟩
  | deleteHandle chain handle =>
      refine Or.inl ⟨List.filter_sublist, rfl, ?_⟩
      obtain ⟨n, rfl, _, hown⟩ := hsafe
      simp only [FirewallCommand.effect, RuleChain.deleteHandle,
        RuleChain.keep, others, List.filter_filter]
      apply List.filter_congr
      intro rule hrule
      by_cases hsame : rule.handle = n
      · simp [FirewallCommand.chain, hown rule hrule hsame]
      · have hother : decimal rule.handle ≠ decimal n :=
          fun heq => hsame (decimal_inj heq)
        simp [hother]
  | append chain body => exact Or.inr ⟨chain, body, rfl⟩

theorem later_effect (hsafe : scripts.Safe rules command) :
    rules.Later (command.effect scripts.found rules).1 := by
  rcases effect_cases hsafe with ⟨hsub, hnext, _⟩ | ⟨chain, body, rfl⟩
  · exact RuleChain.Later.of_sublist hsub hnext
  · exact rules.later_append body

/-- A command of the program leaves the rules of others alone. -/
theorem others_effect (hsafe : scripts.Safe rules command) :
    scripts.others command.chain (command.effect scripts.found rules).1 =
      scripts.others command.chain rules := by
  rcases effect_cases hsafe with ⟨_, _, hothers⟩ | ⟨chain, body, rfl⟩
  · exact hothers
  · have hown : scripts.own chain ⟨rules.nextHandle, body⟩ := hsafe _
    simp [FirewallCommand.effect, FirewallCommand.chain, RuleChain.append,
      others, hown]

/-- What is left of a loop is on the same chain, and safe. -/
theorem safe_followup (hsafe : scripts.Safe rules command)
    {next : FirewallCommand C}
    (hnext : next ∈ (command.effect scripts.found rules).2) :
    next.chain = command.chain ∧
      scripts.Safe (command.effect scripts.found rules).1 next := by
  cases command with
  | deleteUpTo left chain body =>
      cases left with
      | zero => simp [FirewallCommand.effect] at hnext
      | succ left =>
          rw [FirewallCommand.effect] at hnext ⊢
          split at hnext
          · obtain rfl := List.mem_singleton.mp hnext
            exact ⟨rfl, hsafe⟩
          · simp at hnext
  | deleteWhile chain body =>
      rw [FirewallCommand.effect] at hnext ⊢
      split at hnext
      · obtain rfl := List.mem_singleton.mp hnext
        exact ⟨rfl, hsafe⟩
      · simp at hnext
  | list chain =>
      have hfound : scripts.found chain rules = _ := hsafe rules
      simp only [FirewallCommand.effect, hfound, List.map_map,
        List.mem_map] at hnext
      obtain ⟨rule, hrule, rfl⟩ := hnext
      obtain ⟨hmem, hown⟩ := List.mem_filter.mp hrule
      refine ⟨rfl, rule.handle, rfl, rules.fresh rule hmem, ?_⟩
      intro other hother heq
      rw [List.inj_on_of_nodup_map rules.distinct hother hmem heq]
      exact of_decide_eq_true hown
  | _ => simp [FirewallCommand.effect] at hnext

section Cleaning

variable {chain : C} {target : List (List Clause)}
  {cleaning : List (FirewallCommand C)}

/-- Rules that the filter keeps are those of the program that no command of the
cleaning removes. -/
theorem kept_eq (cleaning : List (FirewallCommand C)) (chain : C)
    (rules : RuleChain) :
    scripts.kept cleaning chain rules = rules.rules.filter fun rule =>
      scripts.own chain rule ∧
        ¬ ∃ command ∈ cleaning, scripts.Dooms rule command := by
  rw [kept, ownRules, List.filter_filter]
  apply List.filter_congr
  intro rule _
  simp [Bool.and_comm]

/-- A command that dooms none of the rules may be left out. -/
theorem kept_cons_of_not
    (hnone : ∀ rule ∈ rules.rules, ¬ scripts.Dooms rule command) :
    scripts.kept (command :: cleaning) chain rules =
      scripts.kept cleaning chain rules := by
  rw [kept_eq, kept_eq]
  apply List.filter_congr
  intro rule hrule
  simp [hnone rule hrule]

/-- A rule that is doomed anyway may be removed first. -/
theorem kept_of_eraseP {p : Rule → Bool}
    (hrules : after.rules = rules.rules.eraseP p)
    (hdoomed : ∀ rule, p rule = true →
      ∃ command ∈ cleaning, scripts.Dooms rule command) :
    scripts.kept cleaning chain after = scripts.kept cleaning chain rules := by
  rw [kept_eq, kept_eq, hrules]
  apply filter_eraseP_of_not
  intro rule hp
  simp only [decide_eq_false_iff_not, not_and, not_not]
  intro _
  exact hdoomed rule hp

theorem kept_sublist (hsub : after.rules.Sublist rules.rules) :
    (scripts.kept cleaning chain after).Sublist
      (scripts.kept cleaning chain rules) := by
  rw [kept_eq, kept_eq]
  exact hsub.filter _

theorem Enough.of_sublist (henough : Enough chain cleaning rules)
    (hsub : after.rules.Sublist rules.rules) : Enough chain cleaning after := by
  intro left body hmem
  exact (hsub.countP_le).trans (henough left body hmem)

/-- One command of a cleaning: what the rest keeps is the same. -/
theorem kept_effect (hsafe : scripts.Safe rules command)
    (hremoves : Removes target command)
    (henough : Enough command.chain (command :: cleaning) rules)
    (hnone : target = [] →
      scripts.kept (command :: cleaning) command.chain rules = []) :
    scripts.kept ((command.effect scripts.found rules).2 ++ cleaning)
        command.chain (command.effect scripts.found rules).1 =
      scripts.kept (command :: cleaning) command.chain rules := by
  cases command with
  | deleteUpTo left chain body =>
      have hcount := henough left body List.mem_cons_self
      cases left with
      | zero =>
          rw [Nat.le_zero, List.countP_eq_zero] at hcount
          refine (kept_cons_of_not ?_).symm
          intro rule hrule hspec
          exact hcount rule hrule (decide_eq_true hspec)
      | succ left =>
          rw [FirewallCommand.effect]
          rcases rules.deleteFirst_cases body with ⟨hfails, hall⟩ | ⟨rest, hsome,
            _, hrest, _⟩
          · rw [hfails]
            exact (kept_cons_of_not hall).symm
          · rw [hsome]
            refine (kept_of_eraseP hrest ?_).trans ?_
            · intro rule hspec
              exact ⟨_, List.mem_cons_self, of_decide_eq_true hspec⟩
            · rw [kept_eq, kept_eq]
              apply List.filter_congr
              intro rule _
              rw [decide_eq_decide]
              simp only [List.singleton_append, List.exists_mem_cons_iff]
              exact Iff.rfl
  | deleteWhile chain body =>
      rw [FirewallCommand.effect]
      rcases rules.deleteFirst_cases body with ⟨hfails, hall⟩ | ⟨rest, hsome,
        _, hrest, _⟩
      · rw [hfails]
        exact (kept_cons_of_not hall).symm
      · rw [hsome]
        refine kept_of_eraseP hrest ?_
        intro rule hspec
        exact ⟨_, List.mem_cons_self, of_decide_eq_true hspec⟩
  | delete chain body =>
      have hempty := hnone hremoves
      rw [hempty]
      rw [kept_cons_of_not (fun _ _ => id)] at hempty
      have hsub : (scripts.kept cleaning chain
          ((rules.deleteFirst body).getD rules)).Sublist
            (scripts.kept cleaning chain rules) :=
        kept_sublist (rules.deleteFirst_sublist body)
      rw [show scripts.kept cleaning chain rules = [] from hempty] at hsub
      exact List.sublist_nil.mp hsub
  | list chain =>
      have hfound : scripts.found chain rules = _ := hsafe rules
      have hall : ∀ commands : List (FirewallCommand C),
          (∀ rule ∈ rules.rules, scripts.own chain rule →
            ∃ command ∈ commands, scripts.Dooms rule command) →
          scripts.kept commands chain rules = [] := by
        intro commands hdoomed
        rw [kept_eq, List.filter_eq_nil_iff]
        intro rule hrule
        simp only [decide_eq_true_eq, not_and, not_not]
        exact hdoomed rule hrule
      refine (hall _ ?_).trans (hall _ ?_).symm
      · intro rule hrule hown
        refine ⟨.deleteHandle chain (decimal rule.handle),
          List.mem_append_left _ ?_, rfl⟩
        rw [FirewallCommand.effect, hfound, List.map_map, List.mem_map]
        exact ⟨rule, List.mem_filter.mpr ⟨hrule, decide_eq_true hown⟩, rfl⟩
      · intro rule hrule hown
        exact ⟨.list chain, List.mem_cons_self, hown⟩
  | deleteHandle chain handle =>
      rw [kept_eq, kept_eq]
      simp only [FirewallCommand.effect, RuleChain.deleteHandle,
        RuleChain.keep, List.filter_filter, List.nil_append]
      apply List.filter_congr
      intro rule _
      have hdooms : scripts.Dooms rule (.deleteHandle chain handle) ↔
          decimal rule.handle = handle := Iff.rfl
      by_cases hsame : decimal rule.handle = handle
      · simp [hdooms, hsame]
      · simp [hdooms, hsame]
  | append chain body => exact hremoves.elim

theorem removes_followup {next : FirewallCommand C}
    (hnext : next ∈ (command.effect scripts.found rules).2) :
    Removes target next := by
  cases command with
  | deleteUpTo left chain body =>
      cases left with
      | zero => simp [FirewallCommand.effect] at hnext
      | succ left =>
          rw [FirewallCommand.effect] at hnext
          split at hnext
          · rw [List.mem_singleton.mp hnext]
            trivial
          · simp at hnext
  | deleteWhile chain body =>
      rw [FirewallCommand.effect] at hnext
      split at hnext
      · rw [List.mem_singleton.mp hnext]
        trivial
      · simp at hnext
  | list chain =>
      obtain ⟨handle, _, rfl⟩ := List.mem_map.mp hnext
      trivial
  | _ => simp [FirewallCommand.effect] at hnext

/-- The loop that is left can delete all that is left. -/
theorem enough_effect
    (henough : Enough command.chain (command :: cleaning) rules)
    (hsub : (command.effect scripts.found rules).1.rules.Sublist rules.rules) :
    Enough command.chain ((command.effect scripts.found rules).2 ++ cleaning)
      (command.effect scripts.found rules).1 := by
  intro left body hmem
  rcases List.mem_append.mp hmem with hloop | hrest
  · cases command with
    | deleteUpTo count chain found =>
        cases count with
        | zero => simp [FirewallCommand.effect] at hloop
        | succ count =>
            have hcount := henough (count + 1) found List.mem_cons_self
            rw [FirewallCommand.effect] at hloop ⊢
            rcases rules.deleteFirst_cases found with ⟨hnone, _⟩ | ⟨rest,
              hsome, _, _, hfound⟩
            · simp [hnone] at hloop
            · obtain ⟨_, first, rule, second, hdelete, _, hrest, hrules,
                hspec⟩ := rules.deleteFirst_eq_some hfound
              obtain rfl := Option.some.inj (hsome.symm.trans hdelete)
              rw [hsome] at hloop ⊢
              simp only [List.mem_singleton,
                FirewallCommand.deleteUpTo.injEq] at hloop
              obtain ⟨rfl, _, rfl⟩ := hloop
              rw [hrules, List.countP_append,
                List.countP_cons_of_pos (by simp [hspec])] at hcount
              rw [hrest, List.countP_append]
              omega
    | deleteWhile chain found =>
        rw [FirewallCommand.effect] at hloop
        split at hloop
        · simp at hloop
        · simp at hloop
    | list chain => simp [FirewallCommand.effect] at hloop
    | _ => simp [FirewallCommand.effect] at hloop
  · exact (henough.of_sublist hsub) left body (List.mem_cons_of_mem _ hrest)

end Cleaning

section Scripted

variable [DecidableEq C] {target : List (List Clause)}
  {rest : List (FirewallCommand C)}

/-- A command on the chain. -/
theorem Progress.effect (hsafe : scripts.Safe rules command)
    (h : scripts.Progress target command.chain (command :: rest) rules) :
    scripts.Progress target command.chain
      ((command.effect scripts.found rules).2 ++ rest)
      (command.effect scripts.found rules).1 := by
  obtain ⟨cleaning, pending, hplan, hremoves, henough, htarget⟩ := h
  have hloop : ((command.effect scripts.found rules).2 ++ rest).filter
      (fun next => next.chain = command.chain) =
        (command.effect scripts.found rules).2 ++
          rest.filter fun next => next.chain = command.chain := by
    rw [List.filter_append, List.filter_eq_self.mpr]
    intro next hnext
    exact decide_eq_true (safe_followup hsafe hnext).1
  rw [List.filter_cons, if_pos (by simp)] at hplan
  cases cleaning with
  | nil =>
      cases pending with
      | nil => simp at hplan
      | cons body pending =>
          simp only [List.nil_append, List.map_cons, List.cons.injEq] at hplan
          obtain ⟨hcommand, hrest⟩ := hplan
          generalize command.chain = chain at hcommand hrest htarget hloop ⊢
          subst hcommand
          have hown : scripts.own chain ⟨rules.nextHandle, body⟩ := hsafe _
          refine ⟨[], pending, ?_, by simp, by simp [Enough], ?_⟩
          · rw [hloop, hrest]
            rfl
          · rw [← htarget]
            simp [kept_eq, FirewallCommand.effect, RuleChain.append, hown]
  | cons first cleaning =>
      simp only [List.cons_append, List.cons.injEq] at hplan
      obtain ⟨rfl, hrest⟩ := hplan
      have hremove := hremoves command List.mem_cons_self
      have hkept := kept_effect hsafe hremove henough (by
        rintro rfl
        exact List.map_eq_nil_iff.mp (List.append_eq_nil_iff.mp htarget).1)
      refine ⟨(command.effect scripts.found rules).2 ++ cleaning, pending, ?_,
        ?_, enough_effect henough ?_, ?_⟩
      · rw [hloop, hrest, List.append_assoc]
      · intro next hnext
        rcases List.mem_append.mp hnext with hfollow | hlater
        · exact removes_followup hfollow
        · exact hremoves next (List.mem_cons_of_mem _ hlater)
      · rcases effect_cases hsafe with ⟨hsub, _⟩ | ⟨_, _, rfl⟩
        · exact hsub
        · exact hremove.elim
      · rw [hkept, htarget]

/-- A command on another chain. -/
theorem Progress.elsewhere {chain : C} {other : RuleChain}
    (hne : command.chain ≠ chain) (hsafe : scripts.Safe other command)
    (h : scripts.Progress target chain (command :: rest) rules) :
    scripts.Progress target chain
      ((command.effect scripts.found other).2 ++ rest) rules := by
  obtain ⟨cleaning, pending, hplan, hrest⟩ := h
  refine ⟨cleaning, pending, ?_, hrest⟩
  have hnone : (command.effect scripts.found other).2.filter
      (fun next => next.chain = chain) = [] := by
    rw [List.filter_eq_nil_iff]
    intro next hnext
    simpa [(safe_followup hsafe hnext).1] using hne
  rw [List.filter_append, hnone, ← hplan, List.filter_cons,
    if_neg (by simpa using hne)]
  rfl

/-- A rule is appended when all others have been removed. -/
theorem Progress.length_lt {chain : C} {body : List Clause}
    (h : scripts.Progress target chain (.append chain body :: rest) rules) :
    (scripts.ownRules chain rules).length < target.length := by
  obtain ⟨cleaning, pending, hplan, hremoves, _, htarget⟩ := h
  rw [List.filter_cons, if_pos (by simp [FirewallCommand.chain])] at hplan
  cases cleaning with
  | nil =>
      cases pending with
      | nil => simp at hplan
      | cons first pending =>
          have hkept : scripts.kept [] chain rules =
              scripts.ownRules chain rules := by
            simp [kept]
          rw [← htarget, hkept]
          simp
  | cons first cleaning =>
      simp only [List.cons_append, List.cons.injEq] at hplan
      obtain ⟨rfl, _⟩ := hplan
      exact (hremoves _ List.mem_cons_self).elim

/-- Nothing left to do: the rules are those of the target. -/
theorem progress_nil {chain : C} :
    scripts.Progress target chain [] rules ↔
      (scripts.ownRules chain rules).map Rule.body = target := by
  have hkept : scripts.kept [] chain rules = scripts.ownRules chain rules := by
    simp [kept]
  constructor
  · rintro ⟨cleaning, pending, hplan, _, _, htarget⟩
    obtain ⟨rfl, hpending⟩ := List.append_eq_nil_iff.mp hplan.symm
    rw [List.map_eq_nil_iff.mp hpending, hkept, List.append_nil] at htarget
    exact htarget
  · intro htarget
    refine ⟨[], [], rfl, by simp, by simp [Enough], ?_⟩
    rw [hkept, htarget, List.append_nil]

end Scripted

section Edits

variable {edit : RuleEdit C}

variable (scripts) in
/-- The edit is of a rule that the program does not take for its own. -/
def Foreign (edit : RuleEdit C) : Prop :=
  ∀ rule : Rule, rule.spec = edit.body.map Clause.uncounted →
    ¬ scripts.own edit.chain rule

theorem later_edit (edit : RuleEdit C) (rules : RuleChain) :
    rules.Later (edit.effect rules) := by
  cases edit with
  | append chain body => exact rules.later_append body
  | delete chain body =>
      exact RuleChain.Later.of_sublist (rules.deleteFirst_sublist body)
        (rules.rules_deleteFirst body).2

theorem ownRules_edit (hforeign : scripts.Foreign edit) (rules : RuleChain) :
    scripts.ownRules edit.chain (edit.effect rules) =
      scripts.ownRules edit.chain rules := by
  cases edit with
  | append chain body =>
      have hother : ¬ scripts.own chain ⟨rules.nextHandle, body⟩ :=
        hforeign ⟨rules.nextHandle, body⟩ rfl
      simp [RuleEdit.effect, RuleEdit.chain, ownRules, RuleChain.append, hother]
  | delete chain body =>
      rw [RuleEdit.effect, ownRules, (rules.rules_deleteFirst body).1]
      apply filter_eraseP_of_not
      intro rule hspec
      simpa using hforeign rule (of_decide_eq_true hspec)

theorem others_edit (hforeign : scripts.Foreign edit) (rules : RuleChain) :
    (scripts.others edit.chain (edit.effect rules)).map Rule.body =
      edit.onBodies ((scripts.others edit.chain rules).map Rule.body) := by
  cases edit with
  | append chain body =>
      have hother : ¬ scripts.own chain ⟨rules.nextHandle, body⟩ :=
        hforeign ⟨rules.nextHandle, body⟩ rfl
      simp [RuleEdit.effect, RuleEdit.chain, RuleEdit.onBodies, others,
        RuleChain.append, hother]
  | delete chain body =>
      rw [RuleEdit.effect, RuleEdit.onBodies, others,
        (rules.rules_deleteFirst body).1, List.eraseP_map]
      rw [filter_eraseP_of_imp]
      · rfl
      · intro rule hspec
        simpa using hforeign rule (of_decide_eq_true hspec)

/-- The rules with a specification of the program are among its own. -/
theorem countP_ownRules {chain : C} {p : Rule → Bool}
    (hown : ∀ rule, p rule = true → scripts.own chain rule) :
    rules.rules.countP p = (scripts.ownRules chain rules).countP p := by
  rw [ownRules, List.countP_filter]
  apply List.countP_congr
  intro rule _
  simpa using hown rule

theorem Progress.of_edit [DecidableEq C] {target : List (List Clause)}
    {plan : List (FirewallCommand C)} (hforeign : scripts.Foreign edit)
    (hsafe : ∀ command ∈ plan, command.chain = edit.chain →
      scripts.Safe rules command)
    (h : scripts.Progress target edit.chain plan rules) :
    scripts.Progress target edit.chain plan (edit.effect rules) := by
  obtain ⟨cleaning, pending, hplan, hremoves, henough, htarget⟩ := h
  refine ⟨cleaning, pending, hplan, hremoves, ?_, ?_⟩
  · intro left body hmem
    have hcommand : .deleteUpTo left edit.chain body ∈ plan :=
      List.mem_of_mem_filter (hplan ▸ List.mem_append_left _ hmem)
    have hown : ∀ rule : Rule,
        decide (rule.spec = body.map Clause.uncounted) = true →
          scripts.own edit.chain rule :=
      fun rule hspec => hsafe _ hcommand rfl rule (of_decide_eq_true hspec)
    rw [countP_ownRules hown, ownRules_edit hforeign, ← countP_ownRules hown]
    exact henough left body hmem
  · rw [kept, ownRules_edit hforeign]
    exact htarget

end Edits

end RuleScripts

end Redpill
