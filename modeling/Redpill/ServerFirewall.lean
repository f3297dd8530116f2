/-
The firewall rules of the server over its whole life: `main` of `server.rs`
with the NOTRACK rules of `xdp.rs`, the NAT rules and the MSS clamping of
`route.rs`.  The server dies with its rules in place, or half of them, and the
next one starts from there.
-/
import Redpill.FirewallRuns
import Redpill.MssClamping
import Redpill.NatRules

namespace Redpill

/-- The chains that the server changes. -/
inductive ServerChain where
  | rawPrerouting
  | rawOutput
  | natPostrouting
  | filterForward
  | mangleForward
  | mangleOutput
deriving Repr, DecidableEq

/-- What the scripts depend on, apart from the MTU: the feature `xdp`, the
configuration of the NAT, the device, and the handles of the chains on this
host.  The subnet is written as nft prints it. -/
structure FirewallConfig where
  xdp : Bool
  natEnabled : Bool
  tunSubnet : Subnet
  canonical : tunSubnet.Canonical
  wan : Interface
  tunDev : Interface
  chainHandle : ServerChain → Nat
  forwardDrops : Bool

/-- The rule `-p udp --dport 443 -j NOTRACK`, or the same with `--sport`. -/
def notrackRule (inbound : Bool) : List Clause :=
  [.other ⟨"udp".toList, by decide, by decide, by decide⟩,
    if inbound then .other ⟨"dport".toList, by decide, by decide, by decide⟩
    else .other ⟨"sport".toList, by decide, by decide, by decide⟩,
    .other ⟨"443".toList, by decide, by decide, by decide⟩, .counter 0 0,
    .other ⟨"notrack".toList, by decide, by decide, by decide⟩]

/-- `cleanup_notrack_iptables`. -/
def cleanupNotrackIptables : List (FirewallCommand ServerChain) :=
  [.deleteUpTo 10 .rawPrerouting (notrackRule true),
    .deleteUpTo 10 .rawOutput (notrackRule false)]

/-- `setup_notrack_iptables`. -/
def setupNotrackIptables : List (FirewallCommand ServerChain) :=
  cleanupNotrackIptables ++
    [.append .rawPrerouting (notrackRule true),
      .append .rawOutput (notrackRule false)]

namespace FirewallConfig

variable (config : FirewallConfig)

/-- The rules that the server takes for its own. -/
def own : ServerChain → Rule → Prop
  | .rawPrerouting, rule =>
      rule.spec = (notrackRule true).map Clause.uncounted
  | .rawOutput, rule => rule.spec = (notrackRule false).map Clause.uncounted
  | .natPostrouting, rule => NamesSubnet config.tunSubnet rule
  | .filterForward, rule => NamesRedpill config.wan rule
  | .mangleForward, rule | .mangleOutput, rule =>
      NamesClamp config.tunDev rule

instance (chain : ServerChain) : DecidablePred (config.own chain) := fun rule =>
  match chain with
  | .rawPrerouting | .rawOutput => inferInstanceAs (Decidable (rule.spec = _))
  | .natPostrouting => inferInstanceAs (Decidable (NamesSubnet _ rule))
  | .filterForward => inferInstanceAs (Decidable (NamesRedpill _ rule))
  | .mangleForward | .mangleOutput =>
      inferInstanceAs (Decidable (NamesClamp _ rule))

/-- The handles that a listing of the chain gives. -/
def found (chain : ServerChain) (rules : RuleChain) : List Text :=
  match chain with
  | .natPostrouting => handlesOf (natSelect config.tunSubnet)
      (rules.list ["nat".toList] ["POSTROUTING".toList] natHook
        (config.chainHandle .natPostrouting))
  | .filterForward => handlesOf (forwardSelect config.wan)
      (rules.list ["filter".toList] ["FORWARD".toList]
        (forwardHook config.forwardDrops) (config.chainHandle .filterForward))
  | .mangleForward => handlesOf (mssSelect config.tunDev)
      (rules.list ["mangle".toList] ["FORWARD".toList] mangleForwardHook
        (config.chainHandle .mangleForward))
  | .mangleOutput => handlesOf (mssSelect config.tunDev)
      (rules.list ["mangle".toList] ["OUTPUT".toList] mangleOutputHook
        (config.chainHandle .mangleOutput))
  | .rawPrerouting | .rawOutput => []

def managed : ServerChain → Prop
  | .rawPrerouting | .rawOutput => config.xdp = true
  | .natPostrouting | .filterForward => config.natEnabled = true
  | .mangleForward | .mangleOutput => True

/-- `setup_nat`. -/
def setupNat : List (FirewallCommand ServerChain) :=
  [.list .natPostrouting, .list .filterForward,
    .append .natPostrouting (masqueradeRule config.tunSubnet config.wan),
    .append .filterForward (replyRule config.wan),
    .append .filterForward (outboundRule config.wan)]

/-- `cleanup_nat`. -/
def cleanupNat : List (FirewallCommand ServerChain) :=
  [.list .natPostrouting, .list .filterForward,
    .delete .natPostrouting (masqueradeRule config.tunSubnet config.wan),
    .delete .filterForward (replyRule config.wan),
    .delete .filterForward (outboundRule config.wan)]

/-- `setup_mss_clamping`. -/
def setupMssClamping (tunMtu : UInt32) : List (FirewallCommand ServerChain) :=
  let outgoing := clampRule false config.tunDev (mssOf tunMtu)
  let incoming := clampRule true config.tunDev (mssOf tunMtu)
  [.deleteWhile .mangleForward outgoing, .deleteWhile .mangleForward incoming,
    .deleteWhile .mangleOutput outgoing, .list .mangleForward,
    .list .mangleOutput, .append .mangleForward outgoing,
    .append .mangleForward incoming, .append .mangleOutput outgoing]

/-- `cleanup_mss_clamping`. -/
def cleanupMssClamping (tunMtu : UInt32) :
    List (FirewallCommand ServerChain) :=
  let outgoing := clampRule false config.tunDev (mssOf tunMtu)
  let incoming := clampRule true config.tunDev (mssOf tunMtu)
  [.list .mangleForward, .list .mangleOutput,
    .delete .mangleForward outgoing, .delete .mangleForward incoming,
    .delete .mangleOutput outgoing]

/-- The commands of `main` before it serves. -/
def setup (tunMtu : UInt32) : List (FirewallCommand ServerChain) :=
  (if config.xdp then setupNotrackIptables else []) ++
    (if config.natEnabled then config.setupNat else []) ++
    config.setupMssClamping tunMtu

/-- The commands of `main` after the endpoint has been closed. -/
def cleanup (tunMtu : UInt32) : List (FirewallCommand ServerChain) :=
  (if config.xdp then cleanupNotrackIptables else []) ++
    (if config.natEnabled then config.cleanupNat else []) ++
    config.cleanupMssClamping tunMtu

/-- The rules of a server that serves. -/
def target (tunMtu : UInt32) : ServerChain → List (List Clause)
  | .rawPrerouting => [notrackRule true]
  | .rawOutput => [notrackRule false]
  | .natPostrouting => [masqueradeRule config.tunSubnet config.wan]
  | .filterForward => [replyRule config.wan, outboundRule config.wan]
  | .mangleForward =>
      [clampRule false config.tunDev (mssOf tunMtu),
        clampRule true config.tunDev (mssOf tunMtu)]
  | .mangleOutput => [clampRule false config.tunDev (mssOf tunMtu)]

def scripts : RuleScripts ServerChain UInt32 where
  own := config.own
  ownDecidable := inferInstance
  found := config.found
  managed := config.managed
  setup := config.setup
  cleanup := config.cleanup
  target := config.target

/-- A listing finds the handles of the server's own rules. -/
theorem found_eq {chain : ServerChain} (hlisted : chain ≠ .rawPrerouting)
    (hother : chain ≠ .rawOutput) (rules : RuleChain) :
    config.found chain rules =
      (config.scripts.ownRules chain rules).map
        fun rule => decimal rule.handle := by
  have hmss : ∀ (name hook : List Text) (handle : Nat),
      (∀ word ∈ ["table".toList, "ip".toList, "chain".toList, "\x7b".toList,
        "\x7d".toList, "#".toList, "handle".toList, "type".toList] ++
          ["mangle".toList] ++ name ++ hook, ¬ "maxseg".toList <:+: word) →
      handlesOf (mssSelect config.tunDev)
          (rules.list ["mangle".toList] name hook handle) =
        (rules.rules.filter fun rule => decide
          (NamesClamp config.tunDev rule)).map
            fun rule => decimal rule.handle := by
    intro name hook handle hfixed
    have hmaxseg := RuleChain.contains_frame
      (show Printable "maxseg".toList by decide)
      (show 'm' ∈ "maxseg".toList by decide) (by decide) handle hfixed
    rw [rules.handlesOf_list fun line hline => by
      rw [mssSelect, hmaxseg line hline, Bool.and_false]]
    simp only [mssSelect_line]
  cases chain with
  | rawPrerouting => exact absurd rfl hlisted
  | rawOutput => exact absurd rfl hother
  | natPostrouting =>
      have hmasquerade := RuleChain.contains_frame
        (show Printable "masquerade".toList by decide)
        (show 'm' ∈ "masquerade".toList by decide) (by decide)
        (config.chainHandle .natPostrouting)
        (show ∀ word ∈ _ ++ ["nat".toList] ++ ["POSTROUTING".toList] ++
          natHook, _ by decide)
      rw [found, rules.handlesOf_list fun line hline => by
        rw [natSelect, hmasquerade line hline, Bool.and_false]]
      simp only [natSelect_line]
      rfl
  | filterForward =>
      have hframe : ∀ name : IfaceName, name = redpillPlus ∨ name = redpillStar →
          ∀ line ∈ RuleChain.opening ["filter".toList] ["FORWARD".toList]
            (forwardHook config.forwardDrops)
            (config.chainHandle .filterForward) ++ RuleChain.closing,
            Words.contains line name.quoted = false := by
        intro name hname
        apply RuleChain.contains_frame name.printable_quoted name.quote_mem
          (by decide)
        rcases hname with rfl | rfl
        · cases config.forwardDrops <;> decide
        · cases config.forwardDrops <;> decide
      rw [found, rules.handlesOf_list fun line hline => by
        rw [forwardSelect, hframe redpillPlus (Or.inl rfl) line hline,
          hframe redpillStar (Or.inr rfl) line hline]
        rfl]
      simp only [forwardSelect_line]
      rfl
  | mangleForward => exact hmss _ _ _ (by decide)
  | mangleOutput => exact hmss _ _ _ (by decide)

theorem own_masqueradeRule {rule : Rule}
    (hspec : rule.spec = (masqueradeRule config.tunSubnet config.wan).map
      Clause.uncounted) : config.own .natPostrouting rule := by
  apply namesSubnet_of_isMasqueradeOf config.canonical
  constructor
  · rw [← Rule.mem_spec (by simp), hspec]
    simp [masqueradeRule, Clause.uncounted]
  · rw [← Rule.mem_spec (by simp), hspec]
    simp [masqueradeRule, Clause.uncounted]

theorem own_replyRule {rule : Rule}
    (hspec : rule.spec = (replyRule config.wan).map Clause.uncounted) :
    config.own .filterForward rule := by
  apply namesRedpill_of_isRedpillAccept
  refine ⟨Or.inr (Or.inr ?_), Or.inl ?_, ?_⟩
  · rw [← Rule.mem_spec (by simp), hspec]
    simp [replyRule, Clause.uncounted]
  · rw [← Rule.mem_spec (by simp), hspec]
    simp [replyRule, Clause.uncounted]
  · rw [← Rule.mem_spec (by simp), hspec]
    simp [replyRule, Clause.uncounted]

theorem own_outboundRule {rule : Rule}
    (hspec : rule.spec = (outboundRule config.wan).map Clause.uncounted) :
    config.own .filterForward rule := by
  apply namesRedpill_of_isRedpillAccept
  refine ⟨Or.inr (Or.inl ?_), Or.inr ?_, ?_⟩
  · rw [← Rule.mem_spec (by simp), hspec]
    simp [outboundRule, Clause.uncounted]
  · rw [← Rule.mem_spec (by simp), hspec]
    simp [outboundRule, Clause.uncounted]
  · rw [← Rule.mem_spec (by simp), hspec]
    simp [outboundRule, Clause.uncounted]

/-- A rule of the scripts is told by its specification. -/
theorem safe_of_spec {chain : ServerChain} {body : List Clause}
    (hown : ∀ rule : Rule, rule.spec = body.map Clause.uncounted →
      config.own chain rule) (rules : RuleChain) (left : Nat) :
    config.scripts.Safe rules (.append chain body) ∧
      config.scripts.Safe rules (.delete chain body) ∧
      config.scripts.Safe rules (.deleteWhile chain body) ∧
      config.scripts.Safe rules (.deleteUpTo left chain body) :=
  ⟨fun handle => hown ⟨handle, body⟩ rfl, hown, hown, hown⟩

/-- What has to hold of every command. -/
def Fits (rules : RuleChain) (commands : List (FirewallCommand ServerChain)) :
    Prop :=
  ∀ command ∈ commands, config.managed command.chain ∧
    config.scripts.Safe rules command

theorem fits_notrack (hxdp : config.xdp = true) (rules : RuleChain) :
    config.Fits rules setupNotrackIptables ∧
      config.Fits rules cleanupNotrackIptables := by
  have hin := config.safe_of_spec
    (show ∀ rule : Rule, rule.spec = (notrackRule true).map Clause.uncounted →
      config.own .rawPrerouting rule from fun _ => id) rules 10
  have hout := config.safe_of_spec
    (show ∀ rule : Rule, rule.spec = (notrackRule false).map Clause.uncounted →
      config.own .rawOutput rule from fun _ => id) rules 10
  have hcleanup : config.Fits rules cleanupNotrackIptables := by
    simp only [Fits, cleanupNotrackIptables, List.forall_mem_cons]
    exact ⟨⟨hxdp, hin.2.2.2⟩, ⟨hxdp, hout.2.2.2⟩, by simp⟩
  refine ⟨List.forall_mem_append.mpr ⟨hcleanup, ?_⟩, hcleanup⟩
  simp only [List.forall_mem_cons]
  exact ⟨⟨hxdp, hin.1⟩, ⟨hxdp, hout.1⟩, by simp⟩

theorem safe_list {chain : ServerChain} (hlisted : chain ≠ .rawPrerouting)
    (hother : chain ≠ .rawOutput) (rules : RuleChain) :
    config.scripts.Safe rules (.list chain) :=
  config.found_eq hlisted hother

theorem fits_nat (hnat : config.natEnabled = true) (rules : RuleChain) :
    config.Fits rules config.setupNat ∧
      config.Fits rules config.cleanupNat := by
  have hpostrouting : config.scripts.Safe rules (.list .natPostrouting) :=
    config.safe_list (by decide) (by decide) rules
  have hforward : config.scripts.Safe rules (.list .filterForward) :=
    config.safe_list (by decide) (by decide) rules
  have hmasquerade := config.safe_of_spec
    (fun _ => config.own_masqueradeRule) rules 0
  have hreply := config.safe_of_spec (fun _ => config.own_replyRule) rules 0
  have houtbound := config.safe_of_spec
    (fun _ => config.own_outboundRule) rules 0
  simp only [Fits, setupNat, cleanupNat, List.forall_mem_cons]
  exact ⟨⟨⟨hnat, hpostrouting⟩, ⟨hnat, hforward⟩, ⟨hnat, hmasquerade.1⟩,
      ⟨hnat, hreply.1⟩, ⟨hnat, houtbound.1⟩, by simp⟩,
    ⟨hnat, hpostrouting⟩, ⟨hnat, hforward⟩, ⟨hnat, hmasquerade.2.1⟩,
      ⟨hnat, hreply.2.1⟩, ⟨hnat, houtbound.2.1⟩, by simp⟩

theorem own_clamp {chain : ServerChain}
    (hchain : chain = .mangleForward ∨ chain = .mangleOutput)
    {incoming : Bool} {mss : Nat} {rule : Rule}
    (hspec : rule.spec =
      (clampRule incoming config.tunDev mss).map Clause.uncounted) :
    config.own chain rule := by
  have hnames := namesClamp_of_clampFor (clampFor_of_spec hspec)
  rcases hchain with rfl | rfl
  · exact hnames
  · exact hnames

theorem fits_mss (tunMtu : UInt32) (rules : RuleChain) :
    config.Fits rules (config.setupMssClamping tunMtu) ∧
      config.Fits rules (config.cleanupMssClamping tunMtu) := by
  have hforward : config.scripts.Safe rules (.list .mangleForward) :=
    config.safe_list (by decide) (by decide) rules
  have houtput : config.scripts.Safe rules (.list .mangleOutput) :=
    config.safe_list (by decide) (by decide) rules
  have hreplies := config.safe_of_spec (fun _ => config.own_clamp
    (Or.inl rfl) : ∀ rule : Rule, rule.spec = (clampRule false config.tunDev
      (mssOf tunMtu)).map Clause.uncounted → _) rules 0
  have hrequests := config.safe_of_spec (fun _ => config.own_clamp
    (Or.inl rfl) : ∀ rule : Rule, rule.spec = (clampRule true config.tunDev
      (mssOf tunMtu)).map Clause.uncounted → _) rules 0
  have hlocal := config.safe_of_spec (fun _ => config.own_clamp
    (Or.inr rfl) : ∀ rule : Rule, rule.spec = (clampRule false config.tunDev
      (mssOf tunMtu)).map Clause.uncounted → _) rules 0
  simp only [Fits, setupMssClamping, cleanupMssClamping, List.forall_mem_cons]
  exact ⟨⟨⟨trivial, hreplies.2.2.1⟩, ⟨trivial, hrequests.2.2.1⟩,
      ⟨trivial, hlocal.2.2.1⟩, ⟨trivial, hforward⟩, ⟨trivial, houtput⟩,
      ⟨trivial, hreplies.1⟩, ⟨trivial, hrequests.1⟩, ⟨trivial, hlocal.1⟩,
      by simp⟩,
    ⟨trivial, hforward⟩, ⟨trivial, houtput⟩, ⟨trivial, hreplies.2.1⟩,
      ⟨trivial, hrequests.2.1⟩, ⟨trivial, hlocal.2.1⟩, by simp⟩

/-- Every command of the scripts concerns rules of the server alone. -/
theorem fits_scripts (tunMtu : UInt32) (rules : RuleChain) :
    config.Fits rules (config.setup tunMtu) ∧
      config.Fits rules (config.cleanup tunMtu) := by
  have hnone : config.Fits rules [] := by simp [Fits]
  obtain ⟨hsetupMss, hcleanupMss⟩ := config.fits_mss tunMtu rules
  have hraw : config.Fits rules
      (if config.xdp then setupNotrackIptables else []) ∧
      config.Fits rules
        (if config.xdp then cleanupNotrackIptables else []) := by
    by_cases hxdp : config.xdp
    · simp only [hxdp, if_true]
      exact config.fits_notrack hxdp rules
    · simp only [hxdp]
      exact ⟨hnone, hnone⟩
  have hnat : config.Fits rules
      (if config.natEnabled then config.setupNat else []) ∧
      config.Fits rules
        (if config.natEnabled then config.cleanupNat else []) := by
    by_cases henabled : config.natEnabled
    · simp only [henabled, if_true]
      exact config.fits_nat henabled rules
    · simp only [henabled]
      exact ⟨hnone, hnone⟩
  exact ⟨List.forall_mem_append.mpr
      ⟨List.forall_mem_append.mpr ⟨hraw.1, hnat.1⟩, hsetupMss⟩,
    List.forall_mem_append.mpr
      ⟨List.forall_mem_append.mpr ⟨hraw.2, hnat.2⟩, hcleanupMss⟩⟩

/-- The deletions of the setup in a chain. -/
def stale (tunMtu : UInt32) :
    ServerChain → List (FirewallCommand ServerChain)
  | .rawPrerouting => [.deleteUpTo 10 .rawPrerouting (notrackRule true)]
  | .rawOutput => [.deleteUpTo 10 .rawOutput (notrackRule false)]
  | .natPostrouting => [.list .natPostrouting]
  | .filterForward => [.list .filterForward]
  | .mangleForward =>
      [.deleteWhile .mangleForward
          (clampRule false config.tunDev (mssOf tunMtu)),
        .deleteWhile .mangleForward
          (clampRule true config.tunDev (mssOf tunMtu)),
        .list .mangleForward]
  | .mangleOutput =>
      [.deleteWhile .mangleOutput
          (clampRule false config.tunDev (mssOf tunMtu)),
        .list .mangleOutput]

/-- Those of the cleanup. -/
def leftover (tunMtu : UInt32) :
    ServerChain → List (FirewallCommand ServerChain)
  | .rawPrerouting => [.deleteUpTo 10 .rawPrerouting (notrackRule true)]
  | .rawOutput => [.deleteUpTo 10 .rawOutput (notrackRule false)]
  | .natPostrouting => .list .natPostrouting ::
      (config.target tunMtu .natPostrouting).map (.delete .natPostrouting)
  | .filterForward => .list .filterForward ::
      (config.target tunMtu .filterForward).map (.delete .filterForward)
  | .mangleForward => .list .mangleForward ::
      (config.target tunMtu .mangleForward).map (.delete .mangleForward)
  | .mangleOutput => .list .mangleOutput ::
      (config.target tunMtu .mangleOutput).map (.delete .mangleOutput)

theorem filter_setup (tunMtu : UInt32) {chain : ServerChain}
    (hmanaged : config.managed chain) :
    (config.setup tunMtu).filter (fun command => command.chain = chain) =
      config.stale tunMtu chain ++
        (config.target tunMtu chain).map (.append chain) := by
  by_cases hxdp : config.xdp
  · by_cases hnat : config.natEnabled
    · cases chain <;>
        simp [setup, hxdp, hnat, setupNotrackIptables, cleanupNotrackIptables,
          setupNat, setupMssClamping, stale, target, FirewallCommand.chain]
    · cases chain <;>
        simp_all [setup, setupNotrackIptables, cleanupNotrackIptables,
          setupMssClamping, stale, target, FirewallCommand.chain, managed]
  · by_cases hnat : config.natEnabled
    · cases chain <;>
        simp_all [setup, setupNat, setupMssClamping, stale, target,
          FirewallCommand.chain, managed]
    · cases chain <;>
        simp_all [setup, setupMssClamping, stale, target,
          FirewallCommand.chain, managed]

theorem filter_cleanup (tunMtu : UInt32) {chain : ServerChain}
    (hmanaged : config.managed chain) :
    (config.cleanup tunMtu).filter (fun command => command.chain = chain) =
      config.leftover tunMtu chain := by
  by_cases hxdp : config.xdp
  · by_cases hnat : config.natEnabled
    · cases chain <;>
        simp [cleanup, hxdp, hnat, cleanupNotrackIptables, cleanupNat,
          cleanupMssClamping, leftover, target, FirewallCommand.chain]
    · cases chain <;>
        simp_all [cleanup, cleanupNotrackIptables, cleanupMssClamping,
          leftover, target, FirewallCommand.chain, managed]
  · by_cases hnat : config.natEnabled
    · cases chain <;>
        simp_all [cleanup, cleanupNat, cleanupMssClamping, leftover, target,
          FirewallCommand.chain, managed]
    · cases chain <;>
        simp_all [cleanup, cleanupMssClamping, leftover, target,
          FirewallCommand.chain, managed]

/-- Both scripts remove every rule of the server. -/
theorem dooms_own (tunMtu : UInt32) {chain : ServerChain} {rule : Rule}
    (hown : config.own chain rule) :
    (∃ command ∈ config.stale tunMtu chain,
        config.scripts.Dooms rule command) ∧
      ∃ command ∈ config.leftover tunMtu chain,
        config.scripts.Dooms rule command := by
  cases chain with
  | rawPrerouting | rawOutput =>
      exact ⟨⟨_, List.mem_cons_self, hown⟩, ⟨_, List.mem_cons_self, hown⟩⟩
  | natPostrouting | filterForward =>
      exact ⟨⟨_, List.mem_cons_self, hown⟩, ⟨_, List.mem_cons_self, hown⟩⟩
  | mangleForward =>
      exact ⟨⟨.list .mangleForward, by simp [stale], hown⟩,
        ⟨_, List.mem_cons_self, hown⟩⟩
  | mangleOutput =>
      exact ⟨⟨.list .mangleOutput, by simp [stale], hown⟩,
        ⟨_, List.mem_cons_self, hown⟩⟩

theorem removes_stale (tunMtu : UInt32) (chain : ServerChain)
    (wanted : List (List Clause)) :
    (∀ command ∈ config.stale tunMtu chain,
        RuleScripts.Removes wanted command) ∧
      ∀ command ∈ config.leftover tunMtu chain,
        RuleScripts.Removes [] command := by
  cases chain <;> simp [stale, leftover, target, RuleScripts.Removes]

/-- The loops with a bound are those of the raw table. -/
theorem deleteUpTo_of_mem {tunMtu : UInt32} {left : Nat} {chain : ServerChain}
    {body : List Clause} (hmem : .deleteUpTo left chain body ∈
      config.setup tunMtu ++ config.cleanup tunMtu) :
    left = 10 ∧ (chain = .rawPrerouting ∨ chain = .rawOutput) := by
  have hmanaged : config.managed chain := by
    rcases List.mem_append.mp hmem with hsetup | hcleanup
    · exact ((config.fits_scripts tunMtu (.empty 0)).1 _ hsetup).1
    · exact ((config.fits_scripts tunMtu (.empty 0)).2 _ hcleanup).1
  rcases List.mem_append.mp hmem with hsetup | hcleanup
  · have hfilter : .deleteUpTo left chain body ∈
        (config.setup tunMtu).filter (fun command => command.chain = chain) :=
      List.mem_filter.mpr ⟨hsetup, decide_eq_true rfl⟩
    rw [config.filter_setup tunMtu hmanaged] at hfilter
    cases chain <;> simp [stale] at hfilter
    · exact ⟨hfilter.1, Or.inl rfl⟩
    · exact ⟨hfilter.1, Or.inr rfl⟩
  · have hfilter : .deleteUpTo left chain body ∈
        (config.cleanup tunMtu).filter (fun command => command.chain = chain) :=
      List.mem_filter.mpr ⟨hcleanup, decide_eq_true rfl⟩
    rw [config.filter_cleanup tunMtu hmanaged] at hfilter
    cases chain <;> simp [leftover] at hfilter
    · exact ⟨hfilter.1, Or.inl rfl⟩
    · exact ⟨hfilter.1, Or.inr rfl⟩

/-- The scripts are as they have to be, for up to ten NOTRACK rules. -/
theorem lawful {limit : ServerChain → Nat} (htwo : ∀ chain, 2 ≤ limit chain)
    (hten : limit .rawPrerouting ≤ 10 ∧ limit .rawOutput ≤ 10) :
    config.scripts.Lawful limit where
  safe tunMtu command hcommand rules := by
    rcases List.mem_append.mp hcommand with hsetup | hcleanup
    · exact (config.fits_scripts tunMtu rules).1 command hsetup
    · exact (config.fits_scripts tunMtu rules).2 command hcleanup
  bounded tunMtu left chain body hmem := by
    obtain ⟨rfl, hchain⟩ := config.deleteUpTo_of_mem hmem
    rcases hchain with rfl | rfl
    · exact hten.1
    · exact hten.2
  small tunMtu chain := by
    refine le_trans ?_ (htwo chain)
    cases chain <;> simp [scripts, target]
  setup_eq tunMtu chain hmanaged :=
    ⟨config.stale tunMtu chain, config.filter_setup tunMtu hmanaged,
      (config.removes_stale tunMtu chain _).1,
      fun _ hown => (config.dooms_own tunMtu hown).1⟩
  cleanup_eq tunMtu chain hmanaged := by
    have hcleanup : config.scripts.cleanup = config.cleanup := rfl
    rw [hcleanup, config.filter_cleanup tunMtu hmanaged]
    exact ⟨(config.removes_stale tunMtu chain []).2,
      fun _ hown => (config.dooms_own tunMtu hown).2⟩

/-- The tables as `setup_nat` and `cleanup_nat` see them. -/
def natTables (chains : ServerChain → RuleChain) : NatTables where
  postrouting := chains .natPostrouting
  postroutingHandle := config.chainHandle .natPostrouting
  forward := chains .filterForward
  forwardHandle := config.chainHandle .filterForward
  forwardDrops := config.forwardDrops

/-- The tables as the functions for the segment size see them. -/
def mangleTables (chains : ServerChain → RuleChain) : MangleTables where
  forward := chains .mangleForward
  forwardHandle := config.chainHandle .mangleForward
  output := chains .mangleOutput
  outputHandle := config.chainHandle .mangleOutput

/-- Scripts that nothing interrupts do what `setup_nat` and `cleanup_nat` do as
a whole. -/
theorem natTables_scripts (hnat : config.natEnabled = true) (tunMtu : UInt32)
    (chains : ServerChain → RuleChain) :
    config.natTables ((config.setup tunMtu).foldl
        config.scripts.afterCommand chains) =
      (config.natTables chains).setupNat config.tunSubnet config.wan ∧
    config.natTables ((config.cleanup tunMtu).foldl
        config.scripts.afterCommand chains) =
      (config.natTables chains).cleanupNat config.tunSubnet config.wan := by
  have hpostrouting : config.managed .natPostrouting := hnat
  have hforward : config.managed .filterForward := hnat
  simp only [natTables, RuleScripts.foldl_afterCommand]
  constructor
  · rw [config.filter_setup tunMtu hpostrouting,
      config.filter_setup tunMtu hforward]
    rfl
  · rw [config.filter_cleanup tunMtu hpostrouting,
      config.filter_cleanup tunMtu hforward]
    rfl

/-- The same for the segment size. -/
theorem mangleTables_scripts (tunMtu : UInt32)
    (chains : ServerChain → RuleChain) :
    config.mangleTables ((config.setup tunMtu).foldl
        config.scripts.afterCommand chains) =
      (config.mangleTables chains).clamped config.tunDev tunMtu ∧
    config.mangleTables ((config.cleanup tunMtu).foldl
        config.scripts.afterCommand chains) =
      (config.mangleTables chains).cleanupMssClamping config.tunDev tunMtu := by
  have hforward : config.managed .mangleForward := trivial
  have houtput : config.managed .mangleOutput := trivial
  simp only [mangleTables, RuleScripts.foldl_afterCommand]
  constructor
  · rw [config.filter_setup tunMtu hforward,
      config.filter_setup tunMtu houtput]
    rfl
  · rw [config.filter_cleanup tunMtu hforward,
      config.filter_cleanup tunMtu houtput]
    rfl

end FirewallConfig

/-- A host on which no server runs. -/
def ScriptHost.idle {C X : Type} (chains : C → RuleChain) (setting : X) :
    ScriptHost C X :=
  ⟨chains, .down, setting, []⟩

/-- A host with `eth0`, the subnet `10.0.1.0/24` and the device `redpill0`. -/
def sampleFirewall : FirewallConfig where
  xdp := true
  natEnabled := true
  tunSubnet := vpnSubnet
  canonical := by decide
  wan := eth0
  tunDev := redpill0
  chainHandle _ := 1
  forwardDrops := false

/-- A server dies in its first start, somebody adds a rule, and the next server
starts with another MTU. -/
def crashAndRestart : List (ScriptEvent ServerChain UInt32) :=
  [.start 1400, .command, .crash, .other (.append .rawOutput [.accept]),
    .start 1280]

end Redpill
