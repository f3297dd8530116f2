/-
The MSS clamping rules of the server (`flush_mss_rules_nft`,
`setup_mss_clamping` and `cleanup_mss_clamping` of `route.rs`).  Stale rules go
in two ways, by their specification as long as one is found, and by a search in
the printed lines, which also finds rules that only mention the segment size.
-/
import Redpill.Firewall

namespace Redpill

/-- The chains of the table `mangle`, each with its own handle. -/
structure MangleTables where
  forward : RuleChain
  forwardHandle : Nat
  output : RuleChain
  outputHandle : Nat

/-- The text `oifname "<dev>"`, or the same for incoming packets. -/
def matchText (incoming : Bool) (dev : IfaceName) : Text :=
  (if incoming then "iifname".toList else "oifname".toList) ++ ' ' :: dev.quoted

/-- The lines that are selected. -/
def mssSelect (tunDev : Interface) (line : Text) : Bool :=
  (Words.contains line (matchText false tunDev.toIfaceName) ||
      Words.contains line (matchText true tunDev.toIfaceName)) &&
    Words.contains line "maxseg".toList

def mangleForwardHook : List Text :=
  ["filter".toList, "hook".toList, "forward".toList, "priority".toList,
    "mangle;".toList, "policy".toList, "accept;".toList]

def mangleOutputHook : List Text :=
  ["route".toList, "hook".toList, "output".toList, "priority".toList,
    "mangle;".toList, "policy".toList, "accept;".toList]

/-- The segment size: `(tun_mtu as i32 - 60).max(512)`. -/
def mssOf (tunMtu : UInt32) : Nat :=
  (max (tunMtu.toBitVec - 60#32).toInt 512).toNat

/-- The rule `-o <dev> -p tcp --tcp-flags SYN,RST SYN -j TCPMSS --set-mss <mss>`,
or the same with `-i`. -/
def clampRule (incoming : Bool) (tunDev : Interface) (mss : Nat) :
    List Clause :=
  [.interface incoming false tunDev.toIfaceName,
    .other ⟨"meta".toList, by decide, by decide, by decide⟩,
    .other ⟨"l4proto".toList, by decide, by decide, by decide⟩,
    .other ⟨"tcp".toList, by decide, by decide, by decide⟩,
    .other ⟨"tcp".toList, by decide, by decide, by decide⟩,
    .other ⟨"flags".toList, by decide, by decide, by decide⟩,
    .other ⟨"&".toList, by decide, by decide, by decide⟩,
    .other ⟨"(syn|rst)".toList, by decide, by decide, by decide⟩,
    .other ⟨"==".toList, by decide, by decide, by decide⟩,
    .other ⟨"syn".toList, by decide, by decide, by decide⟩,
    .counter 0 0, .maxseg mss]

/-- The loop of `iptables -D` that ends when a deletion fails. -/
def RuleChain.deleteAll (body : List Clause) :
    Nat → RuleChain → Option RuleChain
  | 0, _ => none
  | fuel + 1, chain =>
      match chain.deleteFirst body with
      | some rest => deleteAll body fuel rest
      | none => some chain

namespace MangleTables

def flushMssRulesNft (tunDev : Interface) (tables : MangleTables) :
    MangleTables :=
  { tables with
    forward := tables.forward.flush (mssSelect tunDev) ["mangle".toList]
      ["FORWARD".toList] mangleForwardHook tables.forwardHandle
    output := tables.output.flush (mssSelect tunDev) ["mangle".toList]
      ["OUTPUT".toList] mangleOutputHook tables.outputHandle }

/-- Each of the delete loops runs at most `fuel` times; `none` says that one of
them has not ended. -/
def setupMssClamping (fuel : Nat) (tunDev : Interface) (tunMtu : UInt32)
    (tables : MangleTables) : Option MangleTables := do
  let mss := mssOf tunMtu
  let forward ← tables.forward.deleteAll (clampRule false tunDev mss) fuel
  let forward ← forward.deleteAll (clampRule true tunDev mss) fuel
  let output ← tables.output.deleteAll (clampRule false tunDev mss) fuel
  let tables := flushMssRulesNft tunDev
    { tables with forward := forward, output := output }
  return { tables with
    forward := (tables.forward.append (clampRule false tunDev mss)).append
      (clampRule true tunDev mss)
    output := tables.output.append (clampRule false tunDev mss) }

/-- The deletions after the flush may fail, which is ignored. -/
def cleanupMssClamping (tunDev : Interface) (tunMtu : UInt32)
    (tables : MangleTables) : MangleTables :=
  let tables := tables.flushMssRulesNft tunDev
  let mss := mssOf tunMtu
  let forward := (tables.forward.deleteFirst
    (clampRule false tunDev mss)).getD tables.forward
  { tables with
    forward := (forward.deleteFirst (clampRule true tunDev mss)).getD forward
    output := (tables.output.deleteFirst
      (clampRule false tunDev mss)).getD tables.output }

end MangleTables

def Clause.setsMaxseg : Clause → Bool
  | .maxseg _ => true
  | _ => false

/-- A clamp rule of the device: it matches the device and sets the segment
size. -/
def ClampFor (tunDev : Interface) (rule : Rule) : Prop :=
  MatchesInterface tunDev.toIfaceName rule ∧
    ∃ clause ∈ rule.body, clause.setsMaxseg = true

instance (tunDev : Interface) : DecidablePred (ClampFor tunDev) :=
  fun _ => inferInstanceAs (Decidable (_ ∧ _))

/-- The line of the rule has a word that ends with `oifname` or `iifname`
before one that begins with the quoted device, and a word that holds the text
`maxseg`. -/
def NamesClamp (tunDev : Interface) (rule : Rule) : Prop :=
  (Words.Adjacent "oifname".toList tunDev.quoted rule.words ∨
      Words.Adjacent "iifname".toList tunDev.quoted rule.words) ∧
    ∃ word ∈ rule.bodyWords, "maxseg".toList <:+: word

instance (tunDev : Interface) : DecidablePred (NamesClamp tunDev) :=
  fun _ => inferInstanceAs (Decidable ((_ ∨ _) ∧ _))

/-- The search in the lines of the chains. -/
theorem mssSelect_line (tunDev : Interface) (rule : Rule) :
    mssSelect tunDev rule.line = decide (NamesClamp tunDev rule) := by
  have hout := rule.contains_pair (show Printable "oifname".toList by decide)
    tunDev.printable_quoted
  have hin := rule.contains_pair (show Printable "iifname".toList by decide)
    tunDev.printable_quoted
  have hmaxseg := rule.contains_line (show Printable "maxseg".toList by decide)
    (show 'm' ∈ "maxseg".toList by decide) (by decide) (by decide) (by decide)
  rw [Bool.eq_iff_iff, mssSelect, Bool.and_eq_true, Bool.or_eq_true, matchText,
    matchText, if_neg (by decide), if_pos rfl, hout, hin, hmaxseg,
    decide_eq_true_iff]
  rfl

namespace RuleChain

variable (body : List Clause)

/-- The chain without the rules that have the specification. -/
def without (chain : RuleChain) : RuleChain :=
  chain.keep (chain.rules.filter fun rule =>
    decide (rule.spec ≠ body.map Clause.uncounted)) List.filter_sublist

/-- The delete loop ends after at most one round for each rule and one more,
and removes all rules with the specification. -/
theorem deleteAll_eq {fuel : Nat} {chain : RuleChain}
    (henough : chain.rules.length < fuel) :
    chain.deleteAll body fuel = some (chain.without body) := by
  induction fuel generalizing chain with
  | zero => omega
  | succ fuel ih =>
      rw [deleteAll]
      by_cases hfound : ∃ rule ∈ chain.rules, rule.spec = body.map Clause.uncounted
      · obtain ⟨rest, first, found, second, hdelete, hnext, hrest, hrules, hspec⟩ :=
          chain.deleteFirst_eq_some hfound
        have hshorter : rest.rules.length < fuel := by
          rw [hrules] at henough
          rw [hrest]
          simp only [List.length_append, List.length_cons] at henough ⊢
          omega
        have hwithout : rest.without body = chain.without body := by
          apply RuleChain.ext
          · simp [without, keep, hrest, hrules, hspec]
          · exact hnext
        rw [hdelete, ← hwithout]
        exact ih hshorter
      · have hnone : ∀ rule ∈ chain.rules,
            rule.spec ≠ body.map Clause.uncounted := by
          intro rule hrule hspec
          exact hfound ⟨rule, hrule, hspec⟩
        have hwithout : chain.without body = chain := by
          apply RuleChain.ext
          · exact List.filter_eq_self.mpr fun rule hrule =>
              decide_eq_true (hnone rule hrule)
          · rfl
        rw [chain.deleteFirst_eq_none hnone, hwithout]

end RuleChain

/-- An interface match is printed as two words next to each other. -/
theorem Rule.adjacent_of_mem {rule : Rule} {incoming : Bool} {name : IfaceName}
    (hclause : .interface incoming false name ∈ rule.body) :
    Words.Adjacent (if incoming then "iifname".toList else "oifname".toList)
      name.quoted rule.words := by
  obtain ⟨first, second, hbody⟩ := List.append_of_mem hclause
  have hwords : rule.words = first.flatMap Clause.words ++
      (if incoming then "iifname".toList else "oifname".toList) ::
        name.quoted :: (second.flatMap Clause.words ++
          ["#".toList, "handle".toList, decimal rule.handle]) := by
    rw [Rule.words, Rule.bodyWords, hbody, List.flatMap_append,
      List.flatMap_cons, List.append_assoc, List.append_assoc]
    rfl
  rw [hwords]
  exact Words.adjacent_append_cons List.suffix_rfl List.prefix_rfl _ _

theorem namesClamp_of_clampFor {tunDev : Interface} {rule : Rule}
    (hrule : ClampFor tunDev rule) : NamesClamp tunDev rule := by
  obtain ⟨hmatches, clause, hclause, hsets⟩ := hrule
  constructor
  · rcases hmatches with hin | hout
    · exact Or.inr (Rule.adjacent_of_mem hin)
    · exact Or.inl (Rule.adjacent_of_mem hout)
  · cases clause with
    | maxseg size =>
        exact ⟨_, Rule.mem_bodyWords hclause (by simp [Clause.words]),
          List.infix_rfl⟩
    | _ => cases hsets

theorem clampFor_clampRule (incoming : Bool) (tunDev : Interface)
    (mss handle : Nat) :
    ClampFor tunDev ⟨handle, clampRule incoming tunDev mss⟩ := by
  constructor
  · cases incoming
    · exact Or.inr (by simp [clampRule])
    · exact Or.inl (by simp [clampRule])
  · exact ⟨.maxseg mss, by simp [clampRule], rfl⟩

/-- The rules that the delete loops remove are clamp rules of the device. -/
theorem clampFor_of_spec {incoming : Bool} {tunDev : Interface} {mss : Nat}
    {rule : Rule}
    (hspec : rule.spec = (clampRule incoming tunDev mss).map Clause.uncounted) :
    ClampFor tunDev rule := by
  have hmatch : .interface incoming false tunDev.toIfaceName ∈ rule.spec := by
    rw [hspec]
    simp [clampRule, Clause.uncounted]
  have hmaxseg : .maxseg mss ∈ rule.spec := by
    rw [hspec]
    simp [clampRule, Clause.uncounted]
  rw [Rule.mem_spec (by simp)] at hmatch hmaxseg
  refine ⟨?_, .maxseg mss, hmaxseg, rfl⟩
  cases incoming
  · exact Or.inr hmatch
  · exact Or.inl hmatch

/-- A flush of either chain removes the rules that name a clamp. -/
theorem RuleChain.flush_mssSelect (chain : RuleChain) (tunDev : Interface)
    {name hook : List Text} (handle : Nat)
    (hfixed : ∀ word ∈ ["table".toList, "ip".toList, "chain".toList,
      "\x7b".toList, "\x7d".toList, "#".toList, "handle".toList,
      "type".toList] ++ ["mangle".toList] ++ name ++ hook,
      ¬ "maxseg".toList <:+: word) :
    (chain.flush (mssSelect tunDev) ["mangle".toList] name hook handle).rules =
        chain.rules.filter (fun rule => decide (¬ NamesClamp tunDev rule)) ∧
      (chain.flush (mssSelect tunDev) ["mangle".toList] name hook
        handle).nextHandle = chain.nextHandle := by
  have hmaxseg := RuleChain.contains_frame
    (show Printable "maxseg".toList by decide)
    (show 'm' ∈ "maxseg".toList by decide) (by decide) handle hfixed
  have hflush := chain.flush_rules
    (fun line hline => show mssSelect tunDev line = false by
      rw [mssSelect, hmaxseg line hline, Bool.and_false])
  simp only [mssSelect_line, ← decide_not] at hflush
  exact hflush

/-- The flush leaves the same rules whether or not the delete loops ran. -/
theorem RuleChain.filter_without (chain : RuleChain) (incoming : Bool)
    (tunDev : Interface) (mss : Nat) :
    (chain.without (clampRule incoming tunDev mss)).rules.filter
        (fun rule => decide (¬ NamesClamp tunDev rule)) =
      chain.rules.filter (fun rule => decide (¬ NamesClamp tunDev rule)) := by
  change List.filter _ (List.filter _ chain.rules) = _
  rw [List.filter_filter]
  apply List.filter_congr
  intro rule _
  by_cases hnames : NamesClamp tunDev rule
  · simp [hnames]
  · have hspec : rule.spec ≠
        (clampRule incoming tunDev mss).map Clause.uncounted :=
      fun hspec => hnames (namesClamp_of_clampFor (clampFor_of_spec hspec))
    simp [hnames, hspec]

section Clamps

variable {tunDev : Interface} (rules : List Rule) {clamps : List Rule}
  (hclamps : ∀ rule ∈ clamps, ClampFor tunDev rule)

include hclamps

/-- The clamp rules that were added are gone after the next flush. -/
theorem filter_names_append :
    (rules.filter (fun rule => decide (¬ NamesClamp tunDev rule)) ++
        clamps).filter (fun rule => decide (¬ NamesClamp tunDev rule)) =
      rules.filter (fun rule => decide (¬ NamesClamp tunDev rule)) := by
  have hgone : clamps.filter
      (fun rule => decide (¬ NamesClamp tunDev rule)) = [] := by
    rw [List.filter_eq_nil_iff]
    intro rule hrule
    simpa using namesClamp_of_clampFor (hclamps rule hrule)
  rw [List.filter_append, hgone, List.append_nil, List.filter_filter]
  simp

theorem filter_clamp_append :
    (rules.filter (fun rule => decide (¬ NamesClamp tunDev rule)) ++
        clamps).filter (fun rule => decide (ClampFor tunDev rule)) =
      clamps := by
  have hnone : (rules.filter
      (fun rule => decide (¬ NamesClamp tunDev rule))).filter
        (fun rule => decide (ClampFor tunDev rule)) = [] := by
    rw [List.filter_eq_nil_iff]
    intro rule hrule
    have hnames := of_decide_eq_true (List.mem_filter.mp hrule).2
    simpa using fun hclamp => hnames (namesClamp_of_clampFor hclamp)
  rw [List.filter_append, hnone, List.nil_append, List.filter_eq_self]
  intro rule hrule
  exact decide_eq_true (hclamps rule hrule)

/-- The other rules are all kept exactly if no other rule names a clamp. -/
theorem filter_other_append_iff :
    (rules.filter (fun rule => decide (¬ NamesClamp tunDev rule)) ++
          clamps).filter (fun rule => decide (¬ ClampFor tunDev rule)) =
        rules.filter (fun rule => decide (¬ ClampFor tunDev rule)) ↔
      ∀ rule ∈ rules, NamesClamp tunDev rule → ClampFor tunDev rule := by
  have hnone : clamps.filter
      (fun rule => decide (¬ ClampFor tunDev rule)) = [] := by
    rw [List.filter_eq_nil_iff]
    intro rule hrule
    simpa using hclamps rule hrule
  have hothers : (rules.filter
      (fun rule => decide (¬ NamesClamp tunDev rule))).filter
        (fun rule => decide (¬ ClampFor tunDev rule)) =
      rules.filter (fun rule => decide (¬ NamesClamp tunDev rule)) := by
    rw [List.filter_eq_self]
    intro rule hrule
    have hnames := of_decide_eq_true (List.mem_filter.mp hrule).2
    exact decide_eq_true fun hclamp => hnames (namesClamp_of_clampFor hclamp)
  rw [List.filter_append, hnone, List.append_nil, hothers, filter_not_eq_iff]
  constructor
  · intro hiff rule hrule
    exact (hiff rule hrule).mp
  · intro honly rule hrule
    exact ⟨honly rule hrule, namesClamp_of_clampFor⟩

end Clamps

namespace MangleTables

variable (tunDev : Interface) (tunMtu : UInt32) (tables : MangleTables)

/-- The chains after the delete loops. -/
def unlooped : MangleTables :=
  { tables with
    forward := (tables.forward.without
      (clampRule false tunDev (mssOf tunMtu))).without
        (clampRule true tunDev (mssOf tunMtu))
    output := tables.output.without (clampRule false tunDev (mssOf tunMtu)) }

/-- What `setup_mss_clamping` gives once its loops have ended. -/
def clamped : MangleTables :=
  let flushed := (tables.unlooped tunDev tunMtu).flushMssRulesNft tunDev
  { flushed with
    forward := (flushed.forward.append
      (clampRule false tunDev (mssOf tunMtu))).append
        (clampRule true tunDev (mssOf tunMtu))
    output := flushed.output.append (clampRule false tunDev (mssOf tunMtu)) }

theorem setupMssClamping_eq {fuel : Nat}
    (hforward : tables.forward.rules.length < fuel)
    (houtput : tables.output.rules.length < fuel) :
    tables.setupMssClamping fuel tunDev tunMtu =
      some (tables.clamped tunDev tunMtu) := by
  have hsecond : (tables.forward.without
      (clampRule false tunDev (mssOf tunMtu))).rules.length < fuel :=
    Nat.lt_of_le_of_lt (List.length_filter_le _ _) hforward
  simp only [setupMssClamping, RuleChain.deleteAll_eq _ hforward,
    RuleChain.deleteAll_eq _ hsecond, RuleChain.deleteAll_eq _ houtput,
    Option.bind_eq_bind, Option.bind_some]
  rfl

theorem flush_rules :
    (tables.flushMssRulesNft tunDev).forward.rules =
        tables.forward.rules.filter
          (fun rule => decide (¬ NamesClamp tunDev rule)) ∧
      (tables.flushMssRulesNft tunDev).output.rules =
        tables.output.rules.filter
          (fun rule => decide (¬ NamesClamp tunDev rule)) := by
  constructor
  · exact (tables.forward.flush_mssSelect tunDev _ (by decide)).1
  · exact (tables.output.flush_mssSelect tunDev _ (by decide)).1

theorem clamped_forward :
    ∃ first second, (tables.clamped tunDev tunMtu).forward.rules =
      tables.forward.rules.filter
          (fun rule => decide (¬ NamesClamp tunDev rule)) ++
        [⟨first, clampRule false tunDev (mssOf tunMtu)⟩,
          ⟨second, clampRule true tunDev (mssOf tunMtu)⟩] := by
  have hflushed : ((tables.unlooped tunDev tunMtu).flushMssRulesNft
      tunDev).forward.rules = _ := (flush_rules tunDev _).1
  rw [unlooped, RuleChain.filter_without, RuleChain.filter_without] at hflushed
  rw [← hflushed]
  exact ⟨_, _, List.append_assoc _ _ _⟩

theorem clamped_output :
    ∃ handle, (tables.clamped tunDev tunMtu).output.rules =
      tables.output.rules.filter
          (fun rule => decide (¬ NamesClamp tunDev rule)) ++
        [⟨handle, clampRule false tunDev (mssOf tunMtu)⟩] := by
  have hflushed : ((tables.unlooped tunDev tunMtu).flushMssRulesNft
      tunDev).output.rules = _ := (flush_rules tunDev _).2
  rw [unlooped, RuleChain.filter_without] at hflushed
  rw [← hflushed]
  exact ⟨_, rfl⟩

/-- The rules of both chains without their handles. -/
def bodies (tables : MangleTables) : List (List Clause) × List (List Clause) :=
  (tables.forward.rules.map Rule.body, tables.output.rules.map Rule.body)

theorem bodies_clamped :
    (tables.clamped tunDev tunMtu).bodies =
      ((tables.forward.rules.filter
            (fun rule => decide (¬ NamesClamp tunDev rule))).map Rule.body ++
          [clampRule false tunDev (mssOf tunMtu),
            clampRule true tunDev (mssOf tunMtu)],
        (tables.output.rules.filter
            (fun rule => decide (¬ NamesClamp tunDev rule))).map Rule.body ++
          [clampRule false tunDev (mssOf tunMtu)]) := by
  obtain ⟨first, second, hforward⟩ := tables.clamped_forward tunDev tunMtu
  obtain ⟨handle, houtput⟩ := tables.clamped_output tunDev tunMtu
  rw [bodies, hforward, houtput, List.map_append, List.map_append]
  rfl

theorem bodies_clamped_clamped :
    ((tables.clamped tunDev tunMtu).clamped tunDev tunMtu).bodies =
      (tables.clamped tunDev tunMtu).bodies := by
  obtain ⟨first, second, hforward⟩ := tables.clamped_forward tunDev tunMtu
  obtain ⟨handle, houtput⟩ := tables.clamped_output tunDev tunMtu
  rw [bodies_clamped, bodies_clamped, hforward, houtput, filter_names_append,
    filter_names_append]
  · simp [clampFor_clampRule]
  · simp [clampFor_clampRule]

/-- No clamp rule of the device is left. -/
def Unclamped (tables : MangleTables) : Prop :=
  ∀ rule ∈ tables.forward.rules ++ tables.output.rules, ¬ ClampFor tunDev rule

theorem unclamped_cleanup :
    (tables.cleanupMssClamping tunDev tunMtu).Unclamped tunDev := by
  obtain ⟨hforward, houtput⟩ := tables.flush_rules tunDev
  intro rule hrule hclamp
  have hgone : ∀ rules : List Rule, rule ∉ rules.filter
      (fun rule => decide (¬ NamesClamp tunDev rule)) := by
    intro rules hmem
    exact of_decide_eq_true (List.mem_filter.mp hmem).2
      (namesClamp_of_clampFor hclamp)
  rcases List.mem_append.mp hrule with hrule | hrule
  · have hflushed := (RuleChain.deleteFirst_sublist _ _).subset
      ((RuleChain.deleteFirst_sublist _ _).subset hrule)
    rw [hforward] at hflushed
    exact hgone _ hflushed
  · have hflushed := (RuleChain.deleteFirst_sublist _ _).subset hrule
    rw [houtput] at hflushed
    exact hgone _ hflushed

end MangleTables

/-- The size that the MTU allows is also the one that is set, except where the
MTU does not fit the signed arithmetic. -/
theorem mssOf_eq_iff (tunMtu : UInt32) :
    mssOf tunMtu = max (tunMtu.toNat - 60) 512 ↔
      tunMtu.toNat < 2 ^ 31 + 60 := by
  have hlt := tunMtu.toNat_lt
  have hnat : (tunMtu.toBitVec - 60#32).toNat =
      (2 ^ 32 - 60 + tunMtu.toNat) % 2 ^ 32 :=
    BitVec.toNat_sub _ _
  rw [mssOf, BitVec.toInt_eq_toNat_cond, hnat]
  split
  · omega
  · omega

section Hygiene

variable (tunDev : Interface) (tunMtu : UInt32)

/-- The call ends with these tables: its delete loops end. -/
def Returns (tables after : MangleTables) : Prop :=
  ∃ bound, ∀ fuel, bound ≤ fuel →
    tables.setupMssClamping fuel tunDev tunMtu = some after

theorem returns_iff {tables after : MangleTables} :
    Returns tunDev tunMtu tables after ↔
      after = tables.clamped tunDev tunMtu := by
  constructor
  · rintro ⟨bound, hreturns⟩
    have hfuel := hreturns (bound + tables.forward.rules.length +
      tables.output.rules.length + 1) (by omega)
    rw [tables.setupMssClamping_eq tunDev tunMtu (by omega) (by omega)] at hfuel
    exact (Option.some.inj hfuel).symm
  · rintro rfl
    refine ⟨tables.forward.rules.length + tables.output.rules.length + 1, ?_⟩
    intro fuel hfuel
    exact tables.setupMssClamping_eq tunDev tunMtu (by omega) (by omega)

/-- There are three clamp rules of the device, with the size that the MTU
allows, and the other rules are as before. -/
structure ClampedOnce (tables after : MangleTables) : Prop where
  forward : (after.forward.rules.filter
      fun rule => decide (ClampFor tunDev rule)).map Rule.body =
    [clampRule false tunDev (max (tunMtu.toNat - 60) 512),
      clampRule true tunDev (max (tunMtu.toNat - 60) 512)]
  output : (after.output.rules.filter
      fun rule => decide (ClampFor tunDev rule)).map Rule.body =
    [clampRule false tunDev (max (tunMtu.toNat - 60) 512)]
  forward_others : (after.forward.rules.filter
      fun rule => decide (¬ ClampFor tunDev rule)) =
    tables.forward.rules.filter fun rule => decide (¬ ClampFor tunDev rule)
  output_others : (after.output.rules.filter
      fun rule => decide (¬ ClampFor tunDev rule)) =
    tables.output.rules.filter fun rule => decide (¬ ClampFor tunDev rule)

/-- What the clamping functions are for: a setup ends and replaces the clamp
rules of the device, a second one changes nothing but handles, and a cleanup
after either leaves no clamp rule. -/
def ClampHygiene (tables : MangleTables) : Prop :=
  ∃ after again, Returns tunDev tunMtu tables after ∧
    ClampedOnce tunDev tunMtu tables after ∧
    Returns tunDev tunMtu after again ∧ again.bodies = after.bodies ∧
    (after.cleanupMssClamping tunDev tunMtu).Unclamped tunDev ∧
    (again.cleanupMssClamping tunDev tunMtu).Unclamped tunDev

theorem clampedOnce_iff (tables : MangleTables) :
    ClampedOnce tunDev tunMtu tables (tables.clamped tunDev tunMtu) ↔
      tunMtu.toNat < 2 ^ 31 + 60 ∧
        (∀ rule ∈ tables.forward.rules,
          NamesClamp tunDev rule → ClampFor tunDev rule) ∧
        ∀ rule ∈ tables.output.rules,
          NamesClamp tunDev rule → ClampFor tunDev rule := by
  obtain ⟨first, second, hforward⟩ := tables.clamped_forward tunDev tunMtu
  obtain ⟨handle, houtput⟩ := tables.clamped_output tunDev tunMtu
  have hboth : ∀ rule ∈ [⟨first, clampRule false tunDev (mssOf tunMtu)⟩,
      ⟨second, clampRule true tunDev (mssOf tunMtu)⟩],
      ClampFor tunDev rule := by
    simp [clampFor_clampRule]
  have hone : ∀ rule ∈ [⟨handle, clampRule false tunDev (mssOf tunMtu)⟩],
      ClampFor tunDev rule := by
    simp [clampFor_clampRule]
  constructor
  · intro honce
    have hsize := honce.output
    have hforwardOthers := honce.forward_others
    have houtputOthers := honce.output_others
    rw [houtput, filter_clamp_append _ hone] at hsize
    rw [hforward, filter_other_append_iff _ hboth] at hforwardOthers
    rw [houtput, filter_other_append_iff _ hone] at houtputOthers
    refine ⟨(mssOf_eq_iff tunMtu).mp ?_, hforwardOthers, houtputOthers⟩
    simpa [clampRule] using hsize
  · rintro ⟨hmtu, hforwardOthers, houtputOthers⟩
    have hsize := (mssOf_eq_iff tunMtu).mpr hmtu
    refine ⟨?_, ?_, ?_, ?_⟩
    · rw [hforward, filter_clamp_append _ hboth, hsize]
      rfl
    · rw [houtput, filter_clamp_append _ hone, hsize]
      rfl
    · rw [hforward]
      exact (filter_other_append_iff _ hboth).mpr hforwardOthers
    · rw [houtput]
      exact (filter_other_append_iff _ hone).mpr houtputOthers

theorem clamp_hygiene_iff (tables : MangleTables) :
    ClampHygiene tunDev tunMtu tables ↔
      tunMtu.toNat < 2 ^ 31 + 60 ∧
        (∀ rule ∈ tables.forward.rules,
          NamesClamp tunDev rule → ClampFor tunDev rule) ∧
        ∀ rule ∈ tables.output.rules,
          NamesClamp tunDev rule → ClampFor tunDev rule := by
  rw [← clampedOnce_iff]
  constructor
  · rintro ⟨after, again, hreturns, honce, _⟩
    rw [returns_iff] at hreturns
    rw [← hreturns]
    exact honce
  · intro honce
    refine ⟨_, _, (returns_iff tunDev tunMtu).mpr rfl, honce,
      (returns_iff tunDev tunMtu).mpr rfl,
      tables.bodies_clamped_clamped tunDev tunMtu,
      MangleTables.unclamped_cleanup tunDev tunMtu _,
      MangleTables.unclamped_cleanup tunDev tunMtu _⟩

end Hygiene

/-- The interface `redpill0`. -/
def redpill0 : Interface :=
  { text := "redpill0".toList
    nonempty := by decide
    plain := by decide
    no_slash := by decide
    literal := by decide }

/-- An interface whose name holds the text `maxseg`. -/
def maxseg0 : Interface :=
  { text := "maxseg0".toList
    nonempty := by decide
    plain := by decide
    no_slash := by decide
    literal := by decide }

/-- A rule that drops connections to `redpill0` with a small segment size. -/
def dropRule : List Clause :=
  [.interface false false redpill0.toIfaceName,
    .other ⟨"tcp".toList, by decide, by decide, by decide⟩,
    .other ⟨"option".toList, by decide, by decide, by decide⟩,
    .other ⟨"maxseg".toList, by decide, by decide, by decide⟩,
    .other ⟨"size".toList, by decide, by decide, by decide⟩,
    .other ⟨"1-500".toList, by decide, by decide, by decide⟩,
    .counter 0 0,
    .other ⟨"drop".toList, by decide, by decide, by decide⟩]

/-- A rule that accepts all packets to `maxseg0`. -/
def acceptRule : List Clause :=
  [.interface false false maxseg0.toIfaceName, .counter 0 0, .accept]

/-- Tables whose only rule is in FORWARD. -/
def oneRule (body : List Clause) : MangleTables where
  forward := (RuleChain.empty 7).append body
  forwardHandle := 1
  output := .empty 2
  outputHandle := 1

/-- A rule that names a clamp and is none breaks the tables it stands in. -/
theorem not_clampHygiene_oneRule {tunDev : Interface} {tunMtu : UInt32}
    {body : List Clause} (hnames : NamesClamp tunDev ⟨7, body⟩)
    (hother : ¬ ClampFor tunDev ⟨7, body⟩) :
    ¬ ClampHygiene tunDev tunMtu (oneRule body) := by
  rintro ⟨after, again, hreturns, honce, _⟩
  rw [returns_iff] at hreturns
  rw [hreturns, clampedOnce_iff] at honce
  obtain ⟨_, hforward, _⟩ := honce
  exact hother (hforward ⟨7, body⟩ List.mem_cons_self hnames)

/-- Neither rule sets a segment size, and both are deleted. -/
theorem setup_mss_clamping_deletes_other :
    (¬ ClampFor redpill0 ⟨7, dropRule⟩ ∧
        ¬ ClampHygiene redpill0 1400 (oneRule dropRule)) ∧
      ¬ ClampFor maxseg0 ⟨7, acceptRule⟩ ∧
        ¬ ClampHygiene maxseg0 1400 (oneRule acceptRule) := by
  have hdrop : ¬ ClampFor redpill0 ⟨7, dropRule⟩ := by decide
  have haccept : ¬ ClampFor maxseg0 ⟨7, acceptRule⟩ := by decide
  exact ⟨⟨hdrop, not_clampHygiene_oneRule (by decide) hdrop⟩, haccept,
    not_clampHygiene_oneRule (by decide) haccept⟩

end Redpill
