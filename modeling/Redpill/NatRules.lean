/-
The NAT rules of the server (`flush_nat_rules`, `setup_nat` and `cleanup_nat` of
`route.rs`).  The rules of earlier runs are found by the text of the subnet in
the printed lines, so the search also finds other rules whose lines hold that
text, and does not find the subnet where nft prints it differently.
-/
import Redpill.Firewall

namespace Redpill

/-- All interfaces `redpill...`, in the words of iptables. -/
def redpillPlus : IfaceName := ⟨"redpill+".toList, by decide, by decide⟩

/-- The same, in the words of nft. -/
def redpillStar : IfaceName := ⟨"redpill*".toList, by decide, by decide⟩

/-- The chains that the functions look at, each with its own handle. -/
structure NatTables where
  postrouting : RuleChain
  postroutingHandle : Nat
  forward : RuleChain
  forwardHandle : Nat
  forwardDrops : Bool

/-- The lines of POSTROUTING that are selected. -/
def natSelect (tunSubnet : Subnet) (line : Text) : Bool :=
  Words.contains line tunSubnet.text &&
    Words.contains line "masquerade".toList

/-- The lines of FORWARD that are selected. -/
def forwardSelect (wan : Interface) (line : Text) : Bool :=
  (Words.contains line redpillPlus.quoted ||
      Words.contains line redpillStar.quoted) &&
    Words.contains line wan.quoted && Words.contains line "accept".toList

def natHook : List Text :=
  ["nat".toList, "hook".toList, "postrouting".toList, "priority".toList,
    "srcnat;".toList, "policy".toList, "accept;".toList]

def forwardHook (drops : Bool) : List Text :=
  ["filter".toList, "hook".toList, "forward".toList, "priority".toList,
    "filter;".toList, "policy".toList,
    if drops then "drop;".toList else "accept;".toList]

/-- The rule `-s <subnet> -o <wan> -j MASQUERADE`. -/
def masqueradeRule (tunSubnet : Subnet) (wan : Interface) : List Clause :=
  [.interface false false wan.toIfaceName, .address true false tunSubnet.network,
    .counter 0 0, .masquerade]

/-- The rule `-i <wan> -o redpill+ -m state --state RELATED,ESTABLISHED`. -/
def replyRule (wan : Interface) : List Clause :=
  [.interface true false wan.toIfaceName, .interface false false redpillStar,
    .other ⟨"ct".toList, by decide, by decide, by decide⟩,
    .other ⟨"state".toList, by decide, by decide, by decide⟩,
    .other ⟨"related,established".toList, by decide, by decide, by decide⟩,
    .counter 0 0, .accept]

/-- The rule `-i redpill+ -o <wan> -j ACCEPT`. -/
def outboundRule (wan : Interface) : List Clause :=
  [.interface true false redpillStar, .interface false false wan.toIfaceName,
    .counter 0 0, .accept]

namespace NatTables

def flushNatRules (tunSubnet : Subnet) (wan : Interface) (tables : NatTables) :
    NatTables :=
  { tables with
    postrouting := tables.postrouting.flush (natSelect tunSubnet) ["nat".toList]
      ["POSTROUTING".toList] natHook tables.postroutingHandle
    forward := tables.forward.flush (forwardSelect wan) ["filter".toList]
      ["FORWARD".toList] (forwardHook tables.forwardDrops) tables.forwardHandle }

def setupNat (tunSubnet : Subnet) (wan : Interface) (tables : NatTables) :
    NatTables :=
  let tables := tables.flushNatRules tunSubnet wan
  { tables with
    postrouting := tables.postrouting.append (masqueradeRule tunSubnet wan)
    forward := (tables.forward.append (replyRule wan)).append
      (outboundRule wan) }

/-- The deletions after the flush may fail, which is ignored. -/
def cleanupNat (tunSubnet : Subnet) (wan : Interface) (tables : NatTables) :
    NatTables :=
  let tables := tables.flushNatRules tunSubnet wan
  let forward := (tables.forward.deleteFirst (replyRule wan)).getD
    tables.forward
  { tables with
    postrouting := (tables.postrouting.deleteFirst
      (masqueradeRule tunSubnet wan)).getD tables.postrouting
    forward := (forward.deleteFirst (outboundRule wan)).getD forward }

end NatTables

/-- A masquerade rule whose source match is the subnet. -/
def IsMasqueradeOf (tunSubnet : Subnet) (rule : Rule) : Prop :=
  .address true false tunSubnet.network ∈ rule.body ∧ .masquerade ∈ rule.body

instance (tunSubnet : Subnet) : DecidablePred (IsMasqueradeOf tunSubnet) :=
  fun _ => inferInstanceAs (Decidable (_ ∧ _))

/-- An accept rule between the redpill interfaces and the interface. -/
def IsRedpillAccept (wan : Interface) (rule : Rule) : Prop :=
  (MatchesInterface redpillPlus rule ∨ MatchesInterface redpillStar rule) ∧
    MatchesInterface wan.toIfaceName rule ∧ .accept ∈ rule.body

instance (wan : Interface) : DecidablePred (IsRedpillAccept wan) :=
  fun _ => inferInstanceAs (Decidable ((_ ∨ _) ∧ _ ∧ _))

/-- A word of the rule holds the text of the subnet, and one holds the text
`masquerade`. -/
def NamesSubnet (tunSubnet : Subnet) (rule : Rule) : Prop :=
  (∃ word ∈ rule.bodyWords, tunSubnet.text <:+: word) ∧
    ∃ word ∈ rule.bodyWords, "masquerade".toList <:+: word

instance (tunSubnet : Subnet) : DecidablePred (NamesSubnet tunSubnet) :=
  fun _ => inferInstanceAs (Decidable (_ ∧ _))

/-- A word of the rule holds the quoted name of the redpill interfaces, one
that of the interface, and one the text `accept`. -/
def NamesRedpill (wan : Interface) (rule : Rule) : Prop :=
  ((∃ word ∈ rule.bodyWords, redpillPlus.quoted <:+: word) ∨
      ∃ word ∈ rule.bodyWords, redpillStar.quoted <:+: word) ∧
    (∃ word ∈ rule.bodyWords, wan.quoted <:+: word) ∧
    ∃ word ∈ rule.bodyWords, "accept".toList <:+: word

instance (wan : Interface) : DecidablePred (NamesRedpill wan) :=
  fun _ => inferInstanceAs (Decidable ((_ ∨ _) ∧ _ ∧ _))

theorem IfaceName.contains_line (name : IfaceName) (rule : Rule) :
    Words.contains rule.line name.quoted = true ↔
      ∃ word ∈ rule.bodyWords, name.quoted <:+: word :=
  rule.contains_line name.printable_quoted name.quote_mem (by decide)
    (by decide) (by decide)

/-- The search in the lines of POSTROUTING. -/
theorem natSelect_line (tunSubnet : Subnet) (rule : Rule) :
    natSelect tunSubnet rule.line = decide (NamesSubnet tunSubnet rule) := by
  have hsubnet := rule.contains_line tunSubnet.printable_text
    (show '/' ∈ tunSubnet.text by simp [Subnet.text]) (by decide) (by decide)
    (by decide)
  have hmasquerade := rule.contains_line
    (show Printable "masquerade".toList by decide)
    (show 'm' ∈ "masquerade".toList by decide) (by decide) (by decide)
    (by decide)
  rw [Bool.eq_iff_iff, natSelect, Bool.and_eq_true, hsubnet, hmasquerade,
    decide_eq_true_iff]
  rfl

/-- The search in the lines of FORWARD. -/
theorem forwardSelect_line (wan : Interface) (rule : Rule) :
    forwardSelect wan rule.line = decide (NamesRedpill wan rule) := by
  have haccept := rule.contains_line (show Printable "accept".toList by decide)
    (show 'p' ∈ "accept".toList by decide) (by decide) (by decide) (by decide)
  rw [Bool.eq_iff_iff, forwardSelect, Bool.and_eq_true, Bool.and_eq_true,
    Bool.or_eq_true, redpillPlus.contains_line, redpillStar.contains_line,
    wan.toIfaceName.contains_line, haccept, decide_eq_true_iff, and_assoc]
  rfl

theorem decimal_length_le {m n : Nat} (hle : m ≤ n) :
    (decimal m).length ≤ (decimal n).length := by
  have hpos : 0 < (decimal n).length := List.length_pos_iff.mpr (decimal_ne_nil n)
  have hlt : n < 10 ^ (decimal n).length :=
    (Nat.length_toDigits_le_iff (by decide) hpos).mp (Nat.le_refl _)
  exact (Nat.length_toDigits_le_iff (by decide) hpos).mpr (by omega)

theorem Subnet.keepBits_le (bits : Nat) (octet : UInt8) :
    (keepBits bits octet).toNat ≤ octet.toNat := by
  rw [keepBits, UInt8.toNat_ofNat']
  exact Nat.le_trans (Nat.mod_le _ _) (Nat.div_mul_le_self _ _)

/-- The network is printed with at most as many characters as the subnet. -/
theorem Subnet.nftText_network_length_le (subnet : Subnet) :
    subnet.network.nftText.length ≤ subnet.text.length := by
  have ha := decimal_length_le (keepBits_le subnet.prefixLen subnet.addr.a)
  have hb := decimal_length_le (keepBits_le (subnet.prefixLen - 8) subnet.addr.b)
  have hc := decimal_length_le (keepBits_le (subnet.prefixLen - 16) subnet.addr.c)
  have hd := decimal_length_le (keepBits_le (subnet.prefixLen - 24) subnet.addr.d)
  unfold nftText
  split
  · simp only [text, network, Ipv4Addr.text, List.length_append,
      List.length_cons]
    omega
  · simp only [text, network, Ipv4Addr.text, List.length_append,
      List.length_cons]
    omega

/-- The subnet is written as nft prints its network: without host bits, and not
a single address. -/
def Subnet.Canonical (subnet : Subnet) : Prop :=
  subnet.network.nftText = subnet.text

instance (subnet : Subnet) : Decidable subnet.Canonical :=
  inferInstanceAs (Decidable (_ = _))

theorem Subnet.canonical_of_infix {subnet : Subnet}
    (hinside : subnet.text <:+: subnet.network.nftText) : subnet.Canonical :=
  (hinside.eq_of_length_le subnet.nftText_network_length_le).symm

example : Subnet.Canonical ⟨⟨10, 0, 1, 0⟩, 24, by decide, by decide⟩ := by
  decide

example : ¬ Subnet.Canonical ⟨⟨10, 0, 1, 0⟩, 16, by decide, by decide⟩ := by
  decide

theorem namesSubnet_of_isMasqueradeOf {tunSubnet : Subnet}
    (hcanonical : tunSubnet.Canonical) {rule : Rule}
    (hrule : IsMasqueradeOf tunSubnet rule) : NamesSubnet tunSubnet rule := by
  obtain ⟨hsource, hmasquerade⟩ := hrule
  have hnet : tunSubnet.network.nftText ∈ rule.bodyWords :=
    Rule.mem_bodyWords hsource (by simp [Clause.words, comparison])
  have haction : "masquerade".toList ∈ rule.bodyWords :=
    Rule.mem_bodyWords hmasquerade (by simp [Clause.words])
  rw [hcanonical] at hnet
  exact ⟨⟨_, hnet, List.infix_rfl⟩, ⟨_, haction, List.infix_rfl⟩⟩

theorem namesRedpill_of_isRedpillAccept {wan : Interface} {rule : Rule}
    (hrule : IsRedpillAccept wan rule) : NamesRedpill wan rule := by
  obtain ⟨hredpill, hwan, haccept⟩ := hrule
  have haction : "accept".toList ∈ rule.bodyWords :=
    Rule.mem_bodyWords haccept (by simp [Clause.words])
  refine ⟨?_, ⟨_, hwan.quoted_mem, List.infix_rfl⟩,
    ⟨_, haction, List.infix_rfl⟩⟩
  rcases hredpill with hplus | hstar
  · exact Or.inl ⟨_, hplus.quoted_mem, List.infix_rfl⟩
  · exact Or.inr ⟨_, hstar.quoted_mem, List.infix_rfl⟩

theorem namesRedpill_replyRule (wan : Interface) (handle : Nat) :
    NamesRedpill wan ⟨handle, replyRule wan⟩ :=
  namesRedpill_of_isRedpillAccept
    ⟨Or.inr (Or.inr (by simp [replyRule])), Or.inl (by simp [replyRule]),
      by simp [replyRule]⟩

theorem namesRedpill_outboundRule (wan : Interface) (handle : Nat) :
    NamesRedpill wan ⟨handle, outboundRule wan⟩ :=
  namesRedpill_of_isRedpillAccept
    ⟨Or.inr (Or.inl (by simp [outboundRule])),
      Or.inr (by simp [outboundRule]), by simp [outboundRule]⟩

/-- The rule that `setup_nat` adds is found again exactly if the subnet is
written as nft prints it. -/
theorem namesSubnet_masqueradeRule (tunSubnet : Subnet) (wan : Interface)
    (handle : Nat) :
    NamesSubnet tunSubnet ⟨handle, masqueradeRule tunSubnet wan⟩ ↔
      tunSubnet.Canonical := by
  have hslash : '/' ∈ tunSubnet.text := by simp [Subnet.text]
  constructor
  · rintro ⟨⟨word, hword, hinside⟩, _⟩
    have hmem : '/' ∈ word := hinside.subset hslash
    have hquoted : '/' ∉ wan.quoted := by
      simp [IfaceName.quoted, wan.no_slash]
    have hzero : '/' ∉ decimal 0 := by decide
    simp only [Rule.bodyWords, masqueradeRule, List.flatMap_cons,
      List.flatMap_nil, Clause.words, comparison, Bool.false_eq_true, if_false,
      if_true, List.cons_append, List.nil_append, List.append_nil,
      List.mem_cons, List.not_mem_nil, or_false] at hword
    rcases hword with rfl | rfl | rfl | rfl | rfl | rfl | rfl | rfl | rfl | rfl |
      rfl
    · exact absurd hmem (by decide)
    · exact absurd hmem hquoted
    · exact absurd hmem (by decide)
    · exact absurd hmem (by decide)
    · exact Subnet.canonical_of_infix hinside
    · exact absurd hmem (by decide)
    · exact absurd hmem (by decide)
    · exact absurd hmem hzero
    · exact absurd hmem (by decide)
    · exact absurd hmem hzero
    · exact absurd hmem (by decide)
  · intro hcanonical
    exact namesSubnet_of_isMasqueradeOf hcanonical
      ⟨by simp [masqueradeRule], by simp [masqueradeRule]⟩

namespace NatTables

variable (tunSubnet : Subnet) (wan : Interface) (tables : NatTables)

theorem flush_postrouting :
    (tables.flushNatRules tunSubnet wan).postrouting.rules =
        tables.postrouting.rules.filter
          (fun rule => decide (¬ NamesSubnet tunSubnet rule)) ∧
      (tables.flushNatRules tunSubnet wan).postrouting.nextHandle =
        tables.postrouting.nextHandle := by
  have hmasquerade := RuleChain.contains_frame
    (show Printable "masquerade".toList by decide)
    (show 'm' ∈ "masquerade".toList by decide) (by decide)
    tables.postroutingHandle
    (show ∀ word ∈ _ ++ ["nat".toList] ++ ["POSTROUTING".toList] ++ natHook, _
      by decide)
  have hflush := tables.postrouting.flush_rules
    (fun line hline => show natSelect tunSubnet line = false by
      rw [natSelect, hmasquerade line hline, Bool.and_false])
  simp only [natSelect_line, ← decide_not] at hflush
  exact hflush

theorem flush_forward :
    (tables.flushNatRules tunSubnet wan).forward.rules =
        tables.forward.rules.filter
          (fun rule => decide (¬ NamesRedpill wan rule)) ∧
      (tables.flushNatRules tunSubnet wan).forward.nextHandle =
        tables.forward.nextHandle := by
  have hframe : ∀ name : IfaceName, name = redpillPlus ∨ name = redpillStar →
      ∀ line ∈ RuleChain.opening ["filter".toList] ["FORWARD".toList]
        (forwardHook tables.forwardDrops) tables.forwardHandle ++
          RuleChain.closing,
        Words.contains line name.quoted = false := by
    intro name hname
    apply RuleChain.contains_frame name.printable_quoted name.quote_mem
      (by decide)
    rcases hname with rfl | rfl
    · cases tables.forwardDrops
      · decide
      · decide
    · cases tables.forwardDrops
      · decide
      · decide
  have hflush := tables.forward.flush_rules
    (fun line hline => show forwardSelect wan line = false by
      rw [forwardSelect, hframe redpillPlus (Or.inl rfl) line hline,
        hframe redpillStar (Or.inr rfl) line hline]
      rfl)
  simp only [forwardSelect_line, ← decide_not] at hflush
  exact hflush

theorem setup_postrouting :
    (tables.setupNat tunSubnet wan).postrouting.rules =
      (tables.flushNatRules tunSubnet wan).postrouting.rules ++
        [⟨(tables.flushNatRules tunSubnet wan).postrouting.nextHandle,
          masqueradeRule tunSubnet wan⟩] :=
  rfl

theorem setup_forward :
    ∃ reply outbound, (tables.setupNat tunSubnet wan).forward.rules =
      (tables.flushNatRules tunSubnet wan).forward.rules ++
        [⟨reply, replyRule wan⟩, ⟨outbound, outboundRule wan⟩] :=
  ⟨_, _, List.append_assoc _ _ _⟩

/-- The next flush takes back the rule of POSTROUTING if the subnet is written
as nft prints it, and else leaves it there. -/
theorem flush_setup_postrouting :
    ((tables.setupNat tunSubnet wan).flushNatRules tunSubnet
        wan).postrouting.rules =
      (tables.flushNatRules tunSubnet wan).postrouting.rules ++
        if tunSubnet.Canonical then []
        else [⟨(tables.flushNatRules tunSubnet wan).postrouting.nextHandle,
          masqueradeRule tunSubnet wan⟩] := by
  rw [(flush_postrouting tunSubnet wan _).1, setup_postrouting,
    List.filter_append, (flush_postrouting tunSubnet wan tables).1,
    List.filter_filter]
  by_cases hcanonical : tunSubnet.Canonical
  · simp [namesSubnet_masqueradeRule, hcanonical]
  · simp [namesSubnet_masqueradeRule, hcanonical]

/-- The next flush takes back the rules of FORWARD. -/
theorem flush_setup_forward :
    ((tables.setupNat tunSubnet wan).flushNatRules tunSubnet wan).forward.rules =
      (tables.flushNatRules tunSubnet wan).forward.rules := by
  obtain ⟨reply, outbound, hsetup⟩ := setup_forward tunSubnet wan tables
  rw [(flush_forward tunSubnet wan _).1, hsetup, List.filter_append,
    (flush_forward tunSubnet wan tables).1, List.filter_filter]
  simp [namesRedpill_replyRule, namesRedpill_outboundRule]

variable {tunSubnet}

/-- After any number of setups a flush leaves what it leaves at first. -/
theorem flush_iterate (hcanonical : tunSubnet.Canonical) (n : Nat) :
    (((setupNat tunSubnet wan)^[n] tables).flushNatRules tunSubnet
          wan).postrouting.rules =
        (tables.flushNatRules tunSubnet wan).postrouting.rules ∧
      (((setupNat tunSubnet wan)^[n] tables).flushNatRules tunSubnet
          wan).forward.rules =
        (tables.flushNatRules tunSubnet wan).forward.rules := by
  induction n with
  | zero => exact ⟨rfl, rfl⟩
  | succ n ih =>
      obtain ⟨hpostrouting, hforward⟩ := ih
      rw [Function.iterate_succ_apply', flush_setup_postrouting,
        flush_setup_forward, if_pos hcanonical, List.append_nil]
      exact ⟨hpostrouting, hforward⟩

/-- The rules of both chains without their handles. -/
def bodies (tables : NatTables) : List (List Clause) × List (List Clause) :=
  (tables.postrouting.rules.map Rule.body, tables.forward.rules.map Rule.body)

theorem bodies_setupNat :
    (tables.setupNat tunSubnet wan).bodies =
      ((tables.flushNatRules tunSubnet wan).bodies.1 ++
          [masqueradeRule tunSubnet wan],
        (tables.flushNatRules tunSubnet wan).bodies.2 ++
          [replyRule wan, outboundRule wan]) := by
  obtain ⟨reply, outbound, hsetup⟩ := setup_forward tunSubnet wan tables
  rw [bodies, setup_postrouting, hsetup, List.map_append, List.map_append]
  rfl

theorem bodies_iterate (hcanonical : tunSubnet.Canonical) (n : Nat) :
    ((setupNat tunSubnet wan)^[n + 1] tables).bodies =
      (tables.setupNat tunSubnet wan).bodies := by
  obtain ⟨hpostrouting, hforward⟩ := tables.flush_iterate wan hcanonical n
  rw [Function.iterate_succ_apply', bodies_setupNat, bodies_setupNat, bodies,
    bodies, hpostrouting, hforward]

/-- Every further setup adds one more rule to POSTROUTING if the subnet is
written otherwise. -/
theorem canonical_of_bodies
    (hsame : ((tables.setupNat tunSubnet wan).setupNat tunSubnet wan).bodies =
      (tables.setupNat tunSubnet wan).bodies) : tunSubnet.Canonical := by
  by_contra hcanonical
  rw [bodies_setupNat, bodies_setupNat, bodies, flush_setup_postrouting,
    if_neg hcanonical] at hsame
  have hlength := congrArg (fun bodies => bodies.1.length) hsame
  simp [bodies] at hlength

/-- A cleanup after a setup leaves rules that a first flush had left. -/
theorem cleanup_setup_subset (hcanonical : tunSubnet.Canonical) :
    ((tables.setupNat tunSubnet wan).cleanupNat tunSubnet
          wan).postrouting.rules ⊆ tables.postrouting.rules ∧
      ((tables.setupNat tunSubnet wan).cleanupNat tunSubnet wan).forward.rules ⊆
        tables.forward.rules := by
  constructor
  · intro rule hrule
    have hflushed := (RuleChain.deleteFirst_sublist _ _).subset hrule
    rw [flush_setup_postrouting, if_pos hcanonical, List.append_nil,
      (flush_postrouting tunSubnet wan tables).1] at hflushed
    exact List.mem_of_mem_filter hflushed
  · intro rule hrule
    have hflushed := (RuleChain.deleteFirst_sublist _ _).subset
      ((RuleChain.deleteFirst_sublist _ _).subset hrule)
    rw [flush_setup_forward, (flush_forward tunSubnet wan tables).1] at hflushed
    exact List.mem_of_mem_filter hflushed

end NatTables

/-- What the NAT functions are for: a flush removes exactly the rules of the
subnet and the interface, setups do not pile up, and a cleanup leaves only
rules that were there before the setup. -/
structure NatHygiene (tunSubnet : Subnet) (wan : Interface)
    (tables : NatTables) : Prop where
  flush_postrouting : (tables.flushNatRules tunSubnet wan).postrouting.rules =
    tables.postrouting.rules.filter
      fun rule => decide (¬ IsMasqueradeOf tunSubnet rule)
  flush_forward : (tables.flushNatRules tunSubnet wan).forward.rules =
    tables.forward.rules.filter fun rule => decide (¬ IsRedpillAccept wan rule)
  setup_again : ∀ n, ((NatTables.setupNat tunSubnet wan)^[n + 1] tables).bodies =
    (tables.setupNat tunSubnet wan).bodies
  cleanup_postrouting : ((tables.setupNat tunSubnet wan).cleanupNat tunSubnet
    wan).postrouting.rules ⊆ tables.postrouting.rules
  cleanup_forward : ((tables.setupNat tunSubnet wan).cleanupNat tunSubnet
    wan).forward.rules ⊆ tables.forward.rules

/-- The texts that are searched for are in the rules they are meant for, and
in no other rule of the tables. -/
structure Unambiguous (tunSubnet : Subnet) (wan : Interface)
    (tables : NatTables) : Prop where
  canonical : tunSubnet.Canonical
  postrouting : ∀ rule ∈ tables.postrouting.rules,
    NamesSubnet tunSubnet rule → IsMasqueradeOf tunSubnet rule
  forward : ∀ rule ∈ tables.forward.rules,
    NamesRedpill wan rule → IsRedpillAccept wan rule

theorem nat_hygiene_iff (tunSubnet : Subnet) (wan : Interface)
    (tables : NatTables) :
    NatHygiene tunSubnet wan tables ↔ Unambiguous tunSubnet wan tables := by
  constructor
  · intro hygiene
    have hpostrouting := hygiene.flush_postrouting
    have hforward := hygiene.flush_forward
    rw [(tables.flush_postrouting tunSubnet wan).1, filter_not_eq_iff]
      at hpostrouting
    rw [(tables.flush_forward tunSubnet wan).1, filter_not_eq_iff] at hforward
    exact
      { canonical := tables.canonical_of_bodies wan (hygiene.setup_again 1)
        postrouting := fun rule hrule => (hpostrouting rule hrule).mp
        forward := fun rule hrule => (hforward rule hrule).mp }
  · intro hclear
    obtain ⟨hleft, hright⟩ :=
      tables.cleanup_setup_subset wan hclear.canonical
    refine ⟨?_, ?_, tables.bodies_iterate wan hclear.canonical, hleft, hright⟩
    · rw [(tables.flush_postrouting tunSubnet wan).1, filter_not_eq_iff]
      intro rule hrule
      exact ⟨hclear.postrouting rule hrule,
        namesSubnet_of_isMasqueradeOf hclear.canonical⟩
    · rw [(tables.flush_forward tunSubnet wan).1, filter_not_eq_iff]
      intro rule hrule
      exact ⟨hclear.forward rule hrule, namesRedpill_of_isRedpillAccept⟩

/-- The interface `eth0`. -/
def eth0 : Interface :=
  { text := "eth0".toList
    nonempty := by decide
    plain := by decide
    no_slash := by decide
    literal := by decide }

/-- The subnet `10.0.1.0/24`. -/
def vpnSubnet : Subnet := ⟨⟨10, 0, 1, 0⟩, 24, by decide, by decide⟩

/-- The subnet `110.0.1.0/24`, whose text ends with that of the other. -/
def otherSubnet : Subnet := ⟨⟨110, 0, 1, 0⟩, 24, by decide, by decide⟩

/-- Tables with a masquerade rule for the other subnet. -/
def otherTables : NatTables where
  postrouting :=
    (RuleChain.empty 4).append (masqueradeRule otherSubnet eth0)
  postroutingHandle := 1
  forward := .empty 2
  forwardHandle := 1
  forwardDrops := false

/-- The flush for one subnet deletes the masquerade rule of the other. -/
theorem flush_nat_rules_deletes_other :
    (otherTables.flushNatRules vpnSubnet eth0).postrouting.rules = [] ∧
      (∀ rule ∈ otherTables.postrouting.rules,
        ¬ IsMasqueradeOf vpnSubnet rule) ∧
      ¬ NatHygiene vpnSubnet eth0 otherTables := by
  have hflush : (otherTables.flushNatRules vpnSubnet eth0).postrouting.rules =
      [] := by
    rw [(otherTables.flush_postrouting vpnSubnet eth0).1]
    decide
  have hother : ∀ rule ∈ otherTables.postrouting.rules,
      ¬ IsMasqueradeOf vpnSubnet rule := by
    decide
  refine ⟨hflush, hother, ?_⟩
  intro hygiene
  have hkept := hygiene.flush_postrouting
  rw [hflush, List.filter_eq_self.mpr fun rule hrule =>
    decide_eq_true (hother rule hrule)] at hkept
  cases hkept

end Redpill
