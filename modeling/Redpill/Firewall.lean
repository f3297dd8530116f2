/-
A chain of firewall rules as the commands of `route.rs` see it: `nft -a list`
prints one rule a line with its handle at the end, `nft delete` takes a handle,
`iptables -A` appends a rule and `iptables -D` deletes the first that matches
exactly.  The rules to delete are found by a search in the printed lines.
-/
import Redpill.Packet
import Redpill.Users
import Redpill.Words

namespace Redpill

/-- A property of the characters of a text is decided on these characters, not
on all that exist. -/
instance decidableForallMemText (p : Char → Prop) [DecidablePred p]
    (text : Text) : Decidable (∀ c ∈ text, p c) :=
  List.decidableBAll p text

def decimal (n : Nat) : Text := Nat.toDigits 10 n

def Ipv4Addr.text (ip : Ipv4Addr) : Text :=
  decimal ip.a.toNat ++ '.' :: (decimal ip.b.toNat ++ '.' ::
    (decimal ip.c.toNat ++ '.' :: decimal ip.d.toNat))

/-- An address with the length of its network part. -/
structure Subnet where
  addr : Ipv4Addr
  prefixLen : Nat
  pos : 1 ≤ prefixLen
  le : prefixLen ≤ 32
deriving DecidableEq

namespace Subnet

/-- The text that the server passes: address, slash and length. -/
def text (subnet : Subnet) : Text :=
  subnet.addr.text ++ '/' :: decimal subnet.prefixLen

/-- The first bits of an octet, the others zero. -/
def keepBits (bits : Nat) (octet : UInt8) : UInt8 :=
  UInt8.ofNat (octet.toNat / 2 ^ (8 - bits) * 2 ^ (8 - bits))

/-- The network, as iptables stores it: without host bits. -/
def network (subnet : Subnet) : Subnet :=
  { subnet with
    addr :=
      { a := keepBits subnet.prefixLen subnet.addr.a
        b := keepBits (subnet.prefixLen - 8) subnet.addr.b
        c := keepBits (subnet.prefixLen - 16) subnet.addr.c
        d := keepBits (subnet.prefixLen - 24) subnet.addr.d } }

/-- A network as nft prints it: a single address has no length. -/
def nftText (subnet : Subnet) : Text :=
  if subnet.prefixLen = 32 then subnet.addr.text else subnet.text

end Subnet

/-- The name of an interface in a rule, which is printed between quotes. -/
structure IfaceName where
  text : Text
  nonempty : text ≠ []
  plain : ∀ c ∈ text, isWhitespace c = false ∧ c ≠ '\x22'
deriving DecidableEq

def IfaceName.quoted (name : IfaceName) : Text :=
  '\x22' :: (name.text ++ ['\x22'])

/-- The name of one interface: no file separator, and not one of the patterns
of iptables and nft. -/
structure Interface extends IfaceName where
  no_slash : '/' ∉ text
  literal : text.getLast? ≠ some '+' ∧ text.getLast? ≠ some '*'

/-- A word of a listing.  The word `handle` only introduces the handle. -/
structure ListedWord where
  text : Text
  nonempty : text ≠ []
  plain : ∀ c ∈ text, isWhitespace c = false
  ne_handle : text ≠ "handle".toList
deriving DecidableEq

/-- A part of a rule: the matches and statements that the commands here use,
and any other as its words. -/
inductive Clause where
  | interface (incoming negated : Bool) (name : IfaceName)
  | address (source negated : Bool) (net : Subnet)
  | counter (packets bytes : Nat)
  | masquerade
  | accept
  | maxseg (size : Nat)
  | other (word : ListedWord)
deriving DecidableEq

/-- A comparison as nft prints it. -/
def comparison (field : List Text) (negated : Bool) (value : Text) :
    List Text :=
  field ++ if negated then ["!=".toList, value] else [value]

def Clause.words : Clause → List Text
  | .interface incoming negated name =>
      comparison [if incoming then "iifname".toList else "oifname".toList]
        negated name.quoted
  | .address source negated net =>
      comparison ["ip".toList, if source then "saddr".toList else "daddr".toList]
        negated net.nftText
  | .counter packets bytes =>
      ["counter".toList, "packets".toList, decimal packets, "bytes".toList,
        decimal bytes]
  | .masquerade => ["masquerade".toList]
  | .accept => ["accept".toList]
  | .maxseg size =>
      ["tcp".toList, "option".toList, "maxseg".toList, "size".toList,
        "set".toList, decimal size]
  | .other word => [word.text]

/-- Words on a line of a listing. -/
def printed (indent : Nat) (words : List Text) : Text :=
  List.replicate indent '\t' ++ Words.join ' ' words

structure Rule where
  handle : Nat
  body : List Clause
deriving DecidableEq

namespace Rule

def bodyWords (rule : Rule) : List Text := rule.body.flatMap Clause.words

def words (rule : Rule) : List Text :=
  rule.bodyWords ++ ["#".toList, "handle".toList, decimal rule.handle]

/-- The line of the rule in a listing with handles. -/
def line (rule : Rule) : Text := printed 2 rule.words

end Rule

/-- The rule holds for the packets of an interface, in one direction. -/
def MatchesInterface (name : IfaceName) (rule : Rule) : Prop :=
  .interface true false name ∈ rule.body ∨
    .interface false false name ∈ rule.body

instance (name : IfaceName) : DecidablePred (MatchesInterface name) :=
  fun _ => inferInstanceAs (Decidable (_ ∨ _))

/-- What the specification of a rule says, which is all but its counters. -/
def Clause.uncounted : Clause → Clause
  | .counter _ _ => .counter 0 0
  | clause => clause

def Rule.spec (rule : Rule) : List Clause := rule.body.map Clause.uncounted

/-- A chain with its rules; handles are unique and given out in order. -/
@[ext]
structure RuleChain where
  rules : List Rule
  nextHandle : Nat
  distinct : (rules.map Rule.handle).Nodup
  fresh : ∀ rule ∈ rules, rule.handle < nextHandle

namespace RuleChain

/-- The chain without rules. -/
def empty (nextHandle : Nat) : RuleChain where
  rules := []
  nextHandle := nextHandle
  distinct := List.nodup_nil
  fresh := by simp

/-- The chain with some of its rules. -/
def keep (chain : RuleChain) (rules : List Rule)
    (hsub : rules.Sublist chain.rules) : RuleChain where
  rules := rules
  nextHandle := chain.nextHandle
  distinct := (hsub.map Rule.handle).nodup chain.distinct
  fresh rule hrule := chain.fresh rule (hsub.subset hrule)

/-- The lines of a listing before the rules.  The chain has a handle too. -/
def opening (table name hook : List Text) (handle : Nat) : List Text :=
  [printed 0 (["table".toList, "ip".toList] ++ table ++ ["\x7b".toList]),
    printed 1 (["chain".toList] ++ name ++
      ["\x7b".toList, "#".toList, "handle".toList, decimal handle]),
    printed 2 ("type".toList :: hook)]

/-- The lines after the rules. -/
def closing : List Text :=
  [printed 1 ["\x7d".toList], printed 0 ["\x7d".toList]]

/-- `nft -a list chain ip <table> <name>`, line by line. -/
def list (table name hook : List Text) (handle : Nat) (chain : RuleChain) :
    List Text :=
  opening table name hook handle ++ chain.rules.map Rule.line ++ closing

/-- `nft delete rule ip <table> <name> handle <handle>`.  Without such a rule
the command fails and changes nothing. -/
def deleteHandle (chain : RuleChain) (handle : Text) : RuleChain :=
  chain.keep (chain.rules.filter fun rule => decide (decimal rule.handle ≠ handle))
    List.filter_sublist

/-- `iptables -A`. -/
def append (chain : RuleChain) (body : List Clause) : RuleChain where
  rules := chain.rules ++ [⟨chain.nextHandle, body⟩]
  nextHandle := chain.nextHandle + 1
  distinct := by
    rw [List.map_append, List.nodup_append']
    refine ⟨chain.distinct, List.nodup_singleton _, ?_⟩
    simp only [List.map_cons, List.map_nil, List.disjoint_singleton]
    intro hmem
    obtain ⟨rule, hrule, heq⟩ := List.mem_map.mp hmem
    have hlt := chain.fresh rule hrule
    omega
  fresh rule hrule := by
    rcases List.mem_append.mp hrule with hold | hnew
    · exact Nat.lt_succ_of_lt (chain.fresh rule hold)
    · rw [List.mem_singleton.mp hnew]
      exact Nat.lt_succ_self _

/-- `iptables -D`: delete the first rule with that specification, or fail. -/
def deleteFirst (chain : RuleChain) (body : List Clause) : Option RuleChain :=
  if chain.rules.any fun rule => rule.spec = body.map Clause.uncounted then
    some (chain.keep
      (chain.rules.eraseP fun rule => rule.spec = body.map Clause.uncounted)
      List.eraseP_sublist)
  else none

end RuleChain

/-- The word after the first word `handle` of a line. -/
def handleOf (line : Text) : Option Text :=
  let words := Words.split isWhitespace line
  (words.findIdx? fun word => decide (word = "handle".toList)).bind fun i =>
    words[i + 1]?

/-- The handles of the lines that are to be deleted. -/
def handlesOf (select : Text → Bool) (lines : List Text) : List Text :=
  (lines.filter select).filterMap handleOf

/-- The flush of a chain: list it, collect the handles, delete them. -/
def RuleChain.flush (select : Text → Bool) (table name hook : List Text)
    (handle : Nat) (chain : RuleChain) : RuleChain :=
  (handlesOf select (chain.list table name hook handle)).foldl
    RuleChain.deleteHandle chain

theorem isDigit_of_mem_decimal {n : Nat} {c : Char} (hc : c ∈ decimal n) :
    c.isDigit = true :=
  Nat.isDigit_of_mem_toDigits (by decide) (by decide) hc

theorem decimal_ne_nil (n : Nat) : decimal n ≠ [] := Nat.toDigits_ne_nil

theorem decimal_inj {m n : Nat} (heq : decimal m = decimal n) : m = n := by
  have hvalue := congrArg (fun digits => Nat.ofDigitChars 10 digits 0) heq
  simpa [decimal, Nat.ofDigitChars_toDigits] using hvalue

theorem not_isWhitespace_of_isDigit {c : Char} (hc : c.isDigit = true) :
    isWhitespace c = false := by
  simp only [Char.isDigit, Bool.and_eq_true, decide_eq_true_eq] at hc
  obtain ⟨hlow, hhigh⟩ := hc
  have hcode : 48 ≤ c.toNat ∧ c.toNat ≤ 57 := ⟨hlow, hhigh⟩
  simp only [isWhitespace, decide_eq_false_iff_not]
  omega

/-- A word that can be printed and read back. -/
structure Printable (word : Text) : Prop where
  nonempty : word ≠ []
  plain : ∀ c ∈ word, isWhitespace c = false

instance (word : Text) : Decidable (Printable word) :=
  decidable_of_iff (word ≠ [] ∧ ∀ c ∈ word, isWhitespace c = false)
    ⟨fun h => ⟨h.1, h.2⟩, fun h => ⟨h.nonempty, h.plain⟩⟩

theorem printable_decimal (n : Nat) : Printable (decimal n) :=
  ⟨decimal_ne_nil n, fun _ hc =>
    not_isWhitespace_of_isDigit (isDigit_of_mem_decimal hc)⟩

theorem Printable.append_cons {first second : Text} {c : Char}
    (hfirst : Printable first) (hc : isWhitespace c = false)
    (hsecond : Printable second) : Printable (first ++ c :: second) := by
  refine ⟨by simp, ?_⟩
  intro d hd
  rcases List.mem_append.mp hd with hd | hd
  · exact hfirst.plain d hd
  · rcases List.mem_cons.mp hd with rfl | hd
    · exact hc
    · exact hsecond.plain d hd

theorem printable_ipText (ip : Ipv4Addr) : Printable ip.text :=
  (printable_decimal _).append_cons (by decide)
    ((printable_decimal _).append_cons (by decide)
      ((printable_decimal _).append_cons (by decide) (printable_decimal _)))

theorem Subnet.printable_text (subnet : Subnet) : Printable subnet.text :=
  (printable_ipText _).append_cons (by decide) (printable_decimal _)

theorem Subnet.printable_nftText (subnet : Subnet) :
    Printable subnet.nftText := by
  unfold nftText
  split
  · exact printable_ipText _
  · exact subnet.printable_text

theorem IfaceName.printable_quoted (name : IfaceName) :
    Printable name.quoted := by
  refine ⟨by simp [quoted], ?_⟩
  intro c hc
  rw [quoted, List.mem_cons, List.mem_append, List.mem_singleton] at hc
  rcases hc with rfl | hc | rfl
  · decide
  · exact (name.plain c hc).1
  · decide

theorem IfaceName.quote_mem (name : IfaceName) : '\x22' ∈ name.quoted := by
  simp [quoted]

/-- No text with a digit, a dot or a quote in it is the word `handle`. -/
theorem ne_handle_of_mem {word : Text} {c : Char} (hc : c ∈ word)
    (hout : c ∉ "handle".toList) : word ≠ "handle".toList := by
  rintro rfl
  exact hout hc

theorem decimal_ne_handle (n : Nat) : decimal n ≠ "handle".toList := by
  obtain ⟨c, rest, hcons⟩ := List.exists_cons_of_ne_nil (decimal_ne_nil n)
  have hdigit : c.isDigit = true :=
    isDigit_of_mem_decimal (by rw [hcons]; exact List.mem_cons_self)
  apply ne_handle_of_mem (show c ∈ decimal n by rw [hcons]; simp)
  intro hmem
  have hletters : ∀ c ∈ "handle".toList, c.isDigit = false := by decide
  rw [hletters c hmem] at hdigit
  cases hdigit

/-- A word of the body of a listed rule. -/
def BodyWord (word : Text) : Prop :=
  Printable word ∧ word ≠ "handle".toList

instance (word : Text) : Decidable (BodyWord word) :=
  inferInstanceAs (Decidable (_ ∧ _))

theorem bodyWord_decimal (n : Nat) : BodyWord (decimal n) :=
  ⟨printable_decimal n, decimal_ne_handle n⟩

theorem bodyWord_nftText (net : Subnet) : BodyWord net.nftText := by
  refine ⟨net.printable_nftText, ne_handle_of_mem (c := '.') ?_ (by decide)⟩
  unfold Subnet.nftText
  split
  · simp [Ipv4Addr.text]
  · simp [Subnet.text, Ipv4Addr.text]

theorem bodyWord_quoted (name : IfaceName) : BodyWord name.quoted :=
  ⟨name.printable_quoted,
    ne_handle_of_mem (c := '\x22') (by simp [IfaceName.quoted]) (by decide)⟩

theorem bodyWord_comparison {field : List Text} {negated : Bool} {value : Text}
    (hfield : ∀ word ∈ field, BodyWord word) (hvalue : BodyWord value) :
    ∀ word ∈ comparison field negated value, BodyWord word := by
  have hne : BodyWord "!=".toList := ⟨⟨by decide, by decide⟩, by decide⟩
  intro word hword
  rcases List.mem_append.mp hword with hword | hword
  · exact hfield word hword
  · cases negated with
    | false =>
        rw [List.mem_singleton.mp hword]
        exact hvalue
    | true =>
        rcases List.mem_cons.mp hword with rfl | hword
        · exact hne
        · rw [List.mem_singleton.mp hword]
          exact hvalue

theorem Clause.bodyWord (clause : Clause) :
    ∀ word ∈ clause.words, BodyWord word := by
  cases clause with
  | interface incoming negated name =>
      apply bodyWord_comparison _ (bodyWord_quoted name)
      cases incoming
      · decide
      · decide
  | address source negated net =>
      apply bodyWord_comparison _ (bodyWord_nftText net)
      cases source
      · decide
      · decide
  | counter packets bytes =>
      simp only [words, List.forall_mem_cons]
      exact ⟨by decide, by decide, bodyWord_decimal packets, by decide,
        bodyWord_decimal bytes, by simp⟩
  | masquerade => decide
  | accept => decide
  | maxseg size =>
      simp only [words, List.forall_mem_cons]
      exact ⟨by decide, by decide, by decide, by decide, by decide,
        bodyWord_decimal size, by simp⟩
  | other word =>
      simp only [words, List.forall_mem_cons]
      exact ⟨⟨⟨word.nonempty, word.plain⟩, word.ne_handle⟩, by simp⟩

namespace Rule

theorem bodyWord (rule : Rule) : ∀ word ∈ rule.bodyWords, BodyWord word := by
  intro word hword
  obtain ⟨clause, _, hclause⟩ := List.mem_flatMap.mp hword
  exact clause.bodyWord word hclause

theorem printable (rule : Rule) : ∀ word ∈ rule.words, Printable word := by
  have hend : ∀ word ∈ ["#".toList, "handle".toList, decimal rule.handle],
      Printable word := by
    simp only [List.forall_mem_cons]
    exact ⟨by decide, by decide, printable_decimal rule.handle, by simp⟩
  intro word hword
  rcases List.mem_append.mp hword with hword | hword
  · exact (rule.bodyWord word hword).1
  · exact hend word hword

theorem split_line (rule : Rule) :
    Words.split isWhitespace rule.line = rule.words := by
  change Words.split isWhitespace ('\t' :: '\t' :: Words.join ' ' rule.words) = _
  rw [Words.split_cons_of_sep (by decide), Words.split_cons_of_sep (by decide)]
  apply Words.split_join (by decide)
  intro word hword
  exact ⟨(rule.printable word hword).nonempty,
    (rule.printable word hword).plain⟩

/-- The handle that is found in the line of a rule is its own. -/
theorem handleOf_line (rule : Rule) :
    handleOf rule.line = some (decimal rule.handle) := by
  have hbody : ∀ word ∈ rule.bodyWords,
      decide (word = "handle".toList) = false := by
    intro word hword
    exact decide_eq_false (rule.bodyWord word hword).2
  have hindex : rule.words.findIdx?
      (fun word => decide (word = "handle".toList)) =
        some (rule.bodyWords.length + 1) := by
    have hend : ["#".toList, "handle".toList, decimal rule.handle].findIdx?
        (fun word => decide (word = "handle".toList)) = some 1 := by
      simp [List.findIdx?_cons]
    rw [words, List.findIdx?_append, List.findIdx?_eq_none_iff.mpr hbody, hend,
      Nat.add_comm]
    rfl
  simp only [handleOf, split_line, hindex, Option.bind_some]
  rw [words, List.getElem?_append_right (by omega)]
  have hrest : rule.bodyWords.length + 1 + 1 - rule.bodyWords.length = 2 := by
    omega
  rw [hrest]
  rfl

end Rule

theorem Printable.not_mem {part : Text} (hpart : Printable part) {c : Char}
    (hc : isWhitespace c = true) : c ∉ part := by
  intro hmem
  rw [hpart.plain c hmem] at hc
  cases hc

/-- The indent of a line holds no part without tabs. -/
theorem contains_indent {part : Text} (hne : part ≠ []) (htab : '\t' ∉ part)
    (indent : Nat) (words : List Text) :
    Words.contains (printed indent words) part = true ↔
      part <:+: Words.join ' ' words := by
  have hempty : ¬ part <:+: [] := by
    rw [List.infix_nil]
    exact hne
  rw [Words.contains_iff, printed]
  induction indent with
  | zero => rfl
  | succ indent ih =>
      have hskip : part <:+:
          [] ++ '\t' :: (List.replicate indent '\t' ++ Words.join ' ' words) ↔
            _ :=
        Words.infix_append_cons htab
      exact (hskip.trans (or_iff_right hempty)).trans ih

/-- A part without whitespace is found in a line exactly if it lies in a word. -/
theorem contains_printed {part : Text} (hpart : Printable part) (indent : Nat)
    (words : List Text) :
    Words.contains (printed indent words) part = true ↔
      ∃ word ∈ words, part <:+: word := by
  rw [contains_indent hpart.nonempty (hpart.not_mem (by decide)),
    Words.infix_join hpart.nonempty (hpart.not_mem (by decide))]

/-- Two parts with a space between them are found in the line of a rule exactly
if they meet at the end of a word. -/
theorem Rule.contains_pair {left right : Text} (hleft : Printable left)
    (hright : Printable right) (rule : Rule) :
    Words.contains rule.line (left ++ ' ' :: right) = true ↔
      Words.Adjacent left right rule.words := by
  have htab : '\t' ∉ left ++ ' ' :: right := by
    simp only [List.mem_append, List.mem_cons, not_or]
    exact ⟨hleft.not_mem (by decide), by decide, hright.not_mem (by decide)⟩
  rw [Rule.line, contains_indent (by simp) htab]
  apply Words.infix_pair_join (hleft.not_mem (by decide))
    (hright.not_mem (by decide))
  intro word hword
  exact (rule.printable word hword).not_mem (by decide)

theorem not_infix_decimal {part : Text} {c : Char} (hc : c ∈ part)
    (hdigit : c.isDigit = false) (n : Nat) : ¬ part <:+: decimal n := by
  intro hinside
  have hmem := isDigit_of_mem_decimal (hinside.subset hc)
  rw [hdigit] at hmem
  cases hmem

/-- A part that the handle at the end of a line cannot hold lies in the body. -/
theorem Rule.contains_line {part : Text} {c : Char} (hpart : Printable part)
    (hc : c ∈ part) (hdigit : c.isDigit = false) (hhash : c ≠ '#')
    (hhandle : c ∉ "handle".toList) (rule : Rule) :
    Words.contains rule.line part = true ↔
      ∃ word ∈ rule.bodyWords, part <:+: word := by
  have hfixed : ∀ word : Text, c ∉ word → ¬ part <:+: word :=
    fun word hword hinside => hword (hinside.subset hc)
  rw [Rule.line, contains_printed hpart, Rule.words]
  constructor
  · rintro ⟨word, hword, hinside⟩
    rcases List.mem_append.mp hword with hbody | htail
    · exact ⟨word, hbody, hinside⟩
    · simp only [List.mem_cons, List.not_mem_nil, or_false] at htail
      rcases htail with rfl | rfl | rfl
      · exact absurd hinside
          (hfixed _ fun hmem => hhash (List.mem_singleton.mp hmem))
      · exact absurd hinside (hfixed _ hhandle)
      · exact absurd hinside (not_infix_decimal hc hdigit _)
  · rintro ⟨word, hword, hinside⟩
    exact ⟨word, List.mem_append_left _ hword, hinside⟩

namespace RuleChain

variable (chain : RuleChain)

theorem foldl_deleteHandle (handles : List Text) :
    (handles.foldl deleteHandle chain).rules =
        chain.rules.filter (fun rule => decide (decimal rule.handle ∉ handles)) ∧
      (handles.foldl deleteHandle chain).nextHandle = chain.nextHandle := by
  induction handles generalizing chain with
  | nil => simp
  | cons handle rest ih =>
      obtain ⟨hrules, hnext⟩ := ih (chain.deleteHandle handle)
      rw [List.foldl_cons, hrules, hnext]
      refine ⟨?_, rfl⟩
      simp only [deleteHandle, keep, List.filter_filter, List.mem_cons, not_or,
        Bool.decide_and, Bool.and_comm]

omit chain in
/-- A part that is in none of the fixed words is in no line around the rules. -/
theorem contains_frame {part : Text} {c : Char} (hpart : Printable part)
    (hc : c ∈ part) (hdigit : c.isDigit = false) {table name hook : List Text}
    (handle : Nat)
    (hfixed : ∀ word ∈ ["table".toList, "ip".toList, "chain".toList,
      "\x7b".toList, "\x7d".toList, "#".toList, "handle".toList,
      "type".toList] ++ table ++ name ++ hook, ¬ part <:+: word) :
    ∀ line ∈ opening table name hook handle ++ closing,
      Words.contains line part = false := by
  have hline : ∀ indent words,
      (∀ word ∈ words, ¬ part <:+: word) →
        Words.contains (printed indent words) part = false := by
    intro indent words hwords
    rw [Bool.eq_false_iff, Ne, contains_printed hpart]
    rintro ⟨word, hword, hinside⟩
    exact hwords word hword hinside
  have hnumber := not_infix_decimal hc hdigit handle
  simp only [List.cons_append, List.nil_append, List.forall_mem_cons,
    List.forall_mem_append] at hfixed
  obtain ⟨htable, hip, hchain, hopen, hclose, hhash, hhandle, htype, hfixed⟩ :=
    hfixed
  obtain ⟨⟨hnames, hname⟩, hhook⟩ := hfixed
  simp only [opening, closing, List.cons_append, List.nil_append,
    List.forall_mem_cons]
  refine ⟨hline _ _ ?_, hline _ _ ?_, hline _ _ ?_, hline _ _ ?_,
    hline _ _ ?_, by simp⟩
  · simp only [List.forall_mem_cons, List.forall_mem_append]
    exact ⟨htable, hip, hnames, hopen, by simp⟩
  · simp only [List.forall_mem_cons, List.forall_mem_append]
    exact ⟨hchain, hname, hopen, hhash, hhandle, hnumber, by simp⟩
  · simp only [List.forall_mem_cons]
    exact ⟨htype, hhook⟩
  · simp only [List.forall_mem_cons]
    exact ⟨hclose, by simp⟩
  · simp only [List.forall_mem_cons]
    exact ⟨hclose, by simp⟩

/-- The handles that are found are those of the selected rules. -/
theorem handlesOf_list {select : Text → Bool} {table name hook : List Text}
    {handle : Nat}
    (hframe : ∀ line ∈ opening table name hook handle ++ closing,
      select line = false) :
    handlesOf select (chain.list table name hook handle) =
      (chain.rules.filter fun rule => select rule.line).map
        fun rule => decimal rule.handle := by
  have hopening : (opening table name hook handle).filter select = [] := by
    rw [List.filter_eq_nil_iff]
    intro line hline
    simp [hframe line (List.mem_append_left _ hline)]
  have hclosing : closing.filter select = [] := by
    rw [List.filter_eq_nil_iff]
    intro line hline
    simp [hframe line (List.mem_append_right _ hline)]
  rw [handlesOf, list, List.filter_append, List.filter_append, hopening,
    hclosing, List.nil_append, List.append_nil, List.filter_map,
    List.filterMap_map]
  have hhandle : handleOf ∘ Rule.line =
      some ∘ fun rule : Rule => decimal rule.handle := by
    funext rule
    exact rule.handleOf_line
  rw [hhandle, List.filterMap_eq_map]
  rfl

/-- A flush deletes the rules whose lines are selected, and no other. -/
theorem flush_rules {select : Text → Bool} {table name hook : List Text}
    {handle : Nat}
    (hframe : ∀ line ∈ opening table name hook handle ++ closing,
      select line = false) :
    (chain.flush select table name hook handle).rules =
        chain.rules.filter (fun rule => !select rule.line) ∧
      (chain.flush select table name hook handle).nextHandle =
        chain.nextHandle := by
  rw [flush, chain.handlesOf_list hframe]
  obtain ⟨hrules, hnext⟩ := chain.foldl_deleteHandle
    ((chain.rules.filter fun rule => select rule.line).map
      fun rule => decimal rule.handle)
  refine ⟨?_, hnext⟩
  rw [hrules]
  apply List.filter_congr
  intro rule hrule
  have hselected : decimal rule.handle ∈
      (chain.rules.filter fun rule => select rule.line).map
        (fun rule => decimal rule.handle) ↔ select rule.line = true := by
    rw [List.mem_map]
    constructor
    · rintro ⟨other, hother, heq⟩
      obtain ⟨hmem, hselect⟩ := List.mem_filter.mp hother
      have hsame : other = rule :=
        List.inj_on_of_nodup_map chain.distinct hmem hrule (decimal_inj heq)
      rw [← hsame]
      exact hselect
    · intro hselect
      exact ⟨rule, List.mem_filter.mpr ⟨hrule, hselect⟩, rfl⟩
  simp only [hselected, Bool.not_eq_true, Bool.decide_eq_false]

theorem deleteFirst_eq_none {body : List Clause}
    (hnone : ∀ rule ∈ chain.rules, rule.spec ≠ body.map Clause.uncounted) :
    chain.deleteFirst body = none := by
  rw [deleteFirst, if_neg]
  simpa using hnone

/-- A deletion takes one rule with the specification out of the chain. -/
theorem deleteFirst_eq_some {body : List Clause}
    (hfound : ∃ rule ∈ chain.rules, rule.spec = body.map Clause.uncounted) :
    ∃ rest first found second, chain.deleteFirst body = some rest ∧
      rest.nextHandle = chain.nextHandle ∧ rest.rules = first ++ second ∧
      chain.rules = first ++ found :: second ∧
      found.spec = body.map Clause.uncounted := by
  obtain ⟨rule, hrule, hspec⟩ := hfound
  obtain ⟨found, first, second, _, hfound, hrules, herase⟩ :=
    List.exists_of_eraseP
      (p := fun rule : Rule => decide (rule.spec = body.map Clause.uncounted))
      hrule (decide_eq_true hspec)
  refine ⟨_, first, found, second, if_pos ?_, rfl, herase, hrules,
    of_decide_eq_true hfound⟩
  exact List.any_eq_true.mpr ⟨rule, hrule, decide_eq_true hspec⟩

/-- An ignored deletion adds no rule. -/
theorem deleteFirst_sublist (body : List Clause) :
    ((chain.deleteFirst body).getD chain).rules.Sublist chain.rules := by
  rw [deleteFirst]
  split
  · exact List.eraseP_sublist
  · exact List.Sublist.refl _

end RuleChain

/-- The clauses other than counters are in a rule and in its specification. -/
theorem Rule.mem_spec {rule : Rule} {clause : Clause}
    (hclause : ∀ packets bytes, clause ≠ .counter packets bytes) :
    clause ∈ rule.spec ↔ clause ∈ rule.body := by
  rw [Rule.spec, List.mem_map]
  constructor
  · rintro ⟨found, hfound, rfl⟩
    cases found with
    | counter packets bytes => exact absurd rfl (hclause 0 0)
    | _ => exact hfound
  · intro hmem
    refine ⟨clause, hmem, ?_⟩
    cases clause with
    | counter packets bytes => exact absurd rfl (hclause packets bytes)
    | _ => rfl

theorem Rule.mem_bodyWords {rule : Rule} {clause : Clause} {word : Text}
    (hclause : clause ∈ rule.body) (hword : word ∈ clause.words) :
    word ∈ rule.bodyWords :=
  List.mem_flatMap.mpr ⟨clause, hclause, hword⟩

theorem MatchesInterface.quoted_mem {name : IfaceName} {rule : Rule}
    (hrule : MatchesInterface name rule) : name.quoted ∈ rule.bodyWords := by
  rcases hrule with hin | hout
  · exact Rule.mem_bodyWords hin (by simp [Clause.words, comparison])
  · exact Rule.mem_bodyWords hout (by simp [Clause.words, comparison])

/-- Two filters leave the same rules if they agree on each. -/
theorem filter_not_eq_iff {p q : Rule → Prop} [DecidablePred p]
    [DecidablePred q] (rules : List Rule) :
    rules.filter (fun rule => decide (¬ p rule)) =
        rules.filter (fun rule => decide (¬ q rule)) ↔
      ∀ rule ∈ rules, p rule ↔ q rule := by
  constructor
  · intro hsame rule hrule
    have hmem : rule ∈ rules.filter (fun rule => decide (¬ p rule)) ↔
        rule ∈ rules.filter (fun rule => decide (¬ q rule)) := by
      rw [hsame]
    simpa [hrule, not_iff_not] using hmem
  · intro hiff
    apply List.filter_congr
    intro rule hrule
    rw [decide_eq_decide, hiff rule hrule]

end Redpill
