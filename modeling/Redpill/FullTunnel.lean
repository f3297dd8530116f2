/-
Where packets go while the client has its routes installed (`route.rs`, Linux
and macOS): the kernel sends a packet by the route with the longest prefix that
matches its destination.  Other programs may change the table in the meantime.
-/
import Redpill.PrefixMatch
import Redpill.RouteRecovery
import Redpill.Firewall

namespace Redpill

open PrefixMatch

abbrev RoutingTable := Table Bool String

/-- The bits of an octet, the highest first. -/
def octetBits (octet : UInt8) : List Bool :=
  (List.range 8).map fun i => octet.toNat.testBit (7 - i)

namespace Ipv4Addr

def bits (ip : Ipv4Addr) : List Bool :=
  octetBits ip.a ++ octetBits ip.b ++ octetBits ip.c ++ octetBits ip.d

end Ipv4Addr

/-- A command of `route.rs`, with its destination as a prefix. -/
inductive RouteCommand where
  | add (entry : Entry Bool String)
  | del (dest : List Bool) (via : Option String)

/-- What the kernel does on this command. -/
def RouteCommand.change : RouteCommand → Change Bool String
  | .add entry => .add entry
  | .del dest via =>
      .remove dest fun hop => via.all fun named => decide (hop = named)

/-- The arguments of `setup_client_routes`. -/
structure TunnelPath where
  server : Ipv4Addr
  gateway : String
  tunnelIp : String

namespace TunnelPath

def host (path : TunnelPath) : Entry Bool String :=
  ⟨path.server.bits, 0, path.gateway⟩

/-- `0.0.0.0/1` or `128.0.0.0/1`. -/
def half (path : TunnelPath) (bit : Bool) : Entry Bool String :=
  ⟨[bit], 0, path.tunnelIp⟩

def entries (path : TunnelPath) : List (Entry Bool String) :=
  [path.host, path.half false, path.half true]

def setupClientRoutes (path : TunnelPath) : List RouteCommand :=
  [.add path.host, .add (path.half false), .add (path.half true)]

/-- macOS names the gateway of each route that it deletes; Linux names only
that of the first. -/
def cleanupClientRoutes (path : TunnelPath) (macos : Bool) :
    List RouteCommand :=
  let via := if macos then some path.tunnelIp else none
  [.del path.server.bits (some path.gateway), .del [false] via, .del [true] via]

end TunnelPath

@[simp] theorem octetBits_length (octet : UInt8) :
    (octetBits octet).length = 8 := by
  simp [octetBits]

theorem octetBits_inj {first second : UInt8}
    (heq : octetBits first = octetBits second) : first = second := by
  apply UInt8.toNat_inj.mp
  apply Nat.eq_of_testBit_eq
  intro i
  by_cases hi : i < 8
  · have hbit := congrArg (fun bits => bits[7 - i]?) heq
    simpa [octetBits, show 7 - i < 8 by omega, show 7 - (7 - i) = i by omega]
      using hbit
  · have hpow : 2 ^ 8 ≤ 2 ^ i := Nat.pow_le_pow_right (by decide) (by omega)
    rw [Nat.testBit_lt_two_pow (first.toNat_lt.trans_le hpow),
      Nat.testBit_lt_two_pow (second.toNat_lt.trans_le hpow)]

namespace Ipv4Addr

@[simp] theorem bits_length (ip : Ipv4Addr) : ip.bits.length = 32 := by
  simp [bits]

theorem bits_inj {first second : Ipv4Addr} (heq : first.bits = second.bits) :
    first = second := by
  obtain ⟨habc, hd⟩ := List.append_inj heq (by simp)
  obtain ⟨hab, hc⟩ := List.append_inj habc (by simp)
  obtain ⟨ha, hb⟩ := List.append_inj hab (by simp)
  cases first
  cases second
  simp only [mk.injEq]
  exact ⟨octetBits_inj ha, octetBits_inj hb, octetBits_inj hc,
    octetBits_inj hd⟩

/-- Only the address itself matches all of its bits. -/
theorem bits_prefix_iff {first second : Ipv4Addr} :
    first.bits <+: second.bits ↔ first = second := by
  constructor
  · intro h
    exact bits_inj (h.eq_of_length (by simp))
  · rintro rfl
    exact List.prefix_refl _

/-- Exactly one half of all addresses contains this one. -/
theorem exists_half (ip : Ipv4Addr) :
    ∃ bit, ∀ other, [other] <+: ip.bits ↔ other = bit := by
  cases hbits : ip.bits with
  | nil =>
      have hlength := ip.bits_length
      rw [hbits] at hlength
      cases hlength
  | cons bit rest =>
      refine ⟨bit, ?_⟩
      intro other
      simp [List.cons_prefix_cons]

end Ipv4Addr

/-- The octet with these bits. -/
def octetOf (bits : List Bool) : UInt8 :=
  UInt8.ofNat (bits.foldl (fun value bit => 2 * value + bit.toNat) 0)

/-- A destination as it is written in a command: the address, filled up with
zeros, and the length unless it is a single address. -/
def destinationText (dest : List Bool) : String :=
  let bits := dest ++ List.replicate (32 - dest.length) false
  let address : Ipv4Addr :=
    ⟨octetOf (bits.take 8), octetOf ((bits.drop 8).take 8),
      octetOf ((bits.drop 16).take 8), octetOf (bits.drop 24)⟩
  if dest.length = 32 then String.ofList address.text
  else String.ofList (address.text ++ '/' :: decimal dest.length)

/-- The command as `ip` gets it. -/
def RouteCommand.text : RouteCommand → IpCommand
  | .add entry => .add ⟨destinationText entry.dest, entry.hop⟩
  | .del dest via => .del (destinationText dest) via

theorem octetOf_octetBits (octet : UInt8) : octetOf (octetBits octet) = octet := by
  have hall : ∀ n < 256, ((List.range 8).map fun i =>
      Nat.testBit n (7 - i)).foldl (fun value bit => 2 * value + bit.toNat) 0 =
        n := by
    decide +kernel
  rw [octetOf, octetBits, hall octet.toNat octet.toNat_lt, UInt8.ofNat_toNat]

theorem destinationText_bits (ip : Ipv4Addr) :
    destinationText ip.bits = String.ofList ip.text := by
  have hlengths : (octetBits ip.a ++ octetBits ip.b).length = 16 ∧
      (octetBits ip.a ++ octetBits ip.b ++ octetBits ip.c).length = 24 := by
    simp
  have ha : ip.bits.take 8 = octetBits ip.a := by
    rw [Ipv4Addr.bits, List.append_assoc, List.append_assoc,
      List.take_left' (octetBits_length _)]
  have hb : (ip.bits.drop 8).take 8 = octetBits ip.b := by
    rw [Ipv4Addr.bits, List.append_assoc, List.append_assoc,
      List.drop_left' (octetBits_length _), List.take_left' (octetBits_length _)]
  have hc : (ip.bits.drop 16).take 8 = octetBits ip.c := by
    rw [Ipv4Addr.bits, List.append_assoc _ _ (octetBits ip.d),
      List.drop_left' hlengths.1, List.take_left' (octetBits_length _)]
  have hd : ip.bits.drop 24 = octetBits ip.d := by
    rw [Ipv4Addr.bits, List.drop_left' hlengths.2]
  simp [destinationText, ha, hb, hc, hd, octetOf_octetBits]

namespace TunnelPath

/-- The arguments as texts. -/
def saved (path : TunnelPath) : SavedRoutes :=
  ⟨String.ofList path.server.text, path.gateway, path.tunnelIp⟩

theorem destinationText_half (bit : Bool) :
    destinationText [bit] = if bit then highHalf else lowHalf := by
  cases bit <;> decide

/-- These are the commands of the run that may be killed. -/
theorem commands_text (path : TunnelPath) :
    path.setupClientRoutes.map RouteCommand.text =
        path.saved.setupClientRoutes ∧
      (path.cleanupClientRoutes false).map RouteCommand.text =
        path.saved.cleanupClientRoutes := by
  simp [setupClientRoutes, cleanupClientRoutes, RouteCommand.text, host, half,
    destinationText_bits, destinationText_half, saved,
    SavedRoutes.setupClientRoutes, SavedRoutes.cleanupClientRoutes]

/-- The routes are beside those that were there. -/
theorem overlay_of_setup {path : TunnelPath} {table up : RoutingTable}
    (hsetup : table.all (path.setupClientRoutes.map RouteCommand.change) =
      some up) : Overlay path.entries table up := by
  simp only [Table.all, setupClientRoutes, RouteCommand.change, List.map_cons,
    List.map_nil, List.foldlM_cons, List.foldlM_nil, Table.apply,
    Option.bind_eq_bind, Option.bind_eq_some_iff] at hsetup
  obtain ⟨first, hhost, second, hlow, third, hhigh, hup⟩ := hsetup
  obtain rfl := Option.some.inj hup
  refine (((Overlay.refl table).add hhost).add hlow).add hhigh |>.congr ?_
  intro entry
  simp only [entries, List.mem_cons, List.not_mem_nil, or_false]
  tauto

/-- A deletion finds the entry of its own, whatever else is in the table. -/
theorem overlay_del {own : List (Entry Bool String)}
    {entry : Entry Bool String} {bare full : RoutingTable}
    (h : Overlay (entry :: own) bare full) (hfresh : entry ∉ own)
    (hmetric : entry.metric = 0) {via : Option String}
    (hvia : via = none ∨ via = some entry.hop) :
    Overlay own bare (full.tryApply (RouteCommand.del entry.dest via).change) := by
  refine Overlay.remove h hfresh (Table.find_of_metric_zero ?_ hmetric ?_)
  · exact (h.mem entry).mpr (Or.inl List.mem_cons_self)
  · rcases hvia with rfl | rfl <;> simp

theorem overlay_of_cleanup {path : TunnelPath} {bare full : RoutingTable}
    (h : Overlay path.entries bare full) (macos : Bool) :
    Overlay [] bare
      (full.each ((path.cleanupClientRoutes macos).map
        RouteCommand.change)) := by
  have hhost : path.host ∉ [path.half false, path.half true] := by
    have hlength : ∀ bit, path.host ≠ path.half bit := by
      intro bit heq
      have hbits := congrArg (fun entry => entry.dest.length) heq
      simp [host, half] at hbits
    simp [hlength]
  have hvia : (if macos then some path.tunnelIp else none) = none ∨
      (if macos then some path.tunnelIp else none) = some path.tunnelIp := by
    cases macos <;> simp
  have hfirst := overlay_del h hhost rfl (Or.inr rfl)
  have hsecond := overlay_del hfirst (by simp [half]) rfl hvia
  exact overlay_del hsecond (by simp) rfl hvia

/-- The route of an address, from the one that it would have without the
client: a route of its own if it is more specific than a half of all
addresses, and the tunnel otherwise. -/
def route (path : TunnelPath) (ip : Ipv4Addr)
    (bare : Option (Entry Bool String)) : Option (Entry Bool String) :=
  if ip = path.server then some path.host
  else
    match bare.filter fun entry => decide (2 ≤ entry.dest.length) with
    | some entry => some entry
    | none => some (path.half (ip.bits.headD false))

/-- The entry of its own comes before one for the same prefix. -/
theorem before_of_apart {own : List (Entry Bool String)}
    {bare full : RoutingTable} (h : Overlay own bare full)
    {entry other : Entry Bool String} (hentry : entry ∈ own)
    (hmetric : entry.metric = 0) {word : List Bool}
    (hmatch : entry.dest <+: word) (hlookup : bare.lookup word = some other)
    (hlength : other.dest.length ≤ entry.dest.length) :
    entry.Before other := by
  obtain ⟨hin, hmatch', _⟩ := Table.lookup_eq_some_iff.mp hlookup
  have hkey := h.apart entry hentry other hin
  rcases Entry.before_or_before hmatch hmatch' (Ne.symm hkey) with
    hbefore | hbefore
  · exact hbefore
  · simp only [Entry.Before, hmetric] at hbefore
    omega

theorem lookup_of_overlay {path : TunnelPath} {bare full : RoutingTable}
    (h : Overlay path.entries bare full) (ip : Ipv4Addr) :
    full.lookup ip.bits = path.route ip (bare.lookup ip.bits) := by
  have hcases : ∀ other ∈ path.entries,
      other = path.host ∨ ∃ bit, other = path.half bit := by
    intro other hother
    simp only [entries, List.mem_cons, List.not_mem_nil, or_false] at hother
    rcases hother with rfl | rfl | rfl
    · exact Or.inl rfl
    · exact Or.inr ⟨false, rfl⟩
    · exact Or.inr ⟨true, rfl⟩
  rw [route]
  by_cases hserver : ip = path.server
  · rw [if_pos hserver]
    have hmatch : path.host.dest <+: ip.bits := by
      rw [hserver]
      exact List.prefix_refl _
    refine h.lookup_own (by simp [entries]) hmatch ?_ ?_
    · intro other hother _ hne
      rcases hcases other hother with rfl | ⟨bit, rfl⟩
      · exact absurd rfl hne
      · exact Or.inl (by simp [host, half])
    · intro other hlookup
      refine before_of_apart h (by simp [entries]) rfl hmatch hlookup ?_
      have hother := (Table.lookup_eq_some_iff.mp hlookup).2.1.length_le
      simpa [host] using hother
  · rw [if_neg hserver]
    have hhost : ¬ path.host.dest <+: ip.bits := by
      intro hmatch
      exact hserver (Ipv4Addr.bits_prefix_iff.mp hmatch).symm
    cases hlong : (bare.lookup ip.bits).filter
        fun entry => decide (2 ≤ entry.dest.length) with
    | some entry =>
        obtain ⟨hlookup, hlength⟩ := Option.filter_eq_some_iff.mp hlong
        refine h.lookup_bare hlookup ?_
        intro other hother hmatch
        rcases hcases other hother with rfl | ⟨bit, rfl⟩
        · exact absurd hmatch hhost
        · have htwo : 2 ≤ entry.dest.length := of_decide_eq_true hlength
          exact Or.inl (by simp only [half, List.length_singleton]; omega)
    | none =>
        have hhalf : ∀ bit, [bit] <+: ip.bits ↔ bit = ip.bits.headD false := by
          obtain ⟨first, hfirst⟩ := ip.exists_half
          obtain ⟨rest, hrest⟩ := (hfirst first).mpr rfl
          intro bit
          rw [hfirst, ← hrest]
          rfl
        refine h.lookup_own ?_ ((hhalf _).mpr rfl) ?_ ?_
        · cases ip.bits.headD false <;> simp [entries]
        · intro other hother hmatch hne
          rcases hcases other hother with rfl | ⟨bit, rfl⟩
          · exact absurd hmatch hhost
          · rw [(hhalf bit).mp hmatch] at hne
            exact absurd rfl hne
        · intro other hlookup
          refine before_of_apart h ?_ rfl ((hhalf _).mpr rfl) hlookup ?_
          · cases ip.bits.headD false <;> simp [entries]
          · rw [hlookup, Option.filter_eq_none_iff] at hlong
            have hshort := hlong other rfl
            simp only [decide_eq_true_eq, not_le] at hshort
            simp only [half, List.length_singleton]
            omega

end TunnelPath

/-- While the routes of the client are installed, and whatever other programs
do to the rest of the table, packets to the server go by the gateway that was
the default one at the setup, those with a route more specific than a half of
all addresses go as they would without the client, and all others go into the
tunnel.  The cleanup, on Linux and on macOS, undoes exactly this. -/
theorem full_tunnel {path : TunnelPath} {table up : RoutingTable}
    (hsetup : table.all (path.setupClientRoutes.map RouteCommand.change) =
      some up)
    {foreign : List RouteCommand}
    (hforeign : ∀ command ∈ foreign, command.change.Avoids path.entries)
    (ip : Ipv4Addr) :
    (up.each (foreign.map RouteCommand.change)).lookup ip.bits =
        path.route ip
          ((table.each (foreign.map RouteCommand.change)).lookup ip.bits) ∧
      ∀ macos, ((up.each (foreign.map RouteCommand.change)).each
          ((path.cleanupClientRoutes macos).map RouteCommand.change)).lookup
            ip.bits =
        (table.each (foreign.map RouteCommand.change)).lookup ip.bits := by
  have hoverlay : Overlay path.entries
      (table.each (foreign.map RouteCommand.change))
      (up.each (foreign.map RouteCommand.change)) := by
    refine (TunnelPath.overlay_of_setup hsetup).each ?_
    intro change hchange
    obtain ⟨command, hcommand, rfl⟩ := List.mem_map.mp hchange
    exact hforeign command hcommand
  refine ⟨TunnelPath.lookup_of_overlay hoverlay ip, ?_⟩
  intro macos
  exact (TunnelPath.overlay_of_cleanup hoverlay macos).lookup_nil ip.bits

/-- The default route, and that of the local network. -/
def homeTable : RoutingTable :=
  ⟨[⟨[], 100, "192.168.1.1"⟩,
    ⟨octetBits 192 ++ octetBits 168 ++ octetBits 1, 100, "eth0"⟩], by decide⟩

def homePath : TunnelPath := ⟨⟨203, 0, 113, 5⟩, "192.168.1.1", "10.0.1.1"⟩

/-- The default gateway changes while the tunnel is up: the server is still
reached by the old one. -/
theorem full_tunnel_roaming :
    ∃ up, homeTable.all (homePath.setupClientRoutes.map
        RouteCommand.change) = some up ∧
      ((up.each ([.del [] none, .add ⟨[], 100, "192.168.1.254"⟩].map
        RouteCommand.change)).lookup
          (Ipv4Addr.mk 203 0 113 5).bits).map Entry.hop =
        some "192.168.1.1" := by
  have hset : (homeTable.all (homePath.setupClientRoutes.map
      RouteCommand.change)).isSome = true := by decide
  obtain ⟨up, hsetup⟩ := Option.isSome_iff_exists.mp hset
  refine ⟨up, hsetup, ?_⟩
  rw [(full_tunnel hsetup ?_ _).1]
  · rfl
  · intro command hcommand
    simp only [List.mem_cons, List.not_mem_nil, or_false] at hcommand
    rcases hcommand with rfl | rfl
    · show ∀ other ∈ homePath.entries, other.dest ≠ []
      decide
    · show ∀ other ∈ homePath.entries, other.key ≠ ([], 100)
      decide

end Redpill
