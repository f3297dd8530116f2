/-
The routes of a Linux client across a crash (`route.rs`).  The kernel keeps one
route for a destination: adding a second one is an error.  A run of the client
gives its `ip route` commands one after the other and may be killed between any
two of them.  The next run starts with `cleanup_stale_client`, which does not
know what the killed run had saved.
-/
import Redpill.ClientSystem
import Redpill.Machine

namespace Redpill

/-- The routing table: the gateway of every destination that has a route. -/
structure RouteTable where
  gateway : String → Option String

inductive IpCommand where
  | add (route : Route)
  | del (destination : String) (via : Option String)
deriving Repr, DecidableEq

/-- The server is named by its address, which is never a prefix. -/
structure TunnelRoutes extends SavedRoutes where
  address : '/' ∉ serverRealIp.toList

namespace RouteTable

def insert (table : RouteTable) (route : Route) : RouteTable :=
  ⟨fun destination =>
    if destination = route.destination then some route.gateway
    else table.gateway destination⟩

def erase (table : RouteTable) (gone : String) : RouteTable :=
  ⟨fun destination =>
    if destination = gone then none else table.gateway destination⟩

/-- `run_cmd("ip", ..)`: an existing route is not added again, and only a route
that is there can be deleted. -/
def runCmd (table : RouteTable) : IpCommand → Option RouteTable
  | .add route =>
      match table.gateway route.destination with
      | some _ => none
      | none => some (table.insert route)
  | .del destination via =>
      match table.gateway destination with
      | some gateway =>
          if via.all fun named => decide (gateway = named) then
            some (table.erase destination)
          else none
      | none => none

/-- Commands one after the other, up to the first error. -/
def all (table : RouteTable) (commands : List IpCommand) : Option RouteTable :=
  commands.foldlM runCmd table

/-- Commands one after the other, errors ignored. -/
def each (table : RouteTable) (commands : List IpCommand) : RouteTable :=
  commands.foldl (fun table command => (table.runCmd command).getD table) table

/-- When the process dies, the TUN device goes with it, and with the device
every route that leads through it. -/
def processDeath (table : RouteTable) (serverTunnelIp : String) : RouteTable :=
  ⟨fun destination =>
    (table.gateway destination).filter fun via => decide (via ≠ serverTunnelIp)⟩

end RouteTable

namespace SavedRoutes

def setupClientRoutes (saved : SavedRoutes) : List IpCommand :=
  [.add ⟨saved.serverRealIp, saved.gateway⟩,
    .add ⟨lowHalf, saved.serverTunnelIp⟩,
    .add ⟨highHalf, saved.serverTunnelIp⟩]

def cleanupClientRoutes (saved : SavedRoutes) : List IpCommand :=
  [.del saved.serverRealIp (some saved.gateway), .del lowHalf none,
    .del highHalf none]

end SavedRoutes

def cleanupStaleClient : List IpCommand :=
  [.del lowHalf none, .del highHalf none]

/-- A run of the client, as far as its routes go: the table, the routes that
its setup has installed, and the commands that it still has to give. -/
structure RouteRun where
  table : RouteTable
  installed : List Route
  pending : List IpCommand

namespace RouteRun

def start (table : RouteTable) (saved : SavedRoutes) : RouteRun where
  table := table
  installed := []
  pending :=
    cleanupStaleClient ++ saved.setupClientRoutes ++ saved.cleanupClientRoutes

/-- The next command.  It may also fail for a reason of its own.  An error
while adding ends the run, one while deleting is ignored. -/
def step (run : RouteRun) (starts : Bool) : Option RouteRun :=
  match run.pending with
  | [] => none
  | .add route :: rest =>
      match if starts then run.table.runCmd (.add route) else none with
      | some table => some ⟨table, run.installed ++ [route], rest⟩
      | none => some { run with pending := [] }
  | .del destination via :: rest =>
      match if starts then run.table.runCmd (.del destination via) else none with
      | some table => some { run with table := table, pending := rest }
      | none => some { run with pending := rest }

/-- What the next run finds when the stale routes of a killed one have been
cleaned up. -/
def recovered (run : RouteRun) (saved : SavedRoutes) : RouteTable :=
  (run.table.processDeath saved.serverTunnelIp).each cleanupStaleClient

/-- None of the installed routes is left, and a new setup with the same server
and gateway succeeds, whatever its address in the tunnel is. -/
def Recovers (run : RouteRun) (saved : SavedRoutes) : Prop :=
  (∀ route ∈ run.installed,
    (run.recovered saved).gateway route.destination ≠ some route.gateway) ∧
  ∀ serverTunnelIp : String,
    ((run.recovered saved).all
      { saved with serverTunnelIp := serverTunnelIp }.setupClientRoutes).isSome

end RouteRun

theorem TunnelRoutes.serverRealIp_ne (routes : TunnelRoutes) :
    routes.serverRealIp ≠ lowHalf ∧ routes.serverRealIp ≠ highHalf := by
  constructor
  · intro h
    exact routes.address (h ▸ by decide)
  · intro h
    exact routes.address (h ▸ by decide)

theorem lowHalf_ne_highHalf : lowHalf ≠ highHalf := by decide

namespace RouteTable

/-- Deleting a destination leaves no route to it and every other route. -/
theorem getD_runCmd_del (table : RouteTable) (gone destination : String) :
    ((table.runCmd (.del gone none)).getD table).gateway destination =
      if destination = gone then none else table.gateway destination := by
  rw [runCmd]
  cases hgateway : table.gateway gone with
  | some via => simp [erase]
  | none =>
      by_cases hgone : destination = gone
      · simp [hgone, hgateway]
      · simp [hgone]

theorem each_cleanupStaleClient (table : RouteTable) (destination : String) :
    (table.each cleanupStaleClient).gateway destination =
      if destination = lowHalf ∨ destination = highHalf then none
      else table.gateway destination := by
  simp only [each, cleanupStaleClient, List.foldl_cons, List.foldl_nil,
    getD_runCmd_del]
  by_cases hhigh : destination = highHalf
  · simp [hhigh]
  · simp [hhigh]

/-- A setup succeeds exactly if none of its three destinations has a route. -/
theorem all_setupClientRoutes (table : RouteTable) (routes : TunnelRoutes)
    (serverTunnelIp : String) :
    (table.all { routes.toSavedRoutes with
        serverTunnelIp := serverTunnelIp }.setupClientRoutes).isSome ↔
      table.gateway routes.serverRealIp = none ∧
        table.gateway lowHalf = none ∧ table.gateway highHalf = none := by
  obtain ⟨hlow, hhigh⟩ := routes.serverRealIp_ne
  have hhalves := lowHalf_ne_highHalf
  cases hhost : table.gateway routes.serverRealIp <;>
    cases hlowVia : table.gateway lowHalf <;>
    cases hhighVia : table.gateway highHalf <;>
    simp [all, SavedRoutes.setupClientRoutes, runCmd, insert, hhost, hlowVia,
      hhighVia, hlow.symm, hhigh.symm, hhalves.symm]

end RouteTable

namespace RouteRun

/-- Every route that is installed, or still to be, leads to the server or to
one of the halves. -/
structure Own (saved : SavedRoutes) (run : RouteRun) : Prop where
  installed : ∀ route ∈ run.installed,
    route.destination ∈ [saved.serverRealIp, lowHalf, highHalf]
  pending : ∀ route, IpCommand.add route ∈ run.pending →
    route.destination ∈ [saved.serverRealIp, lowHalf, highHalf]

theorem own_start (table : RouteTable) (saved : SavedRoutes) :
    Own saved (start table saved) where
  installed := by
    intro route hroute
    exact absurd hroute List.not_mem_nil
  pending := by
    intro route hroute
    simp [start, cleanupStaleClient, SavedRoutes.setupClientRoutes,
      SavedRoutes.cleanupClientRoutes] at hroute
    rcases hroute with rfl | rfl | rfl <;> simp

/-- What a command can do to the run. -/
theorem step_cases {run next : RouteRun} {starts : Bool}
    (h : run.step starts = some next) :
    (∃ route rest, run.pending = .add route :: rest ∧
        next.installed = run.installed ++ [route] ∧ next.pending = rest) ∨
      (next.installed = run.installed ∧
        ∀ command ∈ next.pending, command ∈ run.pending) := by
  rw [step] at h
  split at h
  · exact absurd h (Option.some_ne_none next).symm
  · rename_i route rest hpending
    split at h
    · obtain rfl := Option.some.inj h
      exact Or.inl ⟨route, rest, hpending, rfl, rfl⟩
    · obtain rfl := Option.some.inj h
      refine Or.inr ⟨rfl, ?_⟩
      intro command hcommand
      exact absurd hcommand List.not_mem_nil
  · rename_i destination via rest hpending
    right
    split at h
    · obtain rfl := Option.some.inj h
      refine ⟨rfl, ?_⟩
      intro command hcommand
      exact hpending ▸ List.mem_cons_of_mem _ hcommand
    · obtain rfl := Option.some.inj h
      refine ⟨rfl, ?_⟩
      intro command hcommand
      exact hpending ▸ List.mem_cons_of_mem _ hcommand

theorem own_step {saved : SavedRoutes} {run next : RouteRun} {starts : Bool}
    (hown : Own saved run) (h : run.step starts = some next) :
    Own saved next := by
  rcases step_cases h with ⟨route, rest, hpending, hinstalled, hrest⟩ |
    ⟨hinstalled, hrest⟩
  · constructor
    · intro other hother
      rw [hinstalled, List.mem_append, List.mem_singleton] at hother
      rcases hother with hother | rfl
      · exact hown.installed other hother
      · exact hown.pending other (hpending ▸ List.mem_cons_self)
    · intro other hother
      rw [hrest] at hother
      exact hown.pending other (hpending ▸ List.mem_cons_of_mem _ hother)
  · constructor
    · intro other hother
      exact hown.installed other (hinstalled ▸ hother)
    · intro other hother
      exact hown.pending other (hrest _ hother)

theorem recovered_gateway (run : RouteRun) (saved : SavedRoutes)
    (destination : String) :
    (run.recovered saved).gateway destination =
      if destination = lowHalf ∨ destination = highHalf then none
      else (run.table.gateway destination).filter
        fun via => decide (via ≠ saved.serverTunnelIp) :=
  RouteTable.each_cleanupStaleClient _ _

/-- The route to the server outlives the process if it leads past the TUN
device. -/
theorem recovered_serverRealIp (run : RouteRun) (routes : TunnelRoutes) :
    (run.recovered routes.toSavedRoutes).gateway routes.serverRealIp = none ↔
      ∀ via, run.table.gateway routes.serverRealIp = some via →
        via = routes.serverTunnelIp := by
  obtain ⟨hlow, hhigh⟩ := routes.serverRealIp_ne
  rw [recovered_gateway, if_neg (not_or.mpr ⟨hlow, hhigh⟩),
    Option.filter_eq_none_iff]
  constructor
  · intro h via hvia
    simpa using h via hvia
  · intro h via hvia
    simpa using h via hvia

/-- Wherever the client was killed: its routes are gone and the next run can
set up its own exactly if the table held, at that moment, no route to the
server but through the TUN device. -/
theorem recovers_iff (routes : TunnelRoutes) (table : RouteTable)
    (outcomes : List Bool) (killed : RouteRun)
    (hrun : Machine.run step (start table routes.toSavedRoutes) outcomes =
      some killed) :
    killed.Recovers routes.toSavedRoutes ↔
      ∀ via, killed.table.gateway routes.serverRealIp = some via →
        via = routes.serverTunnelIp := by
  have hown : Own routes.toSavedRoutes killed :=
    Machine.Reachable.invariant (fun _ _ _ => own_step)
      (own_start table routes.toSavedRoutes) ⟨outcomes, hrun⟩
  rw [← recovered_serverRealIp]
  constructor
  · intro ⟨_, hsetup⟩
    have hnext := hsetup routes.serverTunnelIp
    rw [RouteTable.all_setupClientRoutes] at hnext
    exact hnext.1
  · intro hhost
    have hlow : (killed.recovered routes.toSavedRoutes).gateway lowHalf =
        none := by rw [recovered_gateway, if_pos (Or.inl rfl)]
    have hhigh : (killed.recovered routes.toSavedRoutes).gateway highHalf =
        none := by rw [recovered_gateway, if_pos (Or.inr rfl)]
    constructor
    · intro route hroute
      have hdestination := hown.installed route hroute
      simp only [List.mem_cons, List.not_mem_nil, or_false] at hdestination
      rcases hdestination with hd | hd | hd
      · rw [hd, hhost]
        exact (Option.some_ne_none _).symm
      · rw [hd, hlow]
        exact (Option.some_ne_none _).symm
      · rw [hd, hhigh]
        exact (Option.some_ne_none _).symm
    · intro serverTunnelIp
      rw [RouteTable.all_setupClientRoutes]
      exact ⟨hhost, hlow, hhigh⟩

/-- A client behind 192.168.1.1. -/
def sampleRoutes : TunnelRoutes where
  serverRealIp := "203.0.113.5"
  gateway := "192.168.1.1"
  serverTunnelIp := "10.0.0.1"
  address := by decide

/-- The table of a machine with no route of its own. -/
def emptyTable : RouteTable := ⟨fun _ => none⟩

/-- Killed after cleanup has deleted the route to the server: the next run
starts on a clean table. -/
theorem recovers_after_cleanup :
    ∃ killed : RouteRun,
      Machine.run step (start emptyTable sampleRoutes.toSavedRoutes)
        [true, true, true, true, true, true] = some killed ∧
      killed.Recovers sampleRoutes.toSavedRoutes := by
  refine ⟨_, rfl, ?_⟩
  apply (recovers_iff sampleRoutes emptyTable
    [true, true, true, true, true, true] _ rfl).mpr
  intro via hvia
  have hnone : (none : Option String) = some via := hvia
  exact absurd hnone.symm (Option.some_ne_none via)

/-- Killed after the first route was added: that route stays, and the next run
cannot add it. -/
theorem host_route_left :
    ∃ killed : RouteRun,
      Machine.run step (start emptyTable sampleRoutes.toSavedRoutes)
        [true, true, true] = some killed ∧
      (∃ route ∈ killed.installed,
        (killed.recovered sampleRoutes.toSavedRoutes).gateway
          route.destination = some route.gateway) ∧
      (killed.recovered sampleRoutes.toSavedRoutes).all
        sampleRoutes.toSavedRoutes.setupClientRoutes = none ∧
      ¬ killed.Recovers sampleRoutes.toSavedRoutes := by
  refine ⟨_, rfl, ⟨⟨"203.0.113.5", "192.168.1.1"⟩, by decide, by decide⟩,
    rfl, ?_⟩
  intro hrecovers
  exact hrecovers.1 ⟨"203.0.113.5", "192.168.1.1"⟩ (by decide) (by decide)

end RouteRun

end Redpill
