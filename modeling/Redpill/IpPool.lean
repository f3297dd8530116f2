/-
The address pool of the VPN subnet (`ip_pool.rs`).  Hosts 2 to 254 of a /24
are handed out, the lowest free one first.
-/
import Redpill.Packet

namespace Redpill

/-- The first three octets of the subnet and the host octets in use. -/
structure IpPool where
  base : UInt8 × UInt8 × UInt8
  allocated : Finset UInt8
  inRange : ∀ host ∈ allocated, 2 ≤ host ∧ host ≤ 254
deriving DecidableEq

namespace IpPool

/-- The host octets `2..=254`, in the order they are tried. -/
def hosts : List UInt8 := (List.range' 2 253).map UInt8.ofNat

theorem mem_hosts {host : UInt8} : host ∈ hosts ↔ 2 ≤ host ∧ host ≤ 254 := by
  simp only [hosts, List.mem_map, List.mem_range'_1, UInt8.le_iff_toNat_le]
  change (∃ n, (2 ≤ n ∧ n < 2 + 253) ∧ UInt8.ofNat n = host) ↔
    2 ≤ host.toNat ∧ host.toNat ≤ 254
  constructor
  · intro ⟨n, hn, hhost⟩
    have hvalue : host.toNat = n := by
      rw [← hhost, UInt8.toNat_ofNat']
      exact Nat.mod_eq_of_lt (by omega)
    omega
  · intro hhost
    exact ⟨host.toNat, by omega, UInt8.ofNat_toNat⟩

def new (base : Ipv4Addr) : IpPool :=
  ⟨(base.a, base.b, base.c), ∅, fun _ hhost => absurd hhost (Finset.notMem_empty _)⟩

/-- The address of a host of the subnet. -/
def address (pool : IpPool) (host : UInt8) : Ipv4Addr :=
  ⟨pool.base.1, pool.base.2.1, pool.base.2.2, host⟩

/-- Whether an address lies in the subnet. -/
def contains (pool : IpPool) (ip : Ipv4Addr) : Bool :=
  decide (ip.a = pool.base.1 ∧ ip.b = pool.base.2.1 ∧ ip.c = pool.base.2.2)

/-- The lowest host octet that is not in use. -/
def freeHost (pool : IpPool) : Option UInt8 :=
  hosts.find? fun host => decide (host ∉ pool.allocated)

/-- Allocate the next available address; `none` if the pool is exhausted. -/
def allocate (pool : IpPool) : Option (Ipv4Addr × IpPool) :=
  match hfree : pool.freeHost with
  | none => none
  | some host =>
      some (pool.address host,
        { pool with
          allocated := insert host pool.allocated
          inRange := by
            intro other hother
            rcases Finset.mem_insert.mp hother with rfl | hold
            · exact mem_hosts.mp (List.mem_of_find?_eq_some hfree)
            · exact pool.inRange other hold })

/-- Give an address back to the pool. -/
def release (pool : IpPool) (ip : Ipv4Addr) : IpPool :=
  if pool.contains ip then
    { pool with
      allocated := pool.allocated.erase ip.d
      inRange := fun host hhost =>
        pool.inRange host (Finset.mem_of_mem_erase hhost) }
  else pool

def isAllocated (pool : IpPool) (ip : Ipv4Addr) : Bool :=
  if pool.contains ip then decide (ip.d ∈ pool.allocated) else false

def len (pool : IpPool) : Nat := pool.allocated.card

def isEmpty (pool : IpPool) : Bool := decide (pool.allocated = ∅)

theorem contains_iff {pool : IpPool} {ip : Ipv4Addr} :
    pool.contains ip = true ↔ ip = pool.address ip.d := by
  cases ip
  simp [contains, address]

/-- What an allocation does: it fails only when every host is in use, and
otherwise takes one that was free. -/
theorem allocate_cases (pool : IpPool) :
    (pool.allocate = none ∧ ∀ host, 2 ≤ host → host ≤ 254 →
        host ∈ pool.allocated) ∨
      ∃ host next, pool.allocate = some (pool.address host, next) ∧
        2 ≤ host ∧ host ≤ 254 ∧ host ∉ pool.allocated ∧
        next.base = pool.base ∧
        next.allocated = insert host pool.allocated := by
  unfold allocate
  split
  · rename_i hfull
    left
    refine ⟨rfl, ?_⟩
    intro host hlow hhigh
    have hnone := List.find?_eq_none.mp hfull host (mem_hosts.mpr ⟨hlow, hhigh⟩)
    simpa using hnone
  · rename_i host hfree
    right
    have hrange := mem_hosts.mp (List.mem_of_find?_eq_some hfree)
    have hunused := List.find?_some hfree
    exact ⟨host, _, rfl, hrange.1, hrange.2, by simpa using hunused, rfl, rfl⟩

theorem allocate_eq_some {pool next : IpPool} {ip : Ipv4Addr}
    (h : pool.allocate = some (ip, next)) :
    ip = pool.address ip.d ∧ ip.d ∉ pool.allocated ∧
      next.base = pool.base ∧ next.allocated = insert ip.d pool.allocated := by
  rcases pool.allocate_cases with ⟨hnone, _⟩ |
    ⟨host, found, hsome, _, _, hfree, hbase, hinsert⟩
  · rw [hnone] at h
    cases h
  · rw [hsome, Option.some.injEq, Prod.mk.injEq] at h
    obtain ⟨rfl, rfl⟩ := h
    exact ⟨rfl, hfree, hbase, hinsert⟩

@[simp] theorem release_base (pool : IpPool) (ip : Ipv4Addr) :
    (pool.release ip).base = pool.base := by
  unfold release
  split <;> rfl

theorem release_allocated {pool : IpPool} {ip : Ipv4Addr}
    (h : ip = pool.address ip.d) :
    (pool.release ip).allocated = pool.allocated.erase ip.d := by
  rw [release, if_pos (contains_iff.mpr h)]

/-- An address is free exactly when the allocation succeeds. -/
theorem allocate_isSome_iff (pool : IpPool) :
    pool.allocate.isSome = true ↔
      ∃ host, 2 ≤ host ∧ host ≤ 254 ∧ host ∉ pool.allocated := by
  rcases pool.allocate_cases with ⟨hnone, hall⟩ |
    ⟨host, next, hsome, hlow, hhigh, hfree, _⟩
  · rw [hnone]
    constructor
    · intro h
      cases h
    · intro ⟨host, hlow, hhigh, hfree⟩
      exact absurd (hall host hlow hhigh) hfree
  · rw [hsome]
    exact ⟨fun _ => ⟨host, hlow, hhigh, hfree⟩, fun _ => rfl⟩

end IpPool

end Redpill
