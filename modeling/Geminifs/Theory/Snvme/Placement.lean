import Geminifs.Theory.Snvme.Hardware

/-!
# Where Rings Are

`NVM_ADD_USER_QUEUE` takes the addresses of rings and gives the controller the
first DMA address of the map that an address was found in. The controller then
takes the ring to begin there and to be contiguous. The module does not check any
of this; the description of the ioctl leaves it to its caller to pass addresses at
the begin of a page, of buffers that are long enough and contiguous for the
device. The theorem says that this is exactly what is needed.

`addrs` gives the DMA addresses of the pages of each map, of which `MapDesc` has
the first.

## Main definitions

* `dmaOf`: The DMA address of an address of a map.
* `RingAt`: A ring lies at consecutive DMA addresses.
* `Contiguous`: What the caller has to see to.

## Theorems

* `ringAt_iff`: A ring is where the command says exactly if the caller saw to it.
* `rings_placed_iff`: The same for every ring of a batch.
-/

namespace Geminifs.Snvme

open Runs

/-- The sizes of the entries of submission and completion queues. -/
def sqEntrySize : Nat := 64

def cqEntrySize : Nat := 16

variable (addrs : List Nat) (m : MapDesc)

/-- The DMA address of a virtual address of a map whose pages have the given DMA
    addresses. -/
def dmaOf (v : Nat) : Option Nat :=
  addrs[(v - m.vaddr) / m.pageSize]?.map (· + (v - m.vaddr) % m.pageSize)

/-- The bytes from a virtual address on lie at consecutive DMA addresses. -/
def RingAt (v bytes base : Nat) : Prop :=
  ∀ k < bytes, dmaOf addrs m (v + k) = some (base + k)

/-- The address is the first of a page, and the pages it needs are mapped one after
    the other. -/
def Contiguous (v bytes : Nat) : Prop :=
  v % m.pageSize = 0 ∧ ∀ i, i * m.pageSize < bytes → addrs[i]? = some (m.addr + i * m.pageSize)

/-- The maps are made of pages, whose DMA addresses begin with the one in the map. -/
def Pinned (d : Driver) (addrs : Nat → List Nat) : Prop :=
  ∀ r ∈ d.regs, 0 < r.desc.pageSize ∧ (addrs r.id)[0]? = some r.desc.addr

theorem ringAt_iff {addrs : List Nat} {m : MapDesc} {v bytes : Nat} (hpage : 0 < m.pageSize)
    (hfirst : addrs[0]? = some m.addr) (hv : m.vaddr = pageOf m.pageSize v) (hbytes : 0 < bytes) :
    RingAt addrs m v bytes m.addr ↔ Contiguous addrs m v bytes := by
  have hoff : v - m.vaddr = v % m.pageSize := by
    rw [hv, pageOf]
    have := Nat.mod_le v m.pageSize
    omega
  have hlt : v % m.pageSize < m.pageSize := Nat.mod_lt _ hpage
  have hle : m.vaddr ≤ v := by
    rw [hv, pageOf]
    omega
  constructor
  · intro hring
    -- The first byte says where in the page the ring begins.
    have hzero : v % m.pageSize = 0 := by
      have h := hring 0 hbytes
      rw [dmaOf, Nat.add_zero, hoff, Nat.div_eq_of_lt hlt, hfirst, Option.map_some,
        Nat.mod_eq_of_lt hlt, Option.some.injEq] at h
      omega
    refine ⟨hzero, fun i hi => ?_⟩
    have h := hring (i * m.pageSize) hi
    have hdist : v + i * m.pageSize - m.vaddr = i * m.pageSize := by omega
    rw [dmaOf, hdist, Nat.mul_div_cancel _ hpage, Nat.mul_mod_left] at h
    rcases Option.map_eq_some_iff.mp h with ⟨a, ha, heq⟩
    rw [ha, ← heq, Nat.add_zero]
  · rintro ⟨hzero, hpages⟩ k hk
    have hdist : v + k - m.vaddr = k := by omega
    have hpage' : k / m.pageSize * m.pageSize < bytes := by
      have := Nat.div_mul_le_self k m.pageSize
      omega
    rw [dmaOf, hdist, hpages _ hpage', Option.map_some, Nat.add_assoc, Nat.mul_comm,
      Nat.div_add_mod]

/-- The rings of a batch are those that were found for its pairs. -/
theorem zip_of_mapM {pairs : List QueuePair} {f : QueuePair → Option (Registered × Registered)}
    {rings : List (Registered × Registered)} (h : pairs.mapM f = some rings) :
    ∀ x ∈ pairs.zip rings, f x.1 = some x.2 := by
  induction pairs generalizing rings with
  | nil => exact fun x hx => absurd hx (by simp)
  | cons pr pairs ih =>
    rw [List.mapM_cons] at h
    rcases Option.bind_eq_some_iff.mp h with ⟨y, hy, h⟩
    rcases Option.bind_eq_some_iff.mp h with ⟨ys, hys, h⟩
    rw [← Option.some.inj h]
    exact List.forall_mem_cons.mpr ⟨hy, ih hys⟩

/-- The queues of an accepted batch are made with the first DMA addresses of the maps
    found for their rings. A ring is at the DMA address of its virtual address, with
    room for all entries in a row, exactly if its address is that of a page and the
    pages are mapped in a row. -/
theorem rings_placed_iff (d : Driver) (addrs : Nat → List Nat) (hpinned : Pinned d addrs)
    (c fd task : Nat) (req : AddReq) (env : AddEnv) (out : List (Nat × Nat × Nat))
    (hok : (d.result (.ioctl c fd task (.addUserQueue req env))).reply = .queues out) :
    ∃ (ndev : NvmeDev) (qids : List Nat) (rings : List (Registered × Registered)),
      (d.ctrls c).ndev = some ndev ∧ qids.length = req.pairs.length ∧ rings.length = req.pairs.length ∧
      d.events (.ioctl c fd task (.addUserQueue req env)) =
        (qids.zip rings).flatMap (madeEvents c (qsize ndev)) ∧
      (0 < ndev.qDepth → ∀ x ∈ req.pairs.zip rings,
        (RingAt (addrs x.2.1.id) x.2.1.desc x.1.sqVaddr (ndev.qDepth * sqEntrySize)
            x.2.1.desc.addr ↔
          Contiguous (addrs x.2.1.id) x.2.1.desc x.1.sqVaddr (ndev.qDepth * sqEntrySize)) ∧
        (RingAt (addrs x.2.2.id) x.2.2.desc x.1.cqVaddr (ndev.qDepth * cqEntrySize)
            x.2.2.desc.addr ↔
          Contiguous (addrs x.2.2.id) x.2.2.desc x.1.cqVaddr (ndev.qDepth * cqEntrySize))) := by
  rcases addUserQueue_queues hok with
    ⟨own, g, ndev, p, p', qids, rings, rfl, -, hrings, hlen, hb, -, hevents, -⟩
  have hrlen : rings.length = req.pairs.length :=
    (forall_of_mapM (P := fun _ => True) (fun _ _ _ => trivial) hrings).1
  refine ⟨ndev, qids, rings, hb.alloc.dev, hlen.trans hrlen, hrlen, hevents, fun hdepth x hx => ?_⟩
  -- What was found begins with the page of its address.
  have hfound := findRegs_induct
    (P := fun r => r ∈ d.groupMaps own.fd req.groupId ∧
      r.desc.vaddr = pageOf r.desc.pageSize x.1.sqVaddr)
    (Q := fun r => r ∈ d.groupMaps own.fd req.groupId ∧
      r.desc.vaddr = pageOf r.desc.pageSize x.1.cqVaddr)
    (fun r hr h => ⟨hr, h.1⟩) (fun r hr h => ⟨hr, h.1⟩) (fun r h => absurd h (by simp))
    (fun r h => absurd h (by simp)) (zip_of_mapM hrings x hx)
  have hsq := hpinned _ (mem_groupMaps.mp hfound.1.1).1
  have hcq := hpinned _ (mem_groupMaps.mp hfound.2.1).1
  exact ⟨ringAt_iff hsq.1 hsq.2 hfound.1.2 (Nat.mul_pos hdepth (by decide)),
    ringAt_iff hcq.1 hcq.2 hfound.2.2 (Nat.mul_pos hdepth (by decide))⟩

/-- One page for each of the two rings of `ringsInUse`. -/
def onePage : Nat → List Nat := fun id => if id = 5 then [40960] else [81920]

/-- A request for one queue with rings at the given addresses. -/
def addAt (sqVaddr cqVaddr : Nat) : Request :=
  .ioctl 0 1 10 (.addUserQueue ⟨1, 0, [], [⟨sqVaddr, cqVaddr⟩]⟩
    ⟨true, true, true, fun _ => 0, fun _ => 0, true⟩)

theorem rings_placed_iff_onePage : let d := run Driver.step Driver.init (ringsInUse.take 6)
    Pinned d onePage ∧ ∃ (ndev : NvmeDev) (rings : List (Registered × Registered)),
      (d.ctrls 0).ndev = some ndev ∧ rings.length = 1 ∧
      (0 < ndev.qDepth → ∀ x ∈ [(⟨4096, 8192⟩ : QueuePair)].zip rings,
        (RingAt (onePage x.2.1.id) x.2.1.desc 4096 (ndev.qDepth * sqEntrySize) x.2.1.desc.addr ↔
          Contiguous (onePage x.2.1.id) x.2.1.desc 4096 (ndev.qDepth * sqEntrySize))) := by
  have hpinned : Pinned (run Driver.step Driver.init (ringsInUse.take 6)) onePage := by
    unfold Pinned
    decide
  rcases rings_placed_iff (run Driver.step Driver.init (ringsInUse.take 6)) onePage hpinned 0 1 10
    ⟨1, 0, [], [⟨4096, 8192⟩]⟩ ⟨true, true, true, fun _ => 0, fun _ => 0, true⟩ [(3, 4120, 4124)] rfl
    with ⟨ndev, qids, rings, hndev, -, hlen, -, hiff⟩
  refine ⟨hpinned, ndev, rings, hndev, hlen, fun hdepth x hx => ?_⟩
  have hvaddr : x.1 = ⟨4096, 8192⟩ := List.mem_singleton.mp (List.of_mem_zip hx).1
  have h := (hiff hdepth x hx).1
  rwa [hvaddr] at h

/-- Addresses inside of pages are accepted, and the queue of 1024 entries is made at
    the begin of the page: 64 bytes before its ring, and in a map of one page. -/
theorem ring_misplaced : let d := run Driver.step Driver.init (ringsInUse.take 6)
    (d.result (addAt 4160 8208)).cmds = [.createCq 3 81920 1023, .createSq 3 40960 1023] ∧
      ((d.regs.find? (fun r => r.id = 5)).bind fun r => dmaOf (onePage 5) r.desc 4160) =
        some 41024 ∧
      ((d.regs.find? (fun r => r.id = 5)).bind fun r => dmaOf (onePage 5) r.desc (4160 + 4032)) =
        none := by
  decide

end Geminifs.Snvme
