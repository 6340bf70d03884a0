import Mathlib.Data.List.AList

/-!
# Memory for Transfers

`HostDeviceMemorySubsystem`: a table of regions. A region is a buffer that the subsystem
has allocated, or one that belongs to the caller; it gets a DMA mapping for each device
that it is used with. Freeing and unregistering take a region out of the table in the
same way, and the destructor does so with every region that is left.

A pointer to a region is its id. Using one that is not in the table any more ends the
process. A null pointer is 0. What the allocators and the mappings return is given in
advance, with null for a failure. Ids and mappings are numbered from counters.

The table is gone through in no particular order, so if a pointer lies in several regions
it is given in advance which of them is found.

## Main definitions

* `MemoryRegion`, `Slot`, `Subsystem`: The table.
* `Event`: What is done with buffers and mappings.
* `Subsystem.allocateHost`, `Subsystem.allocateDevice`, `Subsystem.registerHost`,
  `Subsystem.registerDevice`, `Subsystem.registerExternal`, `Subsystem.registerTensor`,
  `Subsystem.erase`, `Subsystem.destruct`: The calls.
* `Call`, `step`: One call.
-/

namespace Geminifs.Memory

inductive MemoryKind where
  | host
  | pinnedHost
  | device
  | managed
  | external
  deriving DecidableEq, Repr

inductive ExternalMemorySource where
  | appManaged
  | cudaIpc
  | hostShm
  | hostFdMap
  deriving DecidableEq, Repr

/-- `MemoryRegion`. -/
structure MemoryRegion where
  regionId : Nat
  kind : MemoryKind
  cudaDevice : Int := -1
  hostPtr : Nat := 0
  devicePtr : Nat := 0
  size : Nat
  deriving DecidableEq, Repr

/-- `Slot`, with the mapping for each device. -/
structure Slot where
  region : MemoryRegion
  ownsHostAlloc : Bool
  ownsDeviceAlloc : Bool
  dmaPerDevice : AList fun _ : Nat => Nat

/-- The calls that give memory back: `free`, `cudaFreeHost` and `cudaFree`. -/
inductive Heap where
  | malloc
  | pinned
  | cuda
  deriving DecidableEq, Repr

/-- What is done for a region: it gets its id, a buffer is allocated or freed, a mapping is
    made or taken away. -/
inductive Event where
  | create (id : Nat)
  | alloc (id ptr : Nat) (heap : Heap)
  | free (id ptr : Nat) (heap : Heap)
  | map (id dma : Nat)
  | unmap (id dma : Nat)
  deriving DecidableEq, Repr

/-- The region that an event is for. -/
def Event.region : Event → Nat
  | .create id | .alloc id _ _ | .free id _ _ | .map id _ | .unmap id _ => id

structure Subsystem where
  nextRegionId : Nat
  regions : AList fun _ : Nat => Slot
  nextDma : Nat

/-- A `Device`: its address, and whether it has a controller. -/
structure Device where
  addr : Nat
  hasCtrl : Bool
  deriving DecidableEq, Repr

namespace Slot

/-- The mappings of a slot are taken away. -/
def unmaps (slot : Slot) : List Event :=
  slot.dmaPerDevice.entries.map fun e => .unmap slot.region.regionId e.2

/-- The buffers that a slot owns are freed. -/
def frees (slot : Slot) : List Event :=
  (if slot.ownsHostAlloc ∧ slot.region.hostPtr ≠ 0 then
    if slot.region.kind = .pinnedHost then
      [.free slot.region.regionId slot.region.hostPtr .pinned]
    else [.free slot.region.regionId slot.region.hostPtr .malloc]
  else []) ++
  if slot.ownsDeviceAlloc ∧ slot.region.devicePtr ≠ 0 then
    [.free slot.region.regionId slot.region.devicePtr .cuda]
  else []

/-- What is done with a slot before it is erased. -/
def teardown (slot : Slot) : List Event := slot.unmaps ++ slot.frees

/-- Whether a pointer lies in one of the views of a region. -/
def contains (slot : Slot) (ptr : Nat) : Bool :=
  (slot.region.hostPtr ≠ 0 ∧ slot.region.hostPtr ≤ ptr ∧
    ptr < slot.region.hostPtr + slot.region.size) ∨
  (slot.region.devicePtr ≠ 0 ∧ slot.region.devicePtr ≤ ptr ∧
    ptr < slot.region.devicePtr + slot.region.size)

end Slot

variable (s : Subsystem)

namespace Subsystem

def init : Subsystem := ⟨1, ∅, 0⟩

/-- `register_into_table`, of a region with a new id. -/
def registerIntoTable (region : MemoryRegion) (ownsHost ownsDevice : Bool) :
    Subsystem × List Event × Option Nat :=
  let s := { s with nextRegionId := s.nextRegionId + 1 }
  if (s.regions.lookup region.regionId).isSome then (s, [.create region.regionId], none)
  else
    ({ s with regions := s.regions.insert region.regionId ⟨region, ownsHost, ownsDevice, ∅⟩ },
      [.create region.regionId], some region.regionId)

/-- The region of a buffer that has just been allocated. -/
def registerOwned (region : MemoryRegion) (ownsHost ownsDevice : Bool) (ptr : Nat)
    (heap : Heap) : Subsystem × List Event × Option Nat :=
  let r := s.registerIntoTable region ownsHost ownsDevice
  (r.1, .alloc region.regionId ptr heap :: r.2.1, r.2.2)

/-- `allocate_host`. -/
def allocateHost (size : Nat) (kind : MemoryKind) (ptr : Nat) :
    Subsystem × List Event × Option Nat :=
  if size = 0 then (s, [], none)
  else if kind ≠ .host ∧ kind ≠ .pinnedHost then (s, [], none)
  else if ptr = 0 then (s, [], none)
  else
    s.registerOwned { regionId := s.nextRegionId, kind := kind, hostPtr := ptr, size := size }
      true false ptr (if kind = .pinnedHost then .pinned else .malloc)

/-- `allocate_device`. -/
def allocateDevice (size : Nat) (kind : MemoryKind) (deviceId : Int)
    (setDeviceOk : Bool) (ptr : Nat) : Subsystem × List Event × Option Nat :=
  if size = 0 then (s, [], none)
  else
    match kind with
    | .device =>
      if deviceId < 0 then (s, [], none)
      else if ¬ setDeviceOk then (s, [], none)
      else if ptr = 0 then (s, [], none)
      else
        s.registerOwned { regionId := s.nextRegionId, kind := .device, cudaDevice := deviceId,
                          devicePtr := ptr, size := size } false true ptr .cuda
    | .managed =>
      if ptr = 0 then (s, [], none)
      else
        s.registerOwned { regionId := s.nextRegionId, kind := .managed, cudaDevice := deviceId,
                          hostPtr := ptr, devicePtr := ptr, size := size } false true ptr .cuda
    | _ => (s, [], none)

/-- `register_host`. -/
def registerHost (hostPtr size : Nat) : Subsystem × List Event × Option Nat :=
  if hostPtr = 0 ∨ size = 0 then (s, [], none)
  else
    s.registerIntoTable { regionId := s.nextRegionId, kind := .host, hostPtr := hostPtr,
                          size := size } false false

/-- `register_device`. -/
def registerDevice (devicePtr size : Nat) (deviceId : Int) : Subsystem × List Event × Option Nat :=
  if devicePtr = 0 ∨ size = 0 ∨ deviceId < 0 then (s, [], none)
  else
    s.registerIntoTable { regionId := s.nextRegionId, kind := .device, cudaDevice := deviceId,
                          devicePtr := devicePtr, size := size } false false

/-- `register_external`. -/
def registerExternal (hostPtr devicePtr size : Nat)
    (source : ExternalMemorySource) : Subsystem × List Event × Option Nat :=
  if size = 0 then (s, [], none)
  else if hostPtr = 0 ∧ devicePtr = 0 then (s, [], none)
  else if source ≠ .appManaged then (s, [], none)
  else
    s.registerIntoTable { regionId := s.nextRegionId, kind := .external, hostPtr := hostPtr,
                          devicePtr := devicePtr, size := size } false false

/-- `slot_by_ptr_locked`: one of the regions that the pointer lies in. -/
def slotByPtr (ptr pick : Nat) : Option Nat :=
  if ptr = 0 then none
  else
    let ids := (s.regions.entries.filter fun e => e.2.contains ptr).map Sigma.fst
    ids[pick % ids.length]?

/-- `ensure_mapping_locked`, given whether a new mapping can be made. -/
def ensureMapping (id : Nat) (device : Option Device) (ok : Bool) : Subsystem × List Event × Bool :=
  match device, s.regions.lookup id with
  | none, _ | _, none => (s, [], false)
  | some dev, some slot =>
    if (slot.dmaPerDevice.lookup dev.addr).isSome then (s, [], true)
    else if ¬ dev.hasCtrl then (s, [], false)
    -- The view of the GPU is mapped if there is one, and that of the host otherwise.
    else if slot.region.devicePtr = 0 ∧ slot.region.hostPtr = 0 then (s, [], false)
    else if ¬ ok then (s, [], false)
    else
      let slot := { slot with dmaPerDevice := slot.dmaPerDevice.insert dev.addr s.nextDma }
      ({ s with regions := s.regions.insert id slot, nextDma := s.nextDma + 1 },
        [.map id s.nextDma], true)

/-- The loop over the devices of a tensor, from the `i`-th one on. -/
def ensureMappings (id : Nat) (ok : Nat → Bool) :
    Nat → List (Option Device) → Subsystem → Subsystem × List Event × Bool
  | _, [], s => (s, [], true)
  | i, dev :: devs, s =>
    match s.ensureMapping id dev (ok i) with
    | (s, events, false) => (s, events, false)
    | (s, events, true) =>
      let r := ensureMappings id ok (i + 1) devs s
      (r.1, events ++ r.2.1, r.2.2)

/-- What `cudaPointerGetAttributes` says about a pointer. -/
inductive PointerKind where
  | unknown
  | device (dev : Int)
  | hostOrManaged
  deriving DecidableEq, Repr

structure TensorEnv where
  pick : Nat
  pointer : PointerKind
  mapOk : Nat → Bool

/-- The region of a tensor, which is registered if there is none. -/
def regionOf (ptr size : Nat) (env : TensorEnv) : Subsystem × List Event × Option Nat :=
  match s.slotByPtr ptr env.pick with
  | some id => (s, [], some id)
  | none =>
    match env.pointer with
    | .device dev => s.registerDevice ptr size dev
    | .unknown | .hostOrManaged => s.registerHost ptr size

/-- `register_tensor`. -/
def registerTensor (ptr size : Nat) (targets : List (Option Device))
    (env : TensorEnv) : Subsystem × List Event × Option Nat :=
  if ptr = 0 ∨ size = 0 then (s, [], none)
  else
    match s.regionOf ptr size env with
    | (s, events, none) => (s, events, none)
    | (s, events, some region) =>
      match s.slotByPtr ptr env.pick with
      | none => (s, events, none)
      | some id =>
        let r := ensureMappings id env.mapOk 0 targets s
        (r.1, events ++ r.2.1, if r.2.2 then some region else none)

/-- `erase_locked`, of a region that is in the table. -/
def erase (s : Subsystem) (id : Nat) (slot : Slot) : Subsystem × List Event :=
  ({ s with regions := s.regions.erase id }, slot.teardown)

/-- The destructor. -/
def destruct : List Event := s.regions.entries.flatMap fun e => e.2.teardown

end Subsystem

/-- A call, with what happens in it. -/
inductive Call where
  | allocateHost (size : Nat) (kind : MemoryKind) (ptr : Nat)
  | allocateDevice (size : Nat) (kind : MemoryKind) (deviceId : Int) (setDeviceOk : Bool)
      (ptr : Nat)
  | registerHost (hostPtr size : Nat)
  | registerDevice (devicePtr size : Nat) (deviceId : Int)
  | registerExternal (hostPtr devicePtr size : Nat) (source : ExternalMemorySource)
  | registerTensor (ptr size : Nat) (targets : List (Option Device)) (env : Subsystem.TensorEnv)
  | free (region : Option Nat)
  | unregister (region : Option Nat)

/-- `free` and `unregister`. -/
def Subsystem.release : Option Nat → Option (Subsystem × List Event)
  | none => some (s, [])
  | some id =>
    match s.regions.lookup id with
    -- The region has been deleted.
    | none => none
    | some slot => some (s.erase id slot)

/-- A call and what is done in it. -/
def Call.perform : Call → Option (Subsystem × List Event)
  | .allocateHost size kind ptr =>
    let r := s.allocateHost size kind ptr
    some (r.1, r.2.1)
  | .allocateDevice size kind deviceId setDeviceOk ptr =>
    let r := s.allocateDevice size kind deviceId setDeviceOk ptr
    some (r.1, r.2.1)
  | .registerHost hostPtr size =>
    let r := s.registerHost hostPtr size
    some (r.1, r.2.1)
  | .registerDevice devicePtr size deviceId =>
    let r := s.registerDevice devicePtr size deviceId
    some (r.1, r.2.1)
  | .registerExternal hostPtr devicePtr size source =>
    let r := s.registerExternal hostPtr devicePtr size source
    some (r.1, r.2.1)
  | .registerTensor ptr size targets env =>
    let r := s.registerTensor ptr size targets env
    some (r.1, r.2.1)
  | .free region => s.release region
  | .unregister region => s.release region

/-- A call, with everything that has been done so far. -/
def step (w : Subsystem × List Event) (call : Call) : Option (Subsystem × List Event) :=
  (call.perform w.1).map fun r => (r.1, w.2 ++ r.2)

end Geminifs.Memory
