import Geminifs.Core.Snvme.State

/-!
# Registering Memory

The `NVM_MAP_*` and `NVM_UNMAP_*` ioctls. A map of kind `data` belongs to its
file descriptor, one with a group id to that group; the rest are of the old
protocol, which counts the rings it will make queues of while probing.

An ioctl that fails leaves the state as it was: the counters it raised are
lowered again.

## Main definitions

* `nvmMapHostMemory`, `nvmMapDeviceMemory`, `nvmMapDeviceQueueMemory`: Registering.
* `mapFind`: The map of an address, by task.
* `nvmUnmapHostMemory`, `nvmUnmapDeviceMemory`, `nvmUnmapDeviceQueueMemory`:
  Releasing.
-/

namespace Geminifs.Snvme

/-- `struct nvm_ioctl_map`; the kind is absent if it is none of the known
    ones. -/
structure MapReq where
  vaddrStart : Nat
  groupId : Nat
  mapKind : Option MapKind
  ioqIdx : Int
  isCq : Int
  reserved : List Nat
  deriving DecidableEq, Repr

/-- What the calls of a map ioctl return: pinning gives the first bus address
    or an error. -/
structure MapEnv where
  copyIn : Bool
  pin : Except Int Nat
  copyOut : Bool

def pageSize : Nat := 4096

def gpuPageSize : Nat := 65536

/-- An address rounded down to a page. -/
def pageOf (page vaddr : Nat) : Nat := vaddr - vaddr % page

/-- A map as `create_descriptor` makes it. -/
def createDescriptor (list : MapList) (page task vaddr addr : Nat) : MapDesc :=
  ⟨list, task, pageOf page vaddr, page, .unspecified, 0, .none, -1, -1, addr⟩

/-- Count a ring of the old protocol. -/
def State.countRing (s : State) (isCq : Int) : State :=
  { s with
    ioqMapNum := u32 (s.ioqMapNum + 1)
    cqNum := if isCq ≠ 0 then u32 (s.cqNum + 1) else s.cqNum }

/-- Take a ring of the old protocol off the count. -/
def State.uncountRing (s : State) (m : MapDesc) : State :=
  if 0 ≤ m.ioqIdx then
    { s with
      ioqMapNum := dec32 s.ioqMapNum
      cqNum := if m.isCq ≠ 0 then dec32 s.cqNum else s.cqNum }
  else s

/-- Put a map on its list, unless its addresses cannot be copied out. -/
def State.finishMap (s s' : State) (m : MapDesc) (env : MapEnv) : State × Int :=
  -- Counters that went up for the map come down again, which leaves `s`.
  if env.copyOut then ({ s' with maps := s'.maps ++ [m] }, 0) else (s, efault)

/-- The body that `NVM_MAP_HOST_MEMORY` and `NVM_MAP_DEVICE_MEMORY` share; only
    the former counts rings of the old protocol. -/
def mapMemory (list : MapList) (page : Nat) (counts : Bool) (s : State) (fd task : Nat)
    (req : MapReq) (env : MapEnv) : State × Int :=
  if ¬ env.copyIn then (s, efault)
  else if req.reserved.any (· ≠ 0) then (s, einval)
  else
    match req.mapKind with
    | none => (s, einval)
    | some kind =>
      if (kind = .ringSq ∨ kind = .ringCq) ∧ req.groupId = 0 then (s, einval)
      else
        match env.pin with
        | .error e => (s, e)
        | .ok addr =>
          let m := { createDescriptor list page task req.vaddrStart addr with kind := kind }
          -- Every error from here on unpins the memory. The file is open, so it has an owner.
          match s.findOwner fd with
          | none => (s, enodev)
          | some own =>
            -- Data is held by the descriptor; a group id is accepted and not used.
            if kind = .data then s.finishMap s { m with link := .data fd } env
            else if req.groupId ≠ 0 then
              match own.findQgroup req.groupId with
              | none => (s, enoent)
              | some _ =>
                s.finishMap s
                  { m with groupId := req.groupId, link := .group fd req.groupId } env
            -- The budget of the old protocol is checked before the counters go up.
            else if counts ∧ 0 ≤ req.ioqIdx then
              if s.ioqNum < u32 (s.ioqMapNum + 1) then (s, efault)
              else
                s.finishMap (s.countRing req.isCq)
                  { m with ioqIdx := req.ioqIdx, isCq := req.isCq } env
            else s.finishMap s m env

def nvmMapHostMemory (s : State) (fd task : Nat) (req : MapReq) (env : MapEnv) : State × Int :=
  mapMemory .host pageSize true s fd task req env

def nvmMapDeviceMemory (s : State) (fd task : Nat) (req : MapReq) (env : MapEnv) : State × Int :=
  mapMemory .device gpuPageSize false s fd task req env

/-- `NVM_MAP_DEVICE_QUEUE_MEMORY`: a ring of the old protocol in device
    memory. -/
def nvmMapDeviceQueueMemory (s : State) (task : Nat) (req : MapReq) (env : MapEnv) : State × Int :=
  if ¬ env.copyIn then (s, efault)
  else if req.ioqIdx < 0 then (s, efault)
  else
    match env.pin with
    | .error e => (s, e)
    | .ok addr =>
      let m := createDescriptor .deviceQueue gpuPageSize task req.vaddrStart addr
      if s.ioqNum < u32 (s.ioqMapNum + 1) then (s, efault)
      else
        s.finishMap (s.countRing req.isCq) { m with ioqIdx := req.ioqIdx, isCq := req.isCq } env

/-- `map_find`: the first map of the task at the address, by either page
    size. -/
def mapFind (list : MapList) (task vaddr : Nat) (m : MapDesc) : Bool :=
  m.list = list ∧ m.owner = task ∧
    (m.vaddr = pageOf pageSize vaddr ∨ m.vaddr = pageOf gpuPageSize vaddr)

/-- The body that the `NVM_UNMAP_*` ioctls share. -/
def unmapMemory (list : MapList) (counts : Bool) (s : State) (task vaddr : Nat) (copyIn : Bool) :
    State × Int :=
  if ¬ copyIn then (s, efault)
  else
    match s.maps.find? (mapFind list task vaddr) with
    | none => (s, einval)
    | some m =>
      let s' := if counts then s.uncountRing m else s
      ({ s' with maps := s.maps.eraseP (mapFind list task vaddr) }, 0)

def nvmUnmapHostMemory : State → Nat → Nat → Bool → State × Int := unmapMemory .host true

def nvmUnmapDeviceMemory : State → Nat → Nat → Bool → State × Int := unmapMemory .device false

def nvmUnmapDeviceQueueMemory : State → Nat → Nat → Bool → State × Int :=
  unmapMemory .deviceQueue true

end Geminifs.Snvme
