import Geminifs.Core.Snvme.Driver

/-!
# The Lists of Maps and Their Counters

The `NVM_MAP_*` and `NVM_UNMAP_*` ioctls with every write that they make. A new
map is put on the list of its kind of memory at once; it is linked to a file
descriptor or a group and counted there after that, and an error that comes
later takes back by hand what was counted.

A list that maps are linked to is known by its `MapLink`, and so is its counter:
that of `.data fd` is `nr_data_maps` of the descriptor, and that of
`.group fd id` is `nr_maps` of the group. Both are 32-bit unsigneds, and nothing
but these counters says how long the lists are.

## Main definitions

* `MapCounts`: The counters.
* `Tables`: A controller with the maps it sees, and the counters.
* `Routing`: Where a new map goes.
* `Tables.attach`, `Tables.rollback`: Linking a new map, and taking back its count.
* `Tables.register`: Both, as it goes.
* `Tables.mapHostMemory`, `Tables.mapDeviceMemory`, `Tables.mapDeviceQueueMemory`:
  Registering.
* `MapCounts.unmapMemory`: Releasing, as far as the counters go.
* `Ledger.step`: The module with its counters.
-/

namespace Geminifs.Snvme

open Function

/-- `nr_data_maps` of the descriptors and `nr_maps` of the groups. -/
abbrev MapCounts := MapLink → UInt32

variable (counts : MapCounts)

def MapCounts.inc (link : MapLink) : MapCounts :=
  update counts link (counts link + 1)

def MapCounts.dec (link : MapLink) : MapCounts :=
  update counts link (counts link - 1)

/-- The decrement behind `> 0`. -/
def MapCounts.guardedDec (link : MapLink) : MapCounts :=
  if 0 < counts link then counts.dec link else counts

/-- A counter that is set to 0. -/
def MapCounts.clear (link : MapLink) : MapCounts :=
  update counts link 0

/-- A controller with the maps it sees, and the counters. -/
structure Tables where
  state : State
  counts : MapCounts

variable (t : Tables)

/-- `list_insert`: a new map at the end of its list. -/
def Tables.listInsert (m : MapDesc) : Tables :=
  { t with state := { t.state with maps := t.state.maps ++ [m] } }

/-- Write the map that was inserted last. -/
def Tables.setNewest (m : MapDesc) : Tables :=
  { t with state := { t.state with maps := t.state.maps.dropLast ++ [m] } }

/-- `unmap_and_release` of the map that was inserted last, which is on no list
    after that. -/
def Tables.unmapAndRelease : Tables :=
  { t with state := { t.state with maps := t.state.maps.dropLast } }

/-- How a request is routed: to the data of its descriptor, to a group, to the
    rings of the old protocol, or nowhere. -/
inductive Routing where
  | data
  | group
  | ring
  | plain
  deriving DecidableEq, Repr

def MapReq.routing (req : MapReq) (rings : Bool) (kind : MapKind) : Routing :=
  if kind = .data then .data
  else if req.groupId ≠ 0 then .group
  else if rings ∧ 0 ≤ req.ioqIdx then .ring
  else .plain

/-- Link and count the newest map. -/
def Tables.attach (fd : Nat) (req : MapReq) (m : MapDesc) : Routing → Except Int Tables
  | .data =>
    match t.state.findOwner fd with
    | none => .error enodev
    | some _ =>
      let t' := t.setNewest { m with link := .data fd }
      .ok { t' with counts := t'.counts.inc (.data fd) }
  | .group =>
    match t.state.findOwner fd with
    | none => .error enodev
    | some own =>
      match own.findQgroup req.groupId with
      | none => .error enoent
      | some _ =>
        let t' := t.setNewest { m with groupId := req.groupId, link := .group fd req.groupId }
        .ok { t' with counts := t'.counts.inc (.group fd req.groupId) }
  -- The budget is checked before the counters go up.
  | .ring =>
    if t.state.ioqNum < u32 (t.state.ioqMapNum + 1) then .error efault
    else
      let t' := t.setNewest { m with ioqIdx := req.ioqIdx, isCq := req.isCq }
      .ok { t' with state := t'.state.countRing req.isCq }
  | .plain => .ok t

/-- Take back the count of the newest map. -/
def Tables.rollback (fd : Nat) (req : MapReq) : Routing → Tables
  | .data =>
    match t.state.findOwner fd with
    | none => t
    | some _ => { t with counts := t.counts.guardedDec (.data fd) }
  -- There is no guard here.
  | .group =>
    match (t.state.findOwner fd).bind (Owner.findQgroup · req.groupId) with
    | none => t
    | some _ => { t with counts := t.counts.dec (.group fd req.groupId) }
  | .ring =>
    { t with state :=
      { t.state with
        cqNum := if req.isCq ≠ 0 then dec32 t.state.cqNum else t.state.cqNum
        ioqMapNum := dec32 t.state.ioqMapNum } }
  | .plain => t

/-- What is done with a new map: it is inserted, linked and counted, and taken
    back if that fails or its addresses cannot be copied out. -/
def Tables.register (fd : Nat) (req : MapReq) (m : MapDesc) (route : Routing)
    (copyOut : Bool) : Tables × Int :=
  let t₁ := t.listInsert m
  match t₁.attach fd req m route with
  | .error e => (t₁.unmapAndRelease, e)
  | .ok t₂ => if copyOut then (t₂, 0) else ((t₂.rollback fd req route).unmapAndRelease, efault)

/-- The body that `NVM_MAP_HOST_MEMORY` and `NVM_MAP_DEVICE_MEMORY` share. -/
def Tables.mapMemory (list : MapList) (page : Nat) (rings : Bool) (t : Tables) (fd task : Nat)
    (req : MapReq) (env : MapEnv) : Tables × Int :=
  if ¬ env.copyIn then (t, efault)
  else if req.reserved.any (· ≠ 0) then (t, einval)
  else
    match req.mapKind with
    | none => (t, einval)
    | some kind =>
      if (kind = .ringSq ∨ kind = .ringCq) ∧ req.groupId = 0 then (t, einval)
      else
        match env.pin with
        | .error e => (t, e)
        | .ok addr =>
          let m := { createDescriptor list page task req.vaddrStart addr with kind := kind }
          t.register fd req m (req.routing rings kind) env.copyOut

/-- `NVM_MAP_HOST_MEMORY`. -/
def Tables.mapHostMemory : Tables → Nat → Nat → MapReq → MapEnv → Tables × Int :=
  Tables.mapMemory .host pageSize true

/-- `NVM_MAP_DEVICE_MEMORY`. -/
def Tables.mapDeviceMemory : Tables → Nat → Nat → MapReq → MapEnv → Tables × Int :=
  Tables.mapMemory .device gpuPageSize false

/-- `NVM_MAP_DEVICE_QUEUE_MEMORY`, which knows the rings of the old protocol only. -/
def Tables.mapDeviceQueueMemory (fd task : Nat) (req : MapReq) (env : MapEnv) : Tables × Int :=
  if ¬ env.copyIn then (t, efault)
  else if req.ioqIdx < 0 then (t, efault)
  else
    match env.pin with
    | .error e => (t, e)
    | .ok addr =>
      let m := createDescriptor .deviceQueue gpuPageSize task req.vaddrStart addr
      t.register fd req m .ring env.copyOut

/-- The three ioctls that register memory. -/
inductive MapCall where
  | host
  | device
  | deviceQueue
  deriving DecidableEq, Repr

def Tables.mapCall : MapCall → Nat → Nat → MapReq → MapEnv → Tables × Int
  | .host, fd, task, req, env => t.mapHostMemory fd task req env
  | .device, fd, task, req, env => t.mapDeviceMemory fd task req env
  | .deviceQueue, fd, task, req, env => t.mapDeviceQueueMemory fd task req env

/-- Count a map off, where the calling descriptor would have linked it. -/
def MapCounts.unmapped (own : Owner) (m : MapDesc) : MapCounts :=
  if m.kind = .data then counts.guardedDec (.data own.fd)
  else if m.groupId ≠ 0 then
    match own.findQgroup m.groupId with
    | none => counts
    | some g => counts.guardedDec (.group own.fd g.groupId)
  else counts

/-- What `NVM_UNMAP_HOST_MEMORY` and `NVM_UNMAP_DEVICE_MEMORY` do to the counters;
    the map is found by its task. -/
def MapCounts.unmapMemory (list : MapList) (maps : List MapDesc)
    (own : Owner) (task vaddr : Nat) (copyIn : Bool) : MapCounts :=
  if ¬ copyIn then counts
  else
    match maps.find? (mapFind list task vaddr) with
    | none => counts
    | some m => counts.unmapped own m

/-- The counters after an ioctl of an open file. -/
def Driver.callCounts (d : Driver) (counts : MapCounts) (c : Nat) (own : Owner) (task : Nat)
    (r : Result) : Call → MapCounts
  | .mapHost req env => (Tables.mapHostMemory ⟨d.view c, counts⟩ own.fd task req env).1.counts
  | .mapDevice req env => (Tables.mapDeviceMemory ⟨d.view c, counts⟩ own.fd task req env).1.counts
  | .mapDeviceQueue req env =>
    (Tables.mapDeviceQueueMemory ⟨d.view c, counts⟩ own.fd task req env).1.counts
  | .unmapHost vaddr ok => counts.unmapMemory .host (d.view c).maps own task vaddr ok
  | .unmapDevice vaddr ok => counts.unmapMemory .device (d.view c).maps own task vaddr ok
  -- A new group has no maps, and one that is destroyed loses them.
  | .createQueueGroup .. =>
    match r.reply with
    | .group groupId _ => counts.clear (.group own.fd groupId)
    | _ => counts
  | .destroyQueueGroup groupId ok =>
    match own.findQgroup groupId with
    | some g => if ok then counts.clear (.group own.fd g.groupId) else counts
    | none => counts
  | _ => counts

/-- The counters after a request. -/
def Driver.countsAfter (d : Driver) (counts : MapCounts) (req : Request) : MapCounts :=
  match req with
  | .devOpen _ _ kzallocOk => if kzallocOk then counts.clear (.data d.next) else counts
  | .devRelease c fd =>
    match (d.ctrls c).findOwner fd with
    | some own =>
      (own.groups.foldl (fun k g => k.clear (.group own.fd g.groupId)) counts).clear (.data own.fd)
    | none => counts
  | .ioctl c fd task call =>
    match (d.ctrls c).findOwner fd with
    | some own => d.callCounts counts c own task (d.result req) call
    | none => counts
  | _ => counts

/-- The module with the counters of its lists. -/
structure Ledger where
  driver : Driver
  counts : MapCounts

def Ledger.init : Ledger := ⟨Driver.init, fun _ => 0⟩

def Ledger.step (l : Ledger) (req : Request) : Ledger :=
  ⟨l.driver.step req, l.driver.countsAfter l.counts req⟩

end Geminifs.Snvme
