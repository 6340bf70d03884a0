import Geminifs.Core.Snvme.Maps

/-!
# Mapping Buffers

What `nvm_dma_map_data_host`, `nvm_dma_map_data_device` and `nvm_dma_map_device` do with a
buffer, on both sides of the ioctl. The library counts the pages of the buffer from its
size, the kernel pins that many pages from the one that the pointer lies in, and the
library cuts the addresses it gets into pages of the controller.

The controller's page size is the host's, as `sysconf` gives it, so it is also the size of
the pages that the kernel pins for host memory. Memory of a GPU is pinned in pages of
64 KiB. Where a page is on the bus depends on the controller that asks.

The lists of the kernel that a map is put on are those of `Snvme.Maps`; here they only
decide whether the ioctl fails.

## Main definitions

* `pageAlign`: `NVM_PAGE_ALIGN`.
* `mapUserspace`, `mapDeviceMemory`: The kernel's part.
* `createMappingDescriptor`, `createContainer`, `populateHandle`, `nvmDmaInit`: The
  library's part.
* `nvmDmaMapDataHost`, `nvmDmaMapDataDevice`, `nvmDmaMapDevice`: The calls.
* `Creation`, `Shared`, `Shared.perform`: Mappings, and the handles that share one.
-/

namespace Geminifs.Dma

open Snvme (pageOf gpuPageSize einval enomem MapKind MapList)

def ebadf : Int := -9

def enospc : Int := -28

/-- A controller: which one of the kernel's it is, the host's page size, and whether it is
    reached by ioctls. -/
structure Ctrl where
  id : Nat
  pageShift : Nat
  isIoctl : Bool
  deriving DecidableEq, Repr

def Ctrl.pageSize (ctrl : Ctrl) : Nat := 2 ^ ctrl.pageShift

/-- `NVM_PAGE_ALIGN`, on 64 bits; page sizes are powers of two. -/
def pageAlign (size page : Nat) : Nat := pageOf page ((size + page - 1) % 2 ^ 64)

/-- `struct va_range`. -/
structure VaRange where
  vaddr : Nat
  pageSize : Nat
  nPages : Nat
  deriving DecidableEq, Repr

/-- `nvm_dma_t`. -/
structure Handle where
  vaddr : Nat
  pageSize : Nat
  contiguous : Bool
  ioaddrs : List Nat
  deriving DecidableEq, Repr

/-- What the calls of a mapping return. -/
structure Env where
  -- In the library: allocations, and the locks of the controller and of the map.
  descriptor : Bool
  ctrlGet : Bool
  mapAlloc : Bool
  mutexInit : Int
  container : Bool
  addrList : Bool
  -- In the kernel: allocations, `get_user_pages`, `dma_map_page`, and for a GPU
  -- `nvidia_p2p_get_pages`, which pins all pages or none, and `nvidia_p2p_dma_map_pages`
  -- for each controller. Then the rest of the ioctl.
  kernelAlloc : Bool
  got : Int
  dmaMapPage : Int
  getPages : Int
  dmaMapPages : Nat → Int
  finish : Int

/-- The controllers of the kernel, in the order of their list, and where each page of
    memory is on the bus for each of them. -/
structure Kernel where
  ctrlList : List Nat
  bus : Nat → Nat → Nat

/-- The controllers that `map_gpu_memory` has room for. -/
def maxNumCtrls : Nat := 8

/-! ### The kernel -/

/-- The bus addresses of consecutive pages. -/
def pageAddrs (bus : Nat → Nat) (first n : Nat) : List Nat :=
  (List.range n).map fun i => bus (first + i)

/-- `map_userspace`. -/
def mapUserspace (bus : Nat → Nat) (page vaddr nPages : Nat) (env : Env) : Except Int (List Nat) :=
  if nPages < 1 then .error einval
  else if ¬ env.kernelAlloc then .error enomem
  else if env.got < 0 then .error env.got
  -- If no page was pinned this is no error, and all addresses are zero.
  else if env.got = 0 then .ok (List.replicate nPages 0)
  else if env.dmaMapPage ≠ 0 then .error env.dmaMapPage
  else .ok (pageAddrs bus (vaddr / page) env.got.toNat)

/-- The first controller that a GPU's pages cannot be mapped for. -/
def firstError (dmaMapPages : Nat → Int) (n : Nat) : Option Int :=
  ((List.range n).map dmaMapPages).find? (· ≠ 0)

variable (k : Kernel)

/-- `map_device_memory` and `map_gpu_memory`: the pages are mapped for all controllers, and
    the addresses are those of the first. -/
def mapDeviceMemory (vaddr nPages : Nat) (env : Env) : Option (Except Int (List Nat)) :=
  if nPages < 1 then some (.error einval)
  else if ¬ env.kernelAlloc then some (.error enomem)
  else if env.getPages ≠ 0 then some (.error env.getPages)
  else
    match firstError env.dmaMapPages (min k.ctrlList.length maxNumCtrls) with
    | some e => some (.error e)
    | none =>
      -- The array of mappings is too short for more controllers.
      if maxNumCtrls < k.ctrlList.length then none
      else
        match k.ctrlList with
        | [] => some (.ok (List.replicate nPages 0))
        | first :: _ => some (.ok (pageAddrs (k.bus first) (vaddr / gpuPageSize) nPages))

/-! ### The library -/

inductive MappingType where
  | host
  | cuda
  deriving DecidableEq, Repr

/-- `create_mapping_descriptor`. -/
def createMappingDescriptor (page buffer size : Nat) (env : Env) : Except Int VaRange :=
  let nPages := pageAlign size page / page
  if nPages = 0 then .error einval
  else if ¬ env.descriptor then .error enomem
  else .ok ⟨buffer, page, nPages⟩

/-- `n_ctrl_pages`. -/
def nCtrlPages (ctrlPage page nPages : Nat) : Nat := page * nPages % 2 ^ 64 / ctrlPage

/-- The checks of `create_container`. -/
def createContainer (ctrlPage : Nat) (va : VaRange) (env : Env) : Except Int Unit :=
  if va.pageSize = 0 ∨ va.nPages = 0 ∨ va.pageSize * va.nPages % 2 ^ 64 % ctrlPage ≠ 0 then
    .error einval
  else if ¬ env.container then .error enomem
  else .ok ()

/-- The bus address of the `i`-th page of the controller. -/
def ioaddr (ctrlPage page : Nat) (ioaddrs : List Nat) (i : Nat) : Nat :=
  ioaddrs.getD (i * ctrlPage / page) 0 + i * ctrlPage % page

/-- `populate_handle`. -/
def populateHandle (ctrlPage : Nat) (va : VaRange) (ioaddrs : List Nat) : Handle :=
  let n := nCtrlPages ctrlPage va.pageSize va.nPages
  let addr := ioaddr ctrlPage va.pageSize ioaddrs
  { vaddr := va.vaddr
    pageSize := ctrlPage
    contiguous := (List.range (n - 1)).all fun i => addr i + ctrlPage = addr (i + 1)
    ioaddrs := (List.range n).map addr }

variable (ctrl : Ctrl)

/-- `ioctl_map`: the addresses that the kernel has are copied over the zeros of the list. -/
def ioctlMap (type : MappingType) (va : VaRange) (env : Env) : Option (Except Int (List Nat)) :=
  if ctrl.id ∉ k.ctrlList then some (.error ebadf)
  else
    let pinned :=
      match type with
      | .host => some (mapUserspace (k.bus ctrl.id) ctrl.pageSize va.vaddr va.nPages env)
      | .cuda => mapDeviceMemory k va.vaddr va.nPages env
    pinned.map fun
      | .error e => .error e
      | .ok addrs =>
        if env.finish ≠ 0 then .error env.finish
        else .ok (addrs ++ List.replicate (va.nPages - addrs.length) 0)

/-- `_nvm_dma_init`, with `create_map` and `dma_map`. -/
def nvmDmaInit (type : MappingType) (va : VaRange) (env : Env) : Option (Except Int Handle) :=
  if ¬ env.ctrlGet then some (.error enospc)
  else if ¬ env.mapAlloc then some (.error enomem)
  else if env.mutexInit ≠ 0 then some (.error env.mutexInit)
  else
    match createContainer ctrl.pageSize va env with
    | .error e => some (.error e)
    | .ok _ =>
      if ¬ env.addrList then some (.error enomem)
      else (ioctlMap k ctrl type va env).map (·.map (populateHandle ctrl.pageSize va))

/-- What the calls have in common once the arguments are checked. -/
def dmaMap (type : MappingType) (page buffer size : Nat) (env : Env) : Option (Except Int Handle) :=
  match createMappingDescriptor page buffer size env with
  | .error e => some (.error e)
  | .ok va => nvmDmaInit k ctrl type va env

def nvmDmaMapDataHost (vaddr size : Nat) (env : Env) : Option (Except Int Handle) :=
  let size := pageAlign size ctrl.pageSize
  if size = 0 then some (.error einval)
  else if ¬ ctrl.isIoctl then some (.error ebadf)
  else dmaMap k ctrl .host ctrl.pageSize vaddr size env

def nvmDmaMapDataDevice (devptr size : Nat) (env : Env) : Option (Except Int Handle) :=
  if ¬ ctrl.isIoctl then some (.error ebadf)
  else dmaMap k ctrl .cuda gpuPageSize devptr size env

/-- The older call, which asks for a map of no kind. -/
def nvmDmaMapDevice (devptr size : Nat) (env : Env) : Option (Except Int Handle) :=
  if ¬ ctrl.isIoctl then some (.error ebadf)
  else dmaMap k ctrl .cuda gpuPageSize devptr size env

/-- The three calls. -/
inductive Call where
  | dataHost
  | dataDevice
  | device
  deriving DecidableEq, Repr

def Call.perform : Call → Kernel → Ctrl → Nat → Nat → Env → Option (Except Int Handle)
  | .dataHost => nvmDmaMapDataHost
  | .dataDevice => nvmDmaMapDataDevice
  | .device => nvmDmaMapDevice

/-! ### Sharing a mapping -/

/-- `enum mapping_type`. -/
inductive MapType where
  | cuda
  | host
  | cudaQueue
  | api
  deriving DecidableEq, Repr

/-- The part of `struct ioctl_mapping` that concerns unmapping. -/
structure IoctlMapping where
  type : MapType
  buffer : Nat
  isCq : Int
  ioqIdx : Int
  mapKind : MapKind

/-- An unmap ioctl, or a buffer that is freed. -/
inductive Event where
  | unmap (list : MapList) (addr : Nat)
  | free (buffer : Nat)
  deriving DecidableEq, Repr

namespace IoctlMapping

variable (m : IoctlMapping)

/-- The ioctl that `ioctl_map` chooses, by the list that it is for. -/
def mapList : MapList :=
  match m.type with
  | .api | .host => .host
  | .cuda => .device
  | .cudaQueue => .deviceQueue

def ioctlUnmap : List Event :=
  match m.type with
  | .host => [.unmap .host m.buffer]
  | .cuda => [.unmap .device m.buffer]
  | .cudaQueue | .api => []

def ioctlQueueUnmap : List Event := [.unmap .deviceQueue m.buffer]

/-- The callback that `dma_map` picks. -/
def unmap (onHost : Bool) : List Event :=
  match m.mapKind with
  | .ringSq | .ringCq => []
  | .data => m.ioctlUnmap
  | .unspecified =>
    if 0 ≤ m.isCq ∧ 0 ≤ m.ioqIdx then if onHost then m.ioctlUnmap else m.ioctlQueueUnmap
    else m.ioctlUnmap

/-- `remove_mapping_descriptor`. -/
def release : List Event := if m.type = .api then [.free m.buffer] else []

end IoctlMapping

/-- The calls that make mappings, other than those of rings. -/
inductive Creation where
  | create (buffer : Nat)
  | mapHost (vaddr : Nat) (isCq ioqIdx : Int)
  | mapDevice (devptr : Nat)
  | mapQueueDevice (devptr : Nat) (isCq : BitVec 32) (qno : Nat)
  | mapDataHost (vaddr : Nat)
  | mapDataDevice (devptr : Nat)
  -- `nvm_dma_map`, which does not ask the kernel.
  | map

def Creation.descriptor : Creation → Option IoctlMapping
  | .create buffer => some ⟨.api, buffer, -1, -1, .unspecified⟩
  | .mapHost vaddr isCq ioqIdx => some ⟨.host, vaddr, isCq, ioqIdx, .unspecified⟩
  | .mapDevice devptr => some ⟨.cuda, devptr, -1, -1, .unspecified⟩
  | .mapQueueDevice devptr isCq qno => some ⟨.cudaQueue, devptr, isCq.toInt, qno, .unspecified⟩
  | .mapDataHost vaddr => some ⟨.host, vaddr, -1, -1, .data⟩
  | .mapDataDevice devptr => some ⟨.cuda, devptr, -1, -1, .data⟩
  | .map => none

/-- `struct map`, with what its callbacks do, and the number of handles. -/
structure Shared where
  count : Nat
  unmap : List Event
  release : List Event
  handles : Nat

/-- The mapping of a call that succeeds. -/
def Creation.shared (onHost : Bool) (c : Creation) : Shared where
  count := 1
  unmap := c.descriptor.elim [] (·.unmap onHost)
  release := c.descriptor.elim [] (·.release)
  handles := 1

/-- `put_map`; the counter has 32 bits. -/
def Shared.put (s : Shared) : Shared × List Event :=
  let count := (s.count + (2 ^ 32 - 1)) % 2 ^ 32
  ({ s with count }, if count = 0 then s.unmap ++ s.release else [])

/-- `nvm_dma_remap`, which needs the lock and an allocation, and `nvm_dma_unmap`. -/
inductive Use where
  | remap (lock container : Bool)
  | unmap
  deriving DecidableEq, Repr

def Shared.perform (s : Shared) : Use → Shared × List Event
  | .remap lock container =>
    if ¬ lock then (s, [])
    else
      let s := { s with count := (s.count + 1) % 2 ^ 32 }
      if ¬ container then s.put else ({ s with handles := s.handles + 1 }, [])
  | .unmap => { s with handles := s.handles - 1 }.put

end Geminifs.Dma
