import Geminifs.Library.Copying
import Geminifs.Library.Striping

/-!
# Transfers between GPU Memory and a GPU File

A GPU file is striped over the NVMe files of several controllers. Before a tensor can
be transferred, it is registered: it is cut into groups of the granularity, each
group is cut into slices of the largest I/O that every controller takes, and a slice
gets a PRP entry with the memory pages of one command.

A transfer looks up the entries of the group at the tensor's address. The kernel has
one thread for each of them, which computes the place of its entry in the NVMe files
from the entry's own length.

Sizes and addresses are in bytes; a memory page is the number of an entry of the
tensor's `ioaddrs`.

## Main definitions

* `NVMeController`: A controller, with the bounds on its largest I/O.
* `performDMASlicing`, `initializePRPEntries`: The groups, and their entries.
* `createDMAContext`, `createDMAContexts`: Registration of one tensor, and of
  several.
* `lookupMappings`: The entries of a tensor.
* `nvmeXferKernel`, `nvmeBatchXferKernel`: The places that the threads of a transfer
  compute.
* `checkFileAccessSafety`, `issued`: The check that a thread makes, and the commands
  that are left.
* `write`, `read`: What the commands move.
-/

namespace Geminifs.Gemini

open Copying Striping

/-! ### Registration -/

/-- A controller as far as slicing sees it. Its constructor throws if the largest I/O
    is above 1 MiB or not a multiple of 4096. -/
structure NVMeController where
  maxIOsize : Nat
  small : maxIOsize ≤ 1048576
  aligned : 4096 ∣ maxIOsize

/-- The constructor; the configuration has the size in KiB. -/
def newNVMeController (kib : Nat) : Option NVMeController :=
  if hlarge : 1024 < kib then none
  else if halign : kib * 1024 % 4096 ≠ 0 then none
  else some ⟨kib * 1024, by omega, Nat.dvd_of_mod_eq_zero (not_not.mp halign)⟩

/-- `UINT64_MAX`. -/
def uint64Max : Nat := 18446744073709551615

variable (ctrls : List NVMeController)

/-- The smallest of the largest I/Os. A controller with 0 does not count; there is
    none if no other is left. -/
def minMaxIoSize : Option Nat :=
  let m := ctrls.foldl (fun m c => if 0 < c.maxIOsize then min m c.maxIOsize else m) uint64Max
  if m = uint64Max then none else some m

/-- `PRPMappingEntry::transfer_type`: one page, two pages, or a list of pages. -/
inductive PrpType where
  | singlePage
  | dualPage
  | list
  deriving DecidableEq, Repr

/-- `PRPMappingEntry`: `prp1` is a page, and `prp2` are the pages that the second
    pointer leads to. -/
structure PRPMappingEntry where
  transferType : PrpType
  dataLength : Nat
  prp1 : Nat
  prp2 : List Nat
  tensorOffset : Nat
  deriving DecidableEq, Repr

/-- `SubSliceInfo`. -/
structure SubSliceInfo where
  offset : Nat
  size : Nat
  globalOffset : Nat
  deriving DecidableEq, Repr

/-- `GranularitySliceGroup`. -/
structure GranularitySliceGroup where
  gpuTensorPtr : Nat
  granularityOffset : Nat
  granularitySize : Nat
  subSlices : List SubSliceInfo
  prpMappings : List PRPMappingEntry
  deriving DecidableEq, Repr

/-- A tensor in GPU memory: its address and its size. -/
structure Tensor where
  dataPtr : Nat
  size : Nat
  deriving DecidableEq, Repr

/-- The second cut: the slices of a group of the given offset and size. -/
def cutGroup (maxIo offset size : Nat) : List SubSliceInfo :=
  if size ≤ maxIo then [⟨0, size, offset⟩]
  else (pieces maxIo size).map fun p => ⟨p.1, p.2, offset + p.1⟩

/-- `performDMASlicing`, for a tensor at `vaddr`. -/
def performDMASlicing (maxIo vaddr tensorSize granularity : Nat) : List GranularitySliceGroup :=
  if 0 < granularity then
    (pieces granularity tensorSize).map fun p =>
      ⟨vaddr + p.1, p.1, p.2, cutGroup maxIo p.1 p.2, []⟩
  else [⟨vaddr, 0, tensorSize, cutGroup maxIo 0 tensorSize, []⟩]

/-- `getPrpTransferType`. -/
def prpTransferType (sliceSize : Nat) : PrpType :=
  if sliceSize ≤ 4096 then .singlePage else if sliceSize ≤ 8192 then .dualPage else .list

/-- The number of memory pages of a slice. -/
def slicePages (sliceSize : Nat) : Nat := (sliceSize + 4096 - 1) / 4096

/-- The pages after the first one. A list has room for 511. -/
def prp2Pages (type : PrpType) (page sliceSize : Nat) : List Nat :=
  match type with
  | .singlePage => []
  | .dualPage => if 1 < slicePages sliceSize then [page + 1] else []
  | .list => (List.range (min (slicePages sliceSize - 1) 511)).map (page + 1 + ·)

/-- The entry of a slice whose first page is given. -/
def prpEntry (page : Nat) (s : SubSliceInfo) : PRPMappingEntry :=
  { transferType := prpTransferType s.size
    dataLength := s.size % 4294967296
    prp1 := page
    prp2 := prp2Pages (prpTransferType s.size) page s.size
    tensorOffset := s.offset }

/-- What registration finds: the number of pages of the tensor, if it can be mapped,
    and whether memory for lists of pages and for the entries can be had. -/
structure RegisterEnv where
  nIoaddrs : Option Nat
  listsOk : Bool
  mappingsOk : Bool
  deriving DecidableEq, Repr

/-- The loop over the slices of a group, from a page on. It returns the entries and
    the next page. -/
def initSlices (env : RegisterEnv) (nIoaddrs : Nat) :
    Nat → List SubSliceInfo → Option (List PRPMappingEntry × Nat)
  | page, [] => some ([], page)
  | page, s :: ss =>
    -- The tensor has no pages left for the slice.
    if nIoaddrs < page + slicePages s.size then none
    else if prpTransferType s.size = .list ∧ ¬ env.listsOk then none
    else (initSlices env nIoaddrs (page + slicePages s.size) ss).map fun r =>
      (prpEntry page s :: r.1, r.2)

/-- The loop over the groups. -/
def initGroups (env : RegisterEnv) (nIoaddrs : Nat) :
    Nat → List GranularitySliceGroup → Option (List GranularitySliceGroup)
  | _, [] => some []
  | page, g :: gs =>
    match initSlices env nIoaddrs page g.subSlices with
    | none => none
    | some (entries, page') =>
      (initGroups env nIoaddrs page' gs).map ({ g with prpMappings := entries } :: ·)

/-- `initializePRPEntries`. -/
def initializePRPEntries (env : RegisterEnv) (nIoaddrs : Nat)
    (groups : List GranularitySliceGroup) : Option (List GranularitySliceGroup) :=
  if groups.isEmpty then none else initGroups env nIoaddrs 0 groups

/-- `validateTensor`: address and size are multiples of a GPU page. -/
def validateTensor (t : Tensor) : Bool := t.dataPtr % 65536 = 0 && t.size % 65536 = 0

/-- `getDeviceDma`: the number of pages. A tensor without elements has no address. -/
def getDeviceDma (t : Tensor) (env : RegisterEnv) : Option Nat :=
  if t.size = 0 then none else env.nIoaddrs

/-- What both ways to register do with one tensor. -/
def createDma (t : Tensor) (granularity : Nat) (env : RegisterEnv) :
    Option (List GranularitySliceGroup) :=
  match getDeviceDma t env, minMaxIoSize ctrls with
  | some nIoaddrs, some maxIo =>
    match initializePRPEntries env nIoaddrs
      (performDMASlicing maxIo t.dataPtr t.size granularity) with
    | none => none
    | some groups => if ¬ env.mappingsOk then none else some groups
  | _, _ => none

/-- `createDMAContext`. The comparison of the size with itself is the source's: the
    granularity is never looked at. -/
def createDMAContext (t : Tensor) (granularity : Nat)
    (env : RegisterEnv) : Option (List GranularitySliceGroup) :=
  if (0 < granularity ∧ t.size > t.size) ∧ t.size % granularity ≠ 0 then none
  else createDma ctrls t granularity env

/-- The loop over the tensors of a list. -/
def createDmas (ctrls : List NVMeController) (granularity : Nat) (env : RegisterEnv) :
    List Tensor → Option (List (List GranularitySliceGroup))
  | [] => some []
  | t :: ts =>
    match createDma ctrls t granularity env with
    | none => none
    | some groups => (createDmas ctrls granularity env ts).map (groups :: ·)

/-- `createDMAContexts`: the tensors have one size, and it is a multiple of the
    granularity unless it is smaller. -/
def createDMAContexts (ts : List Tensor) (granularity : Nat)
    (env : RegisterEnv) : Option (List (List GranularitySliceGroup)) :=
  match ts with
  | [] => none
  | t :: _ =>
    if ts.any (·.size ≠ t.size) then none
    else if 0 < granularity ∧ t.size > granularity ∧ t.size % granularity ≠ 0 then none
    else createDmas ctrls granularity env ts

/-- `registerTensorMemory`, for a tensor that is not registered yet. -/
def registerTensorMemory (t : Tensor) (granularity : Nat)
    (env : RegisterEnv) : Option (List GranularitySliceGroup) :=
  if ¬ validateTensor t then none
  else if 0 < granularity ∧ granularity % 4096 ≠ 0 then none
  else createDMAContext ctrls t granularity env

/-- `registerTesnsorList`, for tensors that are not registered yet. -/
def registerTensorList (ts : List Tensor) (granularity : Nat)
    (env : RegisterEnv) : Option (List (List GranularitySliceGroup)) :=
  if ts.any fun t => ¬ validateTensor t then none
  else if 0 < granularity ∧ granularity % 4096 ≠ 0 then none
  else createDMAContexts ctrls ts granularity env

/-- `get_prp_mappings`: the entries of the group at an address. -/
def lookupMappings (groups : List GranularitySliceGroup) (ptr : Nat) :
    Option (List PRPMappingEntry) :=
  (groups.find? (·.gpuTensorPtr = ptr)).map (·.prpMappings)

/-! ### The kernels -/

/-- `check_file_access_safety`; a file that is not there has size 0. -/
def checkFileAccessSafety (fileMaxSize tensorSize offset len : Nat) : Bool :=
  fileMaxSize ≠ 0 && len ≤ tensorSize && offset + len ≤ fileMaxSize && offset < fileMaxSize &&
    len ≠ 0 && offset % 4096 = 0 && len % 4096 = 0

/-- What a thread does: an entry, and its place in the NVMe files. -/
structure Io where
  spot : Spot
  entry : PRPMappingEntry
  deriving DecidableEq, Repr

/-- The place of an entry, by its number in the transfer, on `n` files. -/
def gpuBlock (n fileOffset idx : Nat) (entry : PRPMappingEntry) : Io :=
  -- The stride is the length of this entry, as if all entries had it.
  ⟨stripe n entry.dataLength (fileOffset / entry.dataLength + idx), entry⟩

/-- `GPUIoContext`, without the files: those are the same in all contexts of a
    transfer. -/
structure GPUIoContext where
  prpEntry : PRPMappingEntry
  prpIdx : Nat
  fileOffset : Nat
  deriving DecidableEq, Repr

/-- `fill_ctx`: the contexts of one tensor. -/
def fillCtx (entries : List PRPMappingEntry) (fileOffset : Nat) : List GPUIoContext :=
  entries.zipIdx.map fun e => ⟨e.1, e.2, fileOffset⟩

/-- `nvme_xfer_kernel`, up to the check: a thread takes the entry of its number. -/
def nvmeXferKernel (n fileOffset : Nat) (entries : List PRPMappingEntry) : List Io :=
  entries.zipIdx.map fun e => gpuBlock n fileOffset e.2 e.1

/-- `nvme_batch_xfer_kernel`, up to the check: a thread takes the context of its
    number. -/
def nvmeBatchXferKernel (n : Nat) (ctxs : List GPUIoContext) : List Io :=
  ctxs.map fun c => gpuBlock n c.fileOffset c.prpIdx c.prpEntry

/-- The two kernels. -/
inductive Kernel where
  | single
  | batch
  deriving DecidableEq, Repr

/-- The places that the threads of a transfer compute. -/
def assigned (kernel : Kernel) (n fileOffset : Nat) (entries : List PRPMappingEntry) : List Io :=
  match kernel with
  | .single => nvmeXferKernel n fileOffset entries
  | .batch => nvmeBatchXferKernel n (fillCtx entries fileOffset)

/-- Whether a thread goes on after its check. -/
def passes (files : List Nat) (tensorSize : Nat) (io : Io) : Bool :=
  checkFileAccessSafety (files.getD io.spot.file 0) tensorSize io.spot.start io.spot.len

/-- The commands of a transfer, in the order of the threads. -/
def issued (kernel : Kernel) (files : List Nat) (tensorSize fileOffset : Nat)
    (entries : List PRPMappingEntry) : List Io :=
  (assigned kernel files.length fileOffset entries).filter (passes files tensorSize)

/-! ### Data -/

/-- The address of byte `k` of an entry's memory, for a tensor registered at `vaddr`. -/
def PRPMappingEntry.address (vaddr : Nat) (e : PRPMappingEntry) (k : Nat) : Nat :=
  vaddr + (e.prp1 :: e.prp2).getD (k / 4096) 0 * 4096 + k % 4096

/-- The bytes of a command: each with its address and its place. -/
def Io.bytes (vaddr : Nat) (io : Io) : List (Nat × Nat × Nat) :=
  (List.range io.entry.dataLength).map fun k =>
    (io.entry.address vaddr k, io.spot.file, io.spot.start + k)

/-- The NVMe files after commands that write, given the memory. -/
def write {V : Type} (vaddr : Nat) (ios : List Io) (mem : Nat → V) (store : Nat × Nat → V) :
    Nat × Nat → V :=
  copyAll (ios.flatMap (Io.bytes vaddr)) mem store

/-- The memory after commands that read. -/
def read {V : Type} (vaddr : Nat) (ios : List Io) (store : Nat × Nat → V) (mem : Nat → V) :
    Nat → V :=
  copyAll ((ios.flatMap (Io.bytes vaddr)).map Prod.swap) store mem

end Geminifs.Gemini
