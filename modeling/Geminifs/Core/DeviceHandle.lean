import Geminifs.Core.HostStorage

/-!
# The Handle on the GPU

`acquire_device_handle` copies what a kernel needs of a file into GPU memory.
On the GPU, `resolve_lba` walks the extents to find the device blocks of a
range, and `submit_read_one` and `submit_write_one` send one command for them.

All arithmetic is on 64-bit words and wraps around, the range check of
`resolve_lba` included. The command holds the number of blocks in 16 bits.

## Main definitions

* `NvmeFileDeviceHandle`: The handle.
* `acquireDeviceHandle`: Building it.
* `resolveLba`: The device blocks of a range.
* `NvmeCommand`, `submitReadOne`, `submitWriteOne`: The command sent, if any.
* `submitEntry`: The words of it that are put into the ring.
* `decodeRw`: How the controller reads the words of an entry.
-/

namespace Geminifs

open Function

/-- What `NvmeQueueGroup` says about its queue pairs on the GPU. -/
structure QueueGroupView where
  /-- `d_qps() != nullptr`. -/
  hasQps : Bool
  nQps : UInt32
  deriving DecidableEq, Repr

/-- The part of `LocalNvmeDevice` a handle is built from. -/
structure LocalNvmeDevice where
  blkSize : UInt32
  blkSizeLog : UInt32
  namespaceId : UInt32
  queueGroup : Option QueueGroupView
  deriving DecidableEq, Repr

/-- Which of the CUDA calls of `acquire_device_handle` succeed. -/
structure CudaEnv where
  getDeviceOk : Bool
  setDeviceOk : Bool
  mallocOk : Bool
  memcpyOk : Bool
  deriving DecidableEq, Repr

/-- The handle in GPU memory. The array of extents is as long as
    `num_extents` says. -/
structure NvmeFileDeviceHandle where
  fileId : Nat
  logicalSizeBytes : UInt64
  headerBytes : UInt32
  nvmeBlockSize : UInt32
  nvmeBlockSizeLog : UInt32
  namespaceId : UInt32
  numExtents : UInt32
  extents : List LbaExtent
  numDQps : UInt32
  deriving DecidableEq, Repr

/-- `acquire_device_handle`; the device is absent if it has no
    `LocalNvmeDevice` payload. The number of extents is converted to 32 bits
    before it is checked. -/
def acquireDeviceHandle (bp : Option LocalNvmeDevice) (f : NvmeFile) (cuda : CudaEnv) :
    Option NvmeFileDeviceHandle :=
  match bp with
  | none => none
  | some bp =>
    match bp.queueGroup with
    | none => none
    | some qg =>
      if ¬ qg.hasQps ∨ qg.nQps = 0 then none
      else if f.extents = [] then none
      else
        let numExtents := UInt32.ofNat f.extents.length
        if kNvmeFileHeaderMaxExtents < numExtents.toNat then none
        else if ¬ (cuda.getDeviceOk ∧ cuda.setDeviceOk ∧ cuda.mallocOk ∧ cuda.memcpyOk) then
          none
        else
          some { fileId := f.id
                 logicalSizeBytes := f.sizeBytes
                 headerBytes := nvmeFileHeaderSize.toUInt32
                 nvmeBlockSize := bp.blkSize
                 nvmeBlockSizeLog := bp.blkSizeLog
                 namespaceId := bp.namespaceId
                 numExtents := numExtents
                 extents := f.extents.take numExtents.toNat
                 numDQps := qg.nQps }

/-- The walk of `resolve_lba` over the extents, with the number of blocks
    passed. -/
def resolveLoop (first last count : UInt64) : UInt64 → List LbaExtent → Option (UInt64 × UInt64)
  | _, [] => none
  | cursor, e :: es =>
    let extEnd := cursor + e.lengthBlocks
    -- The whole range has to lie in this extent; it is never split.
    if cursor ≤ first ∧ last ≤ extEnd then some (e.startLba + (first - cursor), count)
    else resolveLoop first last count extEnd es

/-- `resolve_lba`: the first block and the number of blocks of a range. -/
def resolveLba (h : NvmeFileDeviceHandle) (logicalOff nbytes : UInt64) : Option (UInt64 × UInt64) :=
  if h.numExtents = 0 then none
  else if nbytes = 0 then none
  else
    let mask := (h.nvmeBlockSize - 1).toUInt64
    let shift := h.nvmeBlockSizeLog.toUInt64
    if logicalOff &&& mask ≠ 0 then none
    else if nbytes &&& mask ≠ 0 then none
    -- The sum is one of 64 bits and may wrap around.
    else if h.logicalSizeBytes < logicalOff + nbytes then none
    else
      let diskOff := logicalOff + h.headerBytes.toUInt64
      let wantBlkFirst := diskOff >>> shift
      let wantBlkCount := nbytes >>> shift
      resolveLoop wantBlkFirst (wantBlkFirst + wantBlkCount) wantBlkCount 0 h.extents

inductive NvmOpcode where
  | write
  | read
  deriving DecidableEq, Repr

/-- One command as it is put into a queue: `nlb` is the number of blocks less
    one. -/
structure NvmeCommand where
  opcode : NvmOpcode
  queue : UInt32
  prp1 : UInt64
  prp2 : UInt64
  startLba : UInt64
  nlb : UInt16
  deriving DecidableEq, Repr

/-- `QueueAcquireHelper::acquire_queue`. -/
def acquireQueue (blockDim threadIdx numQueues : UInt32) : UInt32 :=
  (blockDim * 32 + threadIdx) % numQueues

/-- `issue_nvme_cmd` and `nvm_cmd_rw_blks`: the number of blocks is converted to
    16 bits. -/
def issueNvmeCmd (queue : UInt32) (prp1 prp2 nBlocks startingLba : UInt64) (opcode : NvmOpcode) :
    NvmeCommand :=
  ⟨opcode, queue, prp1, prp2, startingLba, nBlocks.toUInt16 - 1⟩

/-- The body that `submit_read_one` and `submit_write_one` share. -/
def submitOne (opcode : NvmOpcode) (h : NvmeFileDeviceHandle) (blockDim threadIdx : UInt32)
    (prp1 prp2 logicalOff nbytes : UInt64) : Option NvmeCommand :=
  match resolveLba h logicalOff nbytes with
  | none => none
  | some (startingLba, nBlocks) =>
    some (issueNvmeCmd (acquireQueue blockDim threadIdx h.numDQps) prp1 prp2 nBlocks
      startingLba opcode)

def submitReadOne : NvmeFileDeviceHandle → UInt32 → UInt32 → UInt64 → UInt64 → UInt64 → UInt64 →
    Option NvmeCommand := submitOne .read

def submitWriteOne : NvmeFileDeviceHandle → UInt32 → UInt32 → UInt64 → UInt64 → UInt64 → UInt64 →
    Option NvmeCommand := submitOne .write

/-! ### The entry in the ring -/

/-- `nvm_cmd_t`: the 16 words of a command. -/
abbrev NvmCmd := Fin 16 → UInt32

/-- `NVM_IO_WRITE` and `NVM_IO_READ`. -/
def NvmOpcode.code : NvmOpcode → UInt8
  | .write => 1
  | .read => 2

def nvmCmdHeader (cmd : NvmCmd) (cid : UInt16) (opcode : UInt8) (nsId : UInt32) : NvmCmd :=
  update (update cmd 0 (cid.toUInt32 <<< 16 ||| (opcode &&& 0x7f).toUInt32)) 1 nsId

def nvmCmdDataPtr (cmd : NvmCmd) (prp1 prp2 : UInt64) : NvmCmd :=
  let cmd := update cmd 0 (cmd 0 &&& ~~~((0x03 : UInt32) <<< 14 ||| (0x03 : UInt32) <<< 8))
  let cmd := update (update cmd 6 prp1.toUInt32) 7 (prp1 >>> 32).toUInt32
  update (update cmd 8 prp2.toUInt32) 9 (prp2 >>> 32).toUInt32

def nvmCmdRwBlks (cmd : NvmCmd) (startLba : UInt64) (nBlks : UInt16) : NvmCmd :=
  let cmd := update (update cmd 10 startLba.toUInt32) 11 (startLba >>> 32).toUInt32
  update cmd 12 (cmd 12 &&& 0xffff0000 ||| (nBlks - 1).toUInt32)

/-- What `submit_read_one` and `submit_write_one` put into the ring of a queue with the
    namespace `nsId`. The buffer on the stack is not cleared: `prior` is what it holds. -/
def submitEntry (opcode : NvmOpcode) (h : NvmeFileDeviceHandle) (prior : NvmCmd) (cid : UInt16)
    (nsId : UInt32) (prp1 prp2 logicalOff nbytes : UInt64) : Option NvmCmd :=
  match resolveLba h logicalOff nbytes with
  | none => none
  | some (startingLba, nBlocks) =>
    let cmd := nvmCmdHeader prior cid opcode.code nsId
    let cmd := nvmCmdDataPtr cmd prp1 prp2
    some (nvmCmdRwBlks cmd startingLba nBlocks.toUInt16)

/-- A read or write command as the controller sees it. `rest` is all that is no field of
    such a command or an optional one. -/
structure RwFields where
  opcode : Nat
  cid : Nat
  nsid : Nat
  prp1 : Nat
  prp2 : Nat
  slba : Nat
  blocks : Nat
  rest : List Nat
  deriving DecidableEq

/-- The layout of the words. -/
def decodeRw (cmd : NvmCmd) : RwFields where
  opcode := (cmd 0).toNat % 256
  cid := (cmd 0).toNat / 65536
  nsid := (cmd 1).toNat
  prp1 := (cmd 6).toNat + 2 ^ 32 * (cmd 7).toNat
  prp2 := (cmd 8).toNat + 2 ^ 32 * (cmd 9).toNat
  slba := (cmd 10).toNat + 2 ^ 32 * (cmd 11).toNat
  blocks := (cmd 12).toNat % 65536 + 1
  rest := (cmd 0).toNat / 256 % 256 :: (cmd 12).toNat / 65536 ::
    [cmd 2, cmd 3, cmd 4, cmd 5, cmd 13, cmd 14, cmd 15].map UInt32.toNat

end Geminifs
