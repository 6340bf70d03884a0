import Geminifs.Core.LibNvm

/-!
# Queue Groups on the GPU

`NvmeQueueGroup`: a group of user queues whose rings are in the memory of a GPU.
The constructor makes the group, allocates and registers two rings per queue, adds
all queues with one ioctl, and hands the pairs to the GPU with their ids and
doorbells. Whatever it throws, it destroys the group first.

## Main definitions

* `GpuQueuePair`: `QueuePair`, as far as the rings and the queue ids go.
* `InitError`: What the constructor throws.
* `createRingDma`, `newQueuePair`: The rings of a pair.
* `QueueGroup.init`, `newQueueGroup`: The constructor.
* `initQueues`, `acquireQueue`: The queues of a `Controller`, and the choice of one.
* `GpuQueuePair.sqSlot`: Where a command goes.
* `openDepth`: The depth that the registry asks for.
-/

namespace Geminifs.LibNvm

open Snvme

/-- `QueuePair`: the sizes and rings it was built with, and the id and the
    doorbell offsets it is given later. -/
structure GpuQueuePair where
  qpId : Nat
  sqQs : Nat
  cqQs : Nat
  sqMem : RingMem
  cqMem : RingMem
  no : Nat
  sqDb : Nat
  cqDb : Nat
  deriving DecidableEq, Repr

/-- What is thrown while a group is built. -/
inductive InitError where
  | ctrlNull
  | mmPtrNull
  | numQueuesZero
  | queueDepthZero
  | blockSizeZero
  | createGroup (status : Int)
  | bogusGroup
  | noRoom (maxUserQid startCqIdx maxQ : Nat)
  | mallocQps
  | cuda (what : String)
  | groupIdZero
  | ctrlDepthZero
  | deviceMemory (what : String)
  | mapRing (status : Int)
  | clearRing
  | tooMany (nQps : Nat)
  | addUserQueue (status : Int)
  | gpuInit
  deriving DecidableEq, Repr

/-- The text of an error, given the library's and CUDA's. -/
def InitError.what (strerror : Int → String) (cudaError : String) : InitError → String
  | .ctrlNull => "NvmeQueueGroup: ctrl is null"
  | .mmPtrNull => "NvmeQueueGroup: ctrl->mm_ptr is null (BAR0 not mapped; ctrl bring-up via nvm_controller_init_b3 / nvm_ctrl_attach_client did not complete)"
  | .numQueuesZero => "NvmeQueueGroup: num_queues == 0"
  | .queueDepthZero => "NvmeQueueGroup: queue_depth == 0"
  | .blockSizeZero => "NvmeQueueGroup: block_size == 0"
  | .createGroup status => "nvm_create_group failed: " ++ strerror status
  | .bogusGroup => "nvm_create_group returned bogus gid/max_q"
  | .noRoom maxUserQid startCqIdx maxQ =>
    "NvmeQueueGroup: no user QID room (max_user_qid=" ++ toString maxUserQid ++
      " start_cq_idx=" ++ toString startCqIdx ++ " max_q_per_grp=" ++ toString maxQ ++ ")"
  | .mallocQps => "NvmeQueueGroup: malloc h_qps failed"
  | .cuda what => "NvmeQueueGroup: CUDA error in " ++ what ++ ": " ++ cudaError
  | .groupIdZero =>
    "QueuePair(B3): group_id must be non-zero (see nvm_dma_map_ring_device contract)"
  | .ctrlDepthZero =>
    "QueuePair(B3): ctrl->q_depth == 0 -- did nvm_controller_init_b3 / NVM_GET_DEV_INFO run successfully?"
  | .deviceMemory what => "Failed to " ++ what ++ ": " ++ cudaError
  | .mapRing status => "nvm_dma_map_ring_device failed: " ++ strerror status
  | .clearRing => "Failed to clear ring memory: " ++ cudaError
  | .tooMany nQps =>
    "NvmeQueueGroup: n_qps=" ++ toString nQps ++ " exceeds NVM_MAX_QUEUES_PER_GROUP=" ++
      toString nvmMaxQueuesPerGroup
  | .addUserQueue status => "nvm_add_user_queue failed: " ++ strerror status
  | .gpuInit => cudaError

/-! ### Rings -/

/-- What the calls for one ring return: the address that `cudaMalloc` gives, or
    which call failed (`set CUDA device`, `allocate device memory` or
    `get pointer attributes`), the registration, and `cudaMemset`. -/
structure DmaEnv where
  device : Except String Nat
  ring : RingEnv
  memsetOk : Bool

/-- The next GPU page behind an address, of 56 bits. -/
def nextGpuPage (ptr : Nat) : Nat := (ptr + 65536) % 2 ^ 56 / 65536 * 65536

variable (s : Session) (c : NvmCtrl)

/-- `create_ring_Dma`. -/
def createRingDma (size groupId : Nat) (isCq : Bool) (env : DmaEnv) :
    Session × Except InitError RingMem :=
  match env.device with
  | .error what => (s, .error (.deviceMemory what))
  | .ok ptr =>
    let r := nvmDmaMapRingDevice s c groupId (nextGpuPage ptr) size isCq env.ring
    match r.2 with
    | .error status => (r.1, .error (.mapRing status))
    -- A ring that cannot be cleared stays registered.
    | .ok mem => if env.memsetOk then (r.1, .ok mem) else (r.1, .error .clearRing)

structure PairEnv where
  sq : DmaEnv
  cq : DmaEnv

def sizeofCmd : Nat := 64

def sizeofCpl : Nat := 16

/-- The constructor of `QueuePair` for groups. -/
def newQueuePair (qpId queueDepth groupId : Nat) (env : PairEnv) :
    Session × Except InitError GpuQueuePair :=
  if groupId = 0 then (s, .error .groupIdZero)
  else if c.qDepth = 0 then (s, .error .ctrlDepthZero)
  else
    let sqSize := min queueDepth c.qDepth
    let cqSize := min queueDepth c.qDepth
    let r := createRingDma s c (nvmPageAlign (sqSize * sizeofCmd) gpuPageSize) groupId false env.sq
    match r.2 with
    | .error e => (r.1, .error e)
    | .ok sqMem =>
      let r' := createRingDma r.1 c (nvmPageAlign (cqSize * sizeofCpl) gpuPageSize) groupId true
        env.cq
      match r'.2 with
      | .error e => (r'.1, .error e)
      -- Id and doorbells are known only after `nvm_add_user_queue`.
      | .ok cqMem => (r'.1, .ok ⟨u16 qpId, u32 sqSize, u32 cqSize, sqMem, cqMem, 0, 0, 0⟩)

/-- The loop over the pairs, from index `i` on, with the pairs built so far. -/
def newQueuePairs (c : NvmCtrl) (queueDepth groupId : Nat) (env : Nat → PairEnv) :
    Nat → Nat → Session → List GpuQueuePair → Session × Except InitError (List GpuQueuePair)
  | _, 0, s, qps => (s, .ok qps)
  | i, n + 1, s, qps =>
    let r := newQueuePair s c i queueDepth groupId (env i)
    match r.2 with
    | .error e => (r.1, .error e)
    | .ok qp => newQueuePairs c queueDepth groupId env (i + 1) n r.1 (qps ++ [qp])

/-! ### The group -/

/-- What the CUDA calls for one pair return at the end. -/
structure FinishEnv where
  gpuInitOk : Bool
  cqDbOk : Bool
  sqDbOk : Bool
  memcpyOk : Bool

/-- A pair with the id and the doorbells that the module returned. -/
def GpuQueuePair.place (qp : GpuQueuePair) (o : Nat × Nat × Nat) : GpuQueuePair :=
  { qp with no := u16 o.1, sqDb := o.2.1, cqDb := o.2.2 }

/-- The end of the construction, pair by pair. -/
def finishPairs (env : Nat → FinishEnv) (out : List (Nat × Nat × Nat)) :
    Nat → List GpuQueuePair → Except InitError (List GpuQueuePair)
  | _, [] => .ok []
  | i, qp :: qps =>
    -- The array has zeros where the module wrote nothing.
    let o := out.getD i (0, 0, 0)
    if ¬ (env i).gpuInitOk then .error .gpuInit
    else if ¬ (env i).cqDbOk then .error (.cuda "cudaHostGetDevicePointer(cq.db)")
    else if ¬ (env i).sqDbOk then .error (.cuda "cudaHostGetDevicePointer(sq.db)")
    else if ¬ (env i).memcpyOk then .error (.cuda "cudaMemcpy QueuePair -> d_qps[i]")
    else
      match finishPairs env out (i + 1) qps with
      | .error e => .error e
      | .ok done => .ok (qp.place o :: done)

/-- What the calls of the constructor return. -/
structure InitEnv where
  group : GroupEnv
  mallocOk : Bool
  cudaMallocOk : Bool
  pairs : Nat → PairEnv
  add : AddEnv
  setDeviceOk : Bool
  finish : Nat → FinishEnv
  destroyCopyIn : Bool

/-- The queue ids that the pool has room for, as the process sees it. -/
def qpoolRoom : Nat :=
  if c.startCqIdx ≤ c.maxUserQid then u32 (c.maxUserQid - c.startCqIdx + 1) else 0

/-- The steps of `init_` once there is a group. -/
def buildPairs (groupId maxQ numQueues queueDepth : Nat)
    (env : InitEnv) : Session × Except InitError (List GpuQueuePair) :=
  let kernelCap := min maxQ (qpoolRoom c)
  if kernelCap = 0 then (s, .error (.noRoom c.maxUserQid c.startCqIdx maxQ))
  else
    let nQps := min kernelCap numQueues
    if ¬ env.mallocOk then (s, .error .mallocQps)
    else if ¬ env.cudaMallocOk then (s, .error (.cuda "cudaMalloc d_qps"))
    else
      let r := newQueuePairs c queueDepth groupId env.pairs 0 nQps s []
      match r.2 with
      | .error e => (r.1, .error e)
      | .ok qps =>
        -- The rings are registered before their number is checked.
        if nvmMaxQueuesPerGroup < nQps then (r.1, .error (.tooMany nQps))
        else
          let req : AddReq :=
            ⟨groupId, 0, [0, 0, 0, 0, 0], qps.map (fun qp => ⟨qp.sqMem.vaddr, qp.cqMem.vaddr⟩)⟩
          let a := nvmAddUserQueue r.1 c req
            (List.replicate nvmMaxQueuesPerGroup (0, 0, 0)) env.add
          if a.2.1 ≠ 0 then (a.1, .error (.addUserQueue a.2.1))
          else if ¬ env.setDeviceOk then (a.1, .error (.cuda "cudaSetDevice(primary)"))
          else (a.1, finishPairs env.finish a.2.2 0 qps)

/-- `init_`, with the id of the group that is there when it ends, or 0. -/
def QueueGroup.init (numQueues queueDepth : Nat) (env : InitEnv) :
    Session × Nat × Except InitError (List GpuQueuePair) :=
  let r := nvmCreateGroup s c env.group
  match r.2 with
  | .error status => (r.1, 0, .error (.createGroup status))
  | .ok (groupId, maxQ) =>
    -- A group with an id is left to the caller.
    if groupId = 0 ∨ maxQ = 0 then (r.1, groupId, .error .bogusGroup)
    else
      let b := buildPairs r.1 c groupId maxQ numQueues queueDepth env
      (b.1, groupId, b.2)

/-- The part of `destroy_locked_` that the module sees. -/
def destroyLocked (groupId : Nat) (copyIn : Bool) : Session :=
  if groupId ≠ 0 then (nvmDestroyGroup s c groupId copyIn).1 else s

/-- A queue group that was built: its id and the pairs that the GPU has. -/
structure QueueGroup where
  groupId : Nat
  qps : List GpuQueuePair
  deriving DecidableEq, Repr

/-- The constructor of `NvmeQueueGroup`. -/
def newQueueGroup (ctrl : Option NvmCtrl) (blockSize numQueues queueDepth : Nat)
    (env : InitEnv) : Session × Except InitError QueueGroup :=
  match ctrl with
  | none => (s, .error .ctrlNull)
  | some c =>
    if c.mmPtr = 0 then (s, .error .mmPtrNull)
    else if numQueues = 0 then (s, .error .numQueuesZero)
    else if queueDepth = 0 then (s, .error .queueDepthZero)
    else if blockSize = 0 then (s, .error .blockSizeZero)
    else
      let r := QueueGroup.init s c numQueues queueDepth env
      match r.2.2 with
      -- What `init_` left is destroyed before the error goes on.
      | .error e => (destroyLocked r.1 c r.2.1 env.destroyCopyIn, .error e)
      | .ok qps => (r.1, .ok ⟨r.2.1, qps⟩)

/-! ### `Controller` -/

/-- `Controller::init_queues` for queues on one GPU: a status, or the pairs. It gives `none`
    if an exception or a failed CUDA call ends it. -/
def initQueues (numQueues queueDepth : Nat) (env : InitEnv) :
    Session × Option (Except Int (List GpuQueuePair)) :=
  let r := nvmCreateGroup s c env.group
  match r.2 with
  | .error _ => (r.1, some (.error 14))
  | .ok (groupId, maxQ) =>
    if groupId = 0 ∨ maxQ = 0 then (r.1, some (.error 14))
    else
      let kernelCap := u16 (min maxQ (qpoolRoom c))
      if kernelCap = 0 then ((nvmDestroyGroup r.1 c groupId env.destroyCopyIn).1, some (.error 16))
      else
        let nQps := min kernelCap (u16 numQueues)
        if ¬ env.mallocOk ∨ ¬ env.cudaMallocOk then (r.1, none)
        else
          let b := newQueuePairs c queueDepth groupId env.pairs 0 nQps r.1 []
          match b.2 with
          | .error _ => (b.1, none)
          | .ok qps =>
            if nvmMaxQueuesPerGroup < nQps then (b.1, some (.error 22))
            else
              let a := nvmAddUserQueue b.1 c
                ⟨groupId, 0, [0, 0, 0, 0, 0], qps.map (fun qp => ⟨qp.sqMem.vaddr, qp.cqMem.vaddr⟩)⟩
                (List.replicate nvmMaxQueuesPerGroup (0, 0, 0)) env.add
              if a.2.1 ≠ 0 then (a.1, some (.error 14))
              else
                match finishPairs env.finish a.2.2 0 qps with
                | .ok done => (a.1, some (.ok done))
                -- Only a doorbell that is not found has a status.
                | .error e => (a.1, if e = .gpuInit ∨ e = .cuda "cudaMemcpy QueuePair -> d_qps[i]"
                    then none else some (.error (-1)))

/-- `acquire_queue` of a helper that `NVMeController` made for a number of queues. The number
    is cut to an `int`, which the remainder takes as unsigned. -/
def acquireQueue (numQueues blockDim threadIdx : Nat) : Option Int :=
  if u32 numQueues = 0 then none
  else some (Int.bmod (u32 (blockDim * 32 + threadIdx) % u32 numQueues : Nat) (2 ^ 32))

/-- `get_id`. -/
def getId (x y : Nat) : Nat := (x >>> y) * 2

/-- The slot and the lap of a ticket in `sq_enqueue`. The mask and the logarithm are those of
    `init_gpu_specific_struct`. -/
def GpuQueuePair.sqSlot (qp : GpuQueuePair) (ticket : Nat) : Nat × Nat :=
  (ticket &&& (qp.sqQs - 1), getId ticket (Nat.log2 qp.sqQs))

/-- The depth that `LocalNvmeDirectRegistry::open_one` asks for: what is
    configured, or what the controller reported. -/
def openDepth (configured reported : Nat) : Nat := if 0 < configured then configured else reported

end Geminifs.LibNvm
