import Geminifs.Core.Snvme.Driver

/-!
# The Library Between Applications and the Module

The part of `libnvm` that makes user queues: what a process knows of a controller,
the wrappers around the ioctls, and the registration of ring memory.

A system call that returns a negative number is seen by the library as `-1` with
the error in `errno`; any other number is passed on as it is. The wrappers look
for a negative result only.

## Main definitions

* `DevInfo`, `nvmGetDevInfo`: What `NVM_GET_DEV_INFO` tells.
* `NvmCtrl`: A process's handle of a controller.
* `Session`: The module and what was seen of it so far.
* `nvmCreateGroup`, `nvmDestroyGroup`, `nvmAddUserQueue`: The wrappers.
* `nvmDmaMapRingDevice`: Registering device memory as a ring.
* `sqDbl`, `cqDbl`: The library's own doorbell addresses.
-/

namespace Geminifs.LibNvm

open Snvme

/-! ### Controllers -/

/-- A conversion to `uint8_t`. -/
def u8 (n : Nat) : Nat := n % 256

/-- The part of `struct nvm_ioctl_dev` that concerns queues. -/
structure DevInfo where
  nrUserQ : Nat
  startCqIdx : Nat
  dstrd : Nat
  qDepth : Nat
  bar0Size : Nat
  maxUserQid : Nat
  maxQueuesPerGroup : Nat
  deriving DecidableEq, Repr

/-- What `NVM_GET_DEV_INFO` fills in. `userStartQid` is 0 unless the device was
    bound by the old protocol. -/
def nvmGetDevInfo (ndev : NvmeDev) (userStartQid barLen : Nat) : DevInfo where
  nrUserQ := ndev.nrUserUseCq
  startCqIdx := if userStartQid ≠ 0 then userStartQid else ndev.onlineQueues
  dstrd := u8 ndev.dbStride
  qDepth := u16 ndev.qDepth
  bar0Size := u32 barLen
  maxUserQid := ndev.ctrlMaxIoQueues
  maxQueuesPerGroup := nvmMaxQueuesPerGroup

def nvmCtrlMemMinsize : Nat := 0x2000

/-- `nvm_ctrl_t`, with the controller, the descriptor and the task it stands
    for. -/
structure NvmCtrl where
  ctrl : Nat
  fd : Nat
  task : Nat
  mmPtr : Nat
  mmSize : Nat
  dstrd : Nat
  qDepth : Nat
  startCqIdx : Nat
  maxUserQid : Nat
  deriving DecidableEq, Repr

/-- `nvm_ctrl_init`: the window on the registers has a fixed size, and the stride
    is read from them. -/
def nvmCtrlInit (ctrl fd task mmPtr capDstrd : Nat) : NvmCtrl :=
  ⟨ctrl, fd, task, mmPtr, nvmCtrlMemMinsize, capDstrd, 0, 0, 0⟩

/-- What `ioctl_get_dev_info` and `nvm_controller_init_b3` copy into the handle. -/
def NvmCtrl.apply (c : NvmCtrl) (info : DevInfo) : NvmCtrl :=
  { c with
    dstrd := info.dstrd
    qDepth := info.qDepth
    startCqIdx := info.startCqIdx
    maxUserQid := info.maxUserQid }

/-- An `int` expression, which has a value only as long as it does not
    overflow. -/
def cInt (n : Nat) : Option Nat := if n < 2 ^ 31 then some n else none

/-- `(k) * (4 << (dstrd))`; a shift by 32 or more has no value either. -/
def strides (k dstrd : Nat) : Option Nat :=
  if dstrd < 32 then (cInt (4 * 2 ^ dstrd)).bind (fun stride => cInt (k * stride)) else none

/-- The macro `SQ_DBL`. -/
def sqDbl (p y dstrd : Nat) : Option Nat := (strides (2 * y) dstrd).map (fun n => p + 0x1000 + n)

/-- The macro `CQ_DBL`. -/
def cqDbl (p y dstrd : Nat) : Option Nat :=
  (strides (2 * y + 1) dstrd).map (fun n => p + 0x1000 + n)

/-! ### System calls -/

/-- The module, and what was seen of it since the session began. -/
structure Session where
  driver : Driver
  events : List Event

/-- An ioctl on the handle's device file. -/
def Session.ioctl (s : Session) (c : NvmCtrl) (call : Call) : Session × Reply :=
  (⟨s.driver.step (.ioctl c.ctrl c.fd c.task call),
    s.events ++ s.driver.events (.ioctl c.ctrl c.fd c.task call)⟩,
    (s.driver.result (.ioctl c.ctrl c.fd c.task call)).reply)

/-- `errno`, if the call returned a negative number. -/
def errno : Reply → Option Int
  | .ret rc => if rc < 0 then some (-rc) else none
  | .group .. => none
  | .queues _ => none

/-- What the calls of `NVM_CREATE_QUEUE_GROUP` return. -/
structure GroupEnv where
  copyIn : Bool
  kzallocOk : Bool
  idaError : Option Int
  copyOut : Bool

/-- `nvm_create_group`: the group's id and its limit, or an error. -/
def nvmCreateGroup (s : Session) (c : NvmCtrl) (env : GroupEnv) : Session × Except Int (Nat × Nat) :=
  let r := s.ioctl c
    (.createQueueGroup 0 [0, 0, 0, 0, 0] env.copyIn env.kzallocOk env.idaError env.copyOut)
  match errno r.2, r.2 with
  | some e, _ => (r.1, .error e)
  | none, .group groupId maxQueues => (r.1, .ok (groupId, maxQueues))
  -- The request was all zeros and is not written to.
  | none, _ => (r.1, .ok (0, 0))

/-- `nvm_destroy_group`. -/
def nvmDestroyGroup (s : Session) (c : NvmCtrl) (groupId : Nat) (copyIn : Bool) : Session × Int :=
  let r := s.ioctl c (.destroyQueueGroup groupId copyIn)
  (r.1, (errno r.2).getD 0)

/-- `nvm_add_user_queue`, with the array `out_pairs` that the caller passes and
    gets back. -/
def nvmAddUserQueue (s : Session) (c : NvmCtrl) (req : AddReq) (out : List (Nat × Nat × Nat))
    (env : AddEnv) : Session × Int × List (Nat × Nat × Nat) :=
  let r := s.ioctl c (.addUserQueue req env)
  match errno r.2, r.2 with
  | some e, _ => (r.1, e, out)
  | none, .queues out' => (r.1, 0, out')
  -- The array is not written to.
  | none, _ => (r.1, 0, out)

/-! ### Rings -/

/-- `NVM_PAGE_ALIGN`. -/
def nvmPageAlign (size page : Nat) : Nat := (size + page - 1) / page * page

/-- Ring memory that is registered: where it is, and how many GPU pages it has. -/
structure RingMem where
  vaddr : Nat
  nPages : Nat
  deriving DecidableEq, Repr

/-- What the calls of `nvm_dma_map_ring_device` return: the library's own
    allocations, and those of the ioctl. -/
structure RingEnv where
  allocError : Option Int
  map : MapEnv

/-- `nvm_dma_map_ring_device`. A ring has no unmap routine; it is released with
    its group. -/
def nvmDmaMapRingDevice (s : Session) (c : NvmCtrl) (groupId vaddr size : Nat) (isCq : Bool)
    (env : RingEnv) : Session × Except Int RingMem :=
  let nPages := nvmPageAlign size gpuPageSize / gpuPageSize
  if groupId = 0 then (s, .error 22)
  else if nPages = 0 then (s, .error 22)
  else
    match env.allocError with
    | some e => (s, .error e)
    | none =>
      let r := s.ioctl c (.mapDevice
        ⟨vaddr, groupId, some (if isCq then .ringCq else .ringSq), -1, -1, [0, 0, 0]⟩ env.map)
      match errno r.2 with
      | some e => (r.1, .error e)
      | none => (r.1, .ok ⟨vaddr, nPages⟩)

end Geminifs.LibNvm
