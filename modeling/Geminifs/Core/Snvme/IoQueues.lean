import Geminifs.Core.Snvme.UserQueues

/-!
# Binding a Controller

How a controller comes up: the ioctls that set its queue budget, the probe that
reads the budget, and the reset work that asks the controller for queues, splits
what it grants and brings the queues online.

The queues of the old protocol are made here, behind the kernel's own. A queue
that the kernel cannot create makes it take all its queues down and try again
with as many as it had; the queues of the old protocol stay meanwhile.

## Main definitions

* `nvmSetIoqNum`, `nvmSetKernelIoqCap`, `nvmSetShareReg`, `nvmClearIoqNum`: The
  budget.
* `snvmeSetQueueCount`: What the controller grants.
* `nvmeCreateIoQueues`, `nvmeCreateUserQueue`, `nvmeCreateIoQueuesMix`: The queues.
* `sNvmeSetupIoQueues`: All of the setup.
* `nvmeProbe`, `nvmeResetWork`, `snvmDeviceBind`, `snvmDeviceUnbind`: A binding
  and its end.
-/

namespace Geminifs.Snvme

def snvmMaxQueueGroups : Nat := 8

/-- A subtraction of 32-bit unsigneds. -/
def sub32 (a b : Nat) : Nat := u32 (a + 4294967296 - b)

/-- The part of a group of `struct nvm_ioctl_setup` that is checked. -/
structure SetupGroup where
  count : Nat
  reserved : Nat
  deriving DecidableEq, Repr

/-- `struct nvm_ioctl_setup`; `nr_groups` is the number of groups. -/
structure SetupReq where
  ioqNum : Nat
  flags : Nat
  capKernelIoq : Nat
  nrWrite : Nat
  nrPoll : Nat
  reserved : List Nat
  groups : List SetupGroup
  deriving DecidableEq, Repr

/-- The sum of the counts, in 32 bits. -/
def sumCounts (groups : List SetupGroup) : Nat :=
  groups.foldl (fun sum g => u32 (sum + g.count)) 0

variable (s : State)

/-- `NVM_SET_IOQ_NUM`. -/
def nvmSetIoqNum (req : SetupReq) (copyIn : Bool) : State × Int :=
  if ¬ copyIn then (s, efault)
  else if req.ioqNum = 0 then (s, einval)
  -- A budget that was set can only shrink.
  else if s.ioqNum ≠ 0 ∧ s.ioqNum < req.ioqNum then (s, einval)
  else if req.reserved.any (· ≠ 0) then (s, einval)
  else if snvmMaxQueueGroups < req.groups.length then (s, einval)
  else if req.groups.any (fun g => g.reserved ≠ 0) then (s, einval)
  else if req.groups ≠ [] ∧ sumCounts req.groups ≠ req.ioqNum then (s, einval)
  else
    ({ s with
       ioqNum := req.ioqNum
       onHost := req.flags % 2 = 1
       setup := ⟨true, req.capKernelIoq, req.nrWrite, req.nrPoll⟩ }, 0)

/-- `NVM_SET_KERNEL_IOQ_CAP`. -/
def nvmSetKernelIoqCap (cap : Nat) (copyIn : Bool) : State × Int :=
  if ¬ copyIn then (s, efault)
  else ({ s with setup := { s.setup with capKernelIoq := cap, valid := true } }, 0)

/-- `NVM_SET_SHARE_REG`. -/
def nvmSetShareReg (ioqIdx : Int) (copyIn : Bool) : State × Int :=
  if ¬ copyIn then (s, efault) else ({ s with useSreg := (ioqIdx % 4294967296).toNat }, 0)

/-- `NVM_CLEAR_IOQ_NUM`. -/
def nvmClearIoqNum : State × Int := ({ s with ioqMapNum := 0, cqNum := 0 }, 0)

/-- The answer to Set Features: a status, and the numbers of submission and of
    completion queues, each less one. -/
structure QueueGrant where
  status : Int
  nsqr : Nat
  ncqr : Nat
  deriving DecidableEq, Repr

/-- `snvme_set_queue_count`: the result and the new count. -/
def snvmeSetQueueCount (count : Nat) (grant : QueueGrant) : Int × Nat :=
  if grant.status < 0 then (grant.status, count)
  else if 0 < grant.status then (0, 0)
  -- The count is an int here, so one that wrapped around is the smaller.
  else if 2147483648 ≤ count then (0, count)
  else (0, min count (min grant.nsqr grant.ncqr + 1))

/-- What happens in one pass over the queues. Interrupt vectors are counted; the
    other numbers are results of calls, by the id of the queue. -/
structure PassEnv where
  vectors : Int
  adminIrq : Int
  ringOk : Nat → Bool
  createRet : Nat → Int
  userCqRet : Nat → Int
  userSqRet : Nat → Int
  userLock : Nat → Bool
  relock : Bool

/-- `nvme_setup_irqs`: the vectors, at most as many as asked for, and the number
    of polled queues. -/
def nvmeSetupIrqs (dev : NvmeDev) (nrIo : Nat) (singleVector : Bool) (vectors : Int) :
    Option (Nat × Nat) :=
  let poll := min dev.nrPollQueues (nrIo - 1)
  let irqQueues := 1 + if singleVector then 0 else nrIo - poll
  if vectors ≤ 0 then none else some (min vectors.toNat irqQueues, poll)

/-- The first loop of `nvme_create_io_queues`: rings for `n` queues from `i`
    on. -/
def allocRings (ringOk : Nat → Bool) : Nat → Nat → Nat × Int
  | 0, i => (i, 0)
  | n + 1, i => if ringOk i then allocRings ringOk n (i + 1) else (i, enomem)

/-- The second loop of `nvme_create_io_queues`: bring `n` queues online from `i`
    on, which is as many as are online. -/
def bringOnline (createRet : Nat → Int) : Nat → Nat → Int → Nat × Int
  | 0, i, ret => (i, ret)
  | n + 1, i, _ =>
    if createRet i = 0 then bringOnline createRet n (i + 1) 0 else (i, createRet i)

/-- `nvme_create_io_queues`. A queue that fails ends the loop, and is an error
    only if its result is negative. -/
def nvmeCreateIoQueues (dev : NvmeDev) (env : PassEnv) : NvmeDev × Int :=
  let rings := allocRings env.ringOk (dev.maxQid + 1 - dev.queueCount) dev.queueCount
  let top := min dev.maxQid (rings.1 - 1)
  let up := bringOnline env.createRet (top + 1 - dev.onlineQueues) dev.onlineQueues rings.2
  ({ dev with queueCount := rings.1, onlineQueues := up.1 }, if 0 ≤ up.2 then 0 else up.2)

variable (maps : List MapDesc)

/-- `map_find_by_pci_dev_and_idx`, on the list of rings in host or in device
    memory. -/
def mapFindByIdx (onHost : Bool) (idx : Nat) (isCq : Int) : Option MapDesc :=
  maps.find? (fun m =>
    m.list = (if onHost then .host else .deviceQueue) ∧ m.ioqIdx = idx ∧ m.isCq = isCq)

/-- `nvme_create_user_queue`: the result and the commands sent. The completion
    queue is taken back only where the source does so. -/
def nvmeCreateUserQueue (dev : NvmeDev) (env : PassEnv) (uqid qid : Nat) : Int × List AdminCmd :=
  match mapFindByIdx maps dev.queueOnHost uqid 1 with
  | none => (-1, [])
  | some cq =>
    let cmds₁ := [.createCq (u16 qid) cq.addr (qsize dev)]
    if env.userCqRet qid ≠ 0 then (env.userCqRet qid, cmds₁)
    else
      match mapFindByIdx maps dev.queueOnHost uqid 0 with
      | none => (-1, cmds₁ ++ [.deleteCq (u16 qid)])
      | some sq =>
        let cmds₂ := cmds₁ ++ [.createSq (u16 qid) sq.addr (qsize dev)]
        -- This error returns at once, so the completion queue stays on the controller.
        if env.userSqRet qid < 0 then (env.userSqRet qid, cmds₂)
        else if env.userSqRet qid ≠ 0 then
          (env.userSqRet qid, cmds₂ ++ [.deleteCq (u16 qid)])
        else if env.userLock qid then (0, cmds₂)
        -- The lock is not had: both queues stay, and are not counted.
        else (enodev, cmds₂)

/-- The loop of `nvme_create_io_queues_mix`: the ids of the queues made and the
    result of the last. -/
def mixLoop (maps : List MapDesc) (dev : NvmeDev) (env : PassEnv) :
    Nat → Nat → Nat → List Nat → List Nat × Int
  | 0, _, _, made => (made, 0)
  | n + 1, count, qid, made =>
    let ret := (nvmeCreateUserQueue maps dev env count qid).1
    if ret ≠ 0 then (made, ret) else mixLoop maps dev env n (count + 1) (qid + 1) (made ++ [qid])

/-- `nvme_create_io_queues_mix`: user queues behind the kernel's. -/
def nvmeCreateIoQueuesMix (dev : NvmeDev) (env : PassEnv) : NvmeDev × Int :=
  let r := mixLoop maps dev env (dev.maxQid + dev.nrUserUseCq + 1 - dev.onlineQueues) 0
    dev.onlineQueues []
  ({ dev with legacyQids := dev.legacyQids ++ r.1 }, if 0 ≤ r.2 then 0 else r.2)

/-- The part of `s_nvme_setup_io_queues` from its `retry` label on, with the
    number of the pass. A pass that is repeated has fewer queues than the one
    before, so `nrIo` of them are enough. -/
def setupPasses (maps : List MapDesc) (singleVector : Bool) (env : Nat → PassEnv) :
    Nat → Nat → Nat → NvmeDev → NvmeDev × Int
  | 0, _, _, dev => (dev, 0)
  | fuel + 1, k, nrIo, dev =>
    match nvmeSetupIrqs dev nrIo singleVector (env k).vectors with
    | none => (dev, eio)
    | some (vectors, poll) =>
      let dev₁ := { dev with maxQid := max (vectors - 1) 1 + poll }
      if (env k).adminIrq ≠ 0 then (dev₁, (env k).adminIrq)
      else
        let c := nvmeCreateIoQueues dev₁ (env k)
        let m := if c.1.useUserAllocated then nvmeCreateIoQueuesMix maps c.1 (env k) else c
        if m.2 ≠ 0 ∨ m.1.onlineQueues < 2 then m
        else if m.1.onlineQueues - 1 < m.1.maxQid then
          -- The kernel's queues are deleted, the others are left.
          if (env k).relock then
            setupPasses maps singleVector env fuel (k + 1) (m.1.onlineQueues - 1)
              { m.1 with onlineQueues := 1 }
          else (m.1, enodev)
        else (m.1, 0)

/-- The split of the grant between the kernel and the queues of the old
    protocol. -/
def splitGrant (dev : NvmeDev) (expect nrIo : Nat) : NvmeDev × Nat :=
  if ¬ dev.useUserAllocated then (dev, nrIo)
  else if nrIo < sub32 dev.nrAllocatedQueues 1 then ({ dev with useUserAllocated := false }, nrIo)
  else if nrIo ≤ expect then
    -- The difference is unsigned: with a grant of 0 it is the largest number.
    if sub32 nrIo 1 < dev.nrUserAllocatedCq then ({ dev with useUserAllocated := false }, nrIo)
    else
      let nrAllocated := sub32 nrIo dev.nrUserAllocatedCq
      ({ dev with nrAllocatedQueues := nrAllocated, nrUserUseCq := dev.nrUserAllocatedCq },
        sub32 nrAllocated 1)
  else (dev, nrIo)

/-- The loop that maps the doorbells of fewer and fewer queues. -/
def remapBar (remapOk : Nat → Bool) : Nat → Option Nat
  | 0 => none
  | n + 1 => if remapOk (n + 1) then some (n + 1) else remapBar remapOk n

/-- What `s_nvme_setup_io_queues` finds: the module's parameters, the answer of
    the controller, and how its calls go. -/
structure SetupEnv where
  writeQueues : Nat
  pollQueues : Nat
  grant : QueueGrant
  lockOk : Bool
  remapOk : Nat → Bool
  singleVector : Bool
  pass : Nat → PassEnv

/-- `s_nvme_setup_io_queues`. -/
def sNvmeSetupIoQueues (dev : NvmeDev) (env : SetupEnv) : NvmeDev × Int :=
  let dev₁ :=
    if dev.capKernelIoq = 0 then
      { dev with nrWriteQueues := env.writeQueues, nrPollQueues := env.pollQueues }
    else dev
  let asked := u32 (sub32 dev₁.nrAllocatedQueues 1 +
    if dev₁.useUserAllocated then dev₁.nrUserAllocatedCq else 0)
  let r := snvmeSetQueueCount asked env.grant
  -- The limit on user queue ids is the grant as it was, before the split and the cap.
  let dev₂ := if r.1 = 0 then { dev₁ with ctrlMaxIoQueues := r.2 } else dev₁
  let split := splitGrant dev₂ asked r.2
  -- An error of the command is looked at only after the split.
  if r.1 < 0 then (split.1, r.1)
  else if split.2 = 0 then (split.1, 0)
  else
    let nrIo :=
      if split.1.capKernelIoq ≠ 0 ∧ ¬ split.1.useUserAllocated ∧ split.1.capKernelIoq < split.2 then
        split.1.capKernelIoq
      else split.2
    if ¬ env.lockOk then (split.1, enodev)
    else
      match remapBar env.remapOk nrIo with
      | none => (split.1, enomem)
      | some nrIo => setupPasses maps env.singleVector env.pass nrIo 0 nrIo split.1

/-- The host as a probe finds it. -/
structure ProbeEnv where
  numPossibleCpus : Nat
  writeQueues : Nat
  pollQueues : Nat

/-- The device as `nvme_probe` makes it from the budget. -/
def nvmeProbe (env : ProbeEnv) : NvmeDev :=
  let legacy : Bool := s.ioqNum = s.ioqMapNum ∧ s.useSreg ≠ 0
  let nrWrite := if s.setup.valid ∧ s.setup.nrWrite ≠ 0 then s.setup.nrWrite else env.writeQueues
  let nrPoll := if s.setup.valid ∧ s.setup.nrPoll ≠ 0 then s.setup.nrPoll else env.pollQueues
  { onlineQueues := 0
    maxQid := 0
    queueCount := 0
    nrAllocatedQueues := u32 (env.numPossibleCpus + nrWrite + nrPoll + 1)
    ctrlMaxIoQueues := 0
    capKernelIoq := if s.setup.valid then s.setup.capKernelIoq else 0
    nrWriteQueues := nrWrite
    nrPollQueues := nrPoll
    useUserAllocated := legacy
    nrUserAllocatedCq := if legacy then s.cqNum else 0
    nrUserUseCq := 0
    queueOnHost := legacy && s.onHost
    legacyQids := []
    qDepth := 0
    dbStride := 0 }

/-- What the reset work finds: whether the controller comes up with its admin
    queue and answers, its registers, the setup of its queues, and whether it
    goes live at the end. -/
structure ResetEnv where
  adminOk : Bool
  qDepth : Nat
  dbStride : Nat
  setup : SetupEnv
  live : Bool

/-- `nvme_reset_work`: the controller is disabled, which deletes every queue it
    has, and set up again. If anything fails, the device is given up. -/
def nvmeResetWork (dev : NvmeDev) (env : ResetEnv) : Option NvmeDev :=
  if ¬ env.adminOk then none
  else
    let r := sNvmeSetupIoQueues maps
      { dev with
        onlineQueues := 1
        queueCount := max dev.queueCount 1
        legacyQids := []
        qDepth := env.qDepth
        dbStride := env.dbStride } env.setup
    if r.2 ≠ 0 then none else if env.live then some r.1 else none

/-- What a bind finds; `attach` is the result of the probe. -/
structure BindEnv where
  attach : Int
  probe : ProbeEnv
  reset : ResetEnv

/-- `SNVM_DEVICE_BIND`: whatever driver the device has is released first. The
    reset work that the probe starts is taken to be over. -/
def snvmDeviceBind (env : BindEnv) : State × Int :=
  if env.attach ≠ 0 then ({ s with ndev := none }, env.attach)
  else ({ s with ndev := nvmeResetWork s.maps (nvmeProbe s env.probe) env.reset }, 0)

/-- A reset of the controller, if it is bound. -/
def controllerReset (env : ResetEnv) : State :=
  { s with ndev := s.ndev.bind (fun dev => nvmeResetWork s.maps dev env) }

/-- `SNVM_DEVICE_UNBIND`. -/
def snvmDeviceUnbind : State × Int :=
  match s.ndev with
  | none => (s, efault)
  | some _ => ({ s with ndev := none }, 0)

end Geminifs.Snvme
