import Geminifs.Core.GeminiFile
import Geminifs.Core.NvmeService.Config
import Geminifs.Library.Assoc
import Geminifs.Library.LinkTree
import Mathlib.Data.List.Dedup

/-!
# The State of the Service

`ServiceState`: the devices of the daemon, and the table of leases that clients have.

The constructor brings up each device and puts a link to its directory for each GPU into
the directory of that GPU. A client connects to a device for a GPU, gets a lease with a
number of queues, renews it by heartbeats and gives it back. The reaper drops the lease
of a client that has been silent for too long and looks dead.

What the system says is given in advance: the random numbers of an id, the clock, what
`kill` answers and what is read from `/proc`, and the order in which a set of GPUs is
gone through.

## Main definitions

* `readStarttimeImpl`: The start time of a process, from `/proc/<pid>/stat`.
* `DeviceState`, `Allocation`, `ServiceState`: The state.
* `installGpuSymlinks`, `initDevice`, `ServiceState.construct`: How it is set up.
* `ServiceState.connect`, `ServiceState.disconnect`, `ServiceState.updateHeartbeat`,
  `ServiceState.reap`: What happens to leases.
-/

namespace Geminifs.NvmeService

open LinkTree

/-! ### Observing a process -/

/-- `std::getline`, which fails if there is nothing to read. -/
def getline (content : Bytes) : Option Bytes :=
  if content = [] then none else some (content.takeWhile (· ≠ 10))

/-- What is behind the last byte of a kind, if there is one. -/
def afterLast (b : UInt8) (line : Bytes) : Option Bytes :=
  if b ∈ line then some (line.reverse.takeWhile (· ≠ b)).reverse else none

/-- `iss >> tok`, which leaves what is behind the token. -/
def skipToken (s : Bytes) : Option Bytes :=
  let s := s.dropWhile isSpace
  if s = [] then none else some (s.dropWhile fun b => ¬ isSpace b)

def skipTokens : Nat → Bytes → Option Bytes
  | 0, s => some s
  | n + 1, s => (skipToken s).bind (skipTokens n)

/-- `read_starttime_impl`, of what is in `/proc/<pid>/stat` if it can be opened. -/
def readStarttimeImpl (stat : Option Bytes) : Option Nat :=
  stat.bind fun content =>
    (getline content).bind fun line =>
      (afterLast 41 line).bind fun fields => (skipTokens 19 fields).bind stoul

/-- What `kill` with signal 0 answers. -/
inductive KillResult where
  | ok
  | esrch
  | eperm
  deriving DecidableEq, Repr

/-- What is seen of a process. -/
structure Probe where
  kill : KillResult
  stat : Option Bytes
  deriving DecidableEq, Repr

/-- `is_pid_dead`. -/
def isPidDead (probe : Probe) (recordedStarttime : Nat) : Bool :=
  if probe.kill ≠ .ok then true
  else
    match readStarttimeImpl probe.stat with
    | none => true
    | some st => st ≠ recordedStarttime

/-! ### Devices -/

/-- What `nvm_controller_init_b3` finds out about a controller and its disk. -/
structure CtrlInfo where
  bar0Size : Nat
  dstrd : Nat
  maxUserQid : Nat
  maxQueuesPerGroup : Nat
  pageSize : Nat
  qDepth : Nat
  blockSize : Nat
  diskName : Bytes

/-- `DeviceState`. The set of allowed GPUs is in the order that it is gone through. -/
structure DeviceState where
  deviceId : Nat
  pciAddr : Bytes
  snvmeDevPath : Bytes
  mountPath : Bytes
  bar0Size : Nat
  dstrd : Nat
  namespaceId : Nat
  pageSize : Nat
  blkSize : Nat
  blkSizeLog : Nat
  queueDepth : Nat
  maxUserQid : Nat
  maxQueuesPerGroup : Nat
  allowedGpus : List Int
  gpuViewPaths : Int → Option Bytes

variable (cfg : ServiceConfig)

/-- `gpu_mount_for`. -/
def gpuMountFor (gpuId : Int) : Option Bytes :=
  (cfg.gpus.find? (·.id = gpuId)).map GpuEntry.mountPath

/-- The path of the character device, which has the number of the disk. -/
def snvmeDevPathOf (diskName : Bytes) : Bytes :=
  let nm := if text "snvme" <+: diskName then diskName.drop 5 else diskName
  let digits := nm.takeWhile isDigit
  text "/dev/ssnvme" ++ if digits = [] then text "0" else digits

/-- The name of the links to a device. -/
def linkName (dev : DeviceState) : Bytes :=
  let name := ((splitPath dev.snvmeDevPath).getLast?).getD []
  if name = [] then
    dev.pciAddr.map fun c => if c = 58 ∨ c = 46 ∨ c = 47 then 95 else c
  else name

/-- The directory of a device for a GPU. -/
def nvmeSubdir (dev : DeviceState) (gpuId : Int) : Bytes :=
  pathAppend dev.mountPath (text "GPU" ++ decimalInt gpuId)

/-- Where the link of a device is, in the directory of a GPU. -/
def linkPath (gpuMount : Bytes) (dev : DeviceState) : Bytes := pathAppend gpuMount (linkName dev)

/-- The path to a link is recorded as the view of a GPU. -/
def DeviceState.addView (dev : DeviceState) (gpuId : Int) (path : Bytes) : DeviceState :=
  { dev with gpuViewPaths := Function.update dev.gpuViewPaths gpuId (some path) }

/-- The link is made, where there is none. -/
def makeLink (cwd : List Bytes) (t : Tree) (dev : DeviceState) (gpuId : Int) (path : Bytes) :
    Tree × DeviceState :=
  match createSymlink t cwd (nvmeSubdir dev gpuId) path with
  | none => (t, dev)
  | some t => (t, dev.addView gpuId path)

/-- The body of the loop in `install_gpu_symlinks`. -/
def installGpuSymlink (cwd : List Bytes) (s : Tree × DeviceState)
    (gpuId : Int) : Tree × DeviceState :=
  let (t, dev) := s
  match gpuMountFor cfg gpuId with
  | none => (t, dev)
  | some gpuMount =>
    if gpuMount = [] then (t, dev)
    else
      match createDirectories t cwd (nvmeSubdir dev gpuId) with
      | none => (t, dev)
      | some t =>
        -- It does not matter whether this fails.
        let t := (createDirectories t cwd gpuMount).getD t
        let path := linkPath gpuMount dev
        match symlinkStatus t cwd path with
        | some (.link existing) =>
          if pathEq existing (nvmeSubdir dev gpuId) then (t, dev.addView gpuId path)
          else makeLink cwd (removeLink t cwd path) dev gpuId path
        | some _ => (t, dev)
        | none => makeLink cwd t dev gpuId path

/-- `install_gpu_symlinks`. -/
def installGpuSymlinks (cwd : List Bytes) (t : Tree) (dev : DeviceState) : Tree × DeviceState :=
  dev.allowedGpus.foldl (installGpuSymlink cfg cwd) (t, dev)

/-- The GPUs that may use a device: all of them, if none are named. -/
def allowList (nvme : NvmeEntry) : List Int :=
  if nvme.allowedGpus = [] then cfg.gpus.map GpuEntry.id else nvme.allowedGpus

/-- An order to go through a set in. -/
structure Iteration where
  order : List Int → List Int
  perm : ∀ l, (order l).Perm l

/-- What happens while the devices are brought up. -/
structure InitEnv where
  /-- What is found out about a controller, or the error. -/
  controller : NvmeEntry → Except Nat CtrlInfo
  iteration : Iteration
  cwd : List Bytes

/-- A device that has been brought up, before there are links to it. -/
def newDevice (env : InitEnv) (nvme : NvmeEntry) (deviceId : Nat)
    (ctrl : CtrlInfo) : DeviceState where
  deviceId := deviceId
  pciAddr := nvme.pciAddr
  snvmeDevPath := snvmeDevPathOf ctrl.diskName
  mountPath := nvme.mountPath
  bar0Size := ctrl.bar0Size
  dstrd := ctrl.dstrd
  namespaceId := nvme.namespaceId
  pageSize := ctrl.pageSize
  blkSize := ctrl.blockSize % 2 ^ 32
  blkSizeLog := if 0 < ctrl.blockSize % 2 ^ 32 then Gemini.ctzll (ctrl.blockSize % 2 ^ 32) else 0
  queueDepth := ctrl.qDepth
  maxUserQid := ctrl.maxUserQid
  maxQueuesPerGroup := ctrl.maxQueuesPerGroup
  allowedGpus := env.iteration.order (allowList cfg nvme).dedup
  gpuViewPaths := fun _ => none

/-- `init_device`. An exception ends the constructor. -/
def initDevice (env : InitEnv) (t : Tree) (nvme : NvmeEntry)
    (deviceId : Nat) : Option (Tree × DeviceState) :=
  match env.controller nvme with
  | .error _ => none
  | .ok ctrl => some (installGpuSymlinks cfg env.cwd t (newDevice cfg env nvme deviceId ctrl))

/-- The loop of the constructor, from the `i`-th device on. -/
def initDevices (cfg : ServiceConfig) (env : InitEnv) :
    Nat → Tree → List NvmeEntry → Option (Tree × List DeviceState)
  | _, t, [] => some (t, [])
  | i, t, nvme :: nvmes =>
    match initDevice cfg env t nvme i with
    | none => none
    | some (t, dev) =>
      (initDevices cfg env (i + 1) t nvmes).map fun (t, devs) => (t, dev :: devs)

/-! ### Leases -/

/-- `Allocation`. Times are in nanoseconds. -/
structure Allocation where
  allocationId : Bytes
  deviceId : Int
  cudaDevice : Int
  grantedQueues : Int
  clientPid : Nat
  clientPidStarttime : Nat
  lastHeartbeat : Nat
  deriving DecidableEq, Repr

/-- `ConnectGrant`. -/
structure ConnectGrant where
  allocationId : Bytes
  deviceId : Int
  pciAddr : Bytes
  snvmeDevPath : Bytes
  bar0Size : Nat
  dstrd : Nat
  grantedQueues : Int
  namespaceId : Nat
  pageSize : Nat
  blkSize : Nat
  blkSizeLog : Nat
  queueDepth : Nat
  mountPath : Bytes
  heartbeatIntervalSec : Nat
  leaseTimeoutSec : Nat
  deriving DecidableEq, Repr

structure ServiceState where
  cfg : ServiceConfig
  devices : List DeviceState
  allocations : AList fun _ : Bytes => Allocation

/-- A conversion to `int32_t`. -/
def toInt32 (n : Nat) : Int := (n : Int).bmod (2 ^ 32)

/-- A digit in hexadecimal. -/
def hexDigit (d : Nat) : UInt8 := UInt8.ofNat (if d < 10 then 48 + d else 87 + d)

/-- A 64-bit number in 16 hexadecimal digits. -/
def hex16 (n : Nat) : Bytes :=
  (List.range 16).map fun i => hexDigit (n / 16 ^ (15 - i) % 16)

/-- `generate_allocation_id`, of the numbers that are drawn. -/
def generateAllocationId (hi lo : Nat) : Bytes := hex16 hi ++ hex16 lo

/-- What happens while a client connects. -/
structure ConnectEnv where
  hi : Nat
  lo : Nat
  stat : Option Bytes
  now : Nat

/-- The number of queues that a client gets, if it gets any. -/
def wantedQueues (q : QueuePoolConfig) (maxQueuesPerGroup : Nat) (numQueues : Int) : Int :=
  let want := if 0 < numQueues then numQueues else q.defaultPerClient
  let want := min want q.maxPerClient
  if 0 < maxQueuesPerGroup then min want (toInt32 maxQueuesPerGroup) else want

variable (s : ServiceState)

namespace ServiceState

/-- The constructor. -/
def construct (env : InitEnv) (t : Tree) : Option (Tree × ServiceState) :=
  (initDevices cfg env 0 t cfg.nvmes).map fun (t, devices) => (t, ⟨cfg, devices, ∅⟩)

/-- What a client is told about its lease. -/
def grantOf (dev : DeviceState) (a : Allocation) : ConnectGrant where
  allocationId := a.allocationId
  deviceId := a.deviceId
  pciAddr := dev.pciAddr
  snvmeDevPath := dev.snvmeDevPath
  bar0Size := dev.bar0Size
  dstrd := dev.dstrd
  grantedQueues := a.grantedQueues
  namespaceId := dev.namespaceId
  pageSize := dev.pageSize
  blkSize := dev.blkSize
  blkSizeLog := dev.blkSizeLog
  queueDepth := dev.queueDepth
  mountPath := (dev.gpuViewPaths a.cudaDevice).getD []
  heartbeatIntervalSec := s.cfg.lease.heartbeatIntervalSec
  leaseTimeoutSec := s.cfg.lease.timeoutSec

/-- `emplace`, which leaves an entry that is there. -/
def emplace (a : Allocation) : ServiceState :=
  if (s.allocations.lookup a.allocationId).isSome then s
  else { s with allocations := s.allocations.insert a.allocationId a }

/-- `connect`. -/
def connect (deviceId cudaDevice numQueues : Int) (clientPid : Nat)
    (env : ConnectEnv) : ServiceState × Except Bytes ConnectGrant :=
  if deviceId < 0 ∨ toInt32 s.devices.length ≤ deviceId then (s, .error (text "invalid device_id"))
  else
    match s.devices[deviceId.toNat]? with
    | none => (s, .error (text "invalid device_id"))
    | some dev =>
      if cudaDevice ∉ dev.allowedGpus then
        (s, .error (text "cuda_device=" ++ decimalInt cudaDevice ++
          text " not in allowed_gpus for device_id=" ++ decimalInt deviceId))
      else
        let want := wantedQueues s.cfg.queuePool dev.maxQueuesPerGroup numQueues
        if want ≤ 0 then (s, .error (text "queue_pool policy yielded 0 queues"))
        else
          let a : Allocation :=
            { allocationId := generateAllocationId env.hi env.lo
              deviceId := deviceId
              cudaDevice := cudaDevice
              grantedQueues := want
              clientPid := clientPid
              clientPidStarttime := (readStarttimeImpl env.stat).getD 0
              lastHeartbeat := env.now }
          (s.emplace a, .ok (s.grantOf dev a))

/-- `disconnect`. -/
def disconnect (allocationId : Bytes) (clientPid : Nat) : ServiceState × Except Bytes Unit :=
  match s.allocations.lookup allocationId with
  | none => (s, .error (text "unknown allocation_id"))
  | some a =>
    if a.clientPid ≠ clientPid then
      (s, .error (text "pid mismatch (recorded=" ++ decimal a.clientPid ++ text " got=" ++
        decimal clientPid ++ text ")"))
    else ({ s with allocations := s.allocations.erase allocationId }, .ok ())

/-- `update_heartbeat`. -/
def updateHeartbeat (allocationId : Bytes) (now : Nat) : ServiceState × Except Bytes Unit :=
  match s.allocations.lookup allocationId with
  | none => (s, .error (text "unknown allocation_id"))
  | some a =>
    ({ s with allocations := s.allocations.insert allocationId { a with lastHeartbeat := now } },
      .ok ())

/-- Whether a lease has been silent for longer than the timeout. -/
def expired (now : Nat) (a : Allocation) : Bool :=
  ¬ ((now : Int) - a.lastHeartbeat ≤ s.cfg.lease.timeoutSec * 10 ^ 9)

/-- `to_reap`, given what is seen of the client of each lease. -/
def toReap (now : Nat) (probe : Bytes → Probe) : List Bytes :=
  s.allocations.entries.filterMap fun e =>
    if s.expired now e.2 && isPidDead (probe e.2.allocationId) e.2.clientPidStarttime then
      some e.2.allocationId
    else none

/-- One round of `reaper_loop`, with the leases that it drops. -/
def reap (now : Nat) (probe : Bytes → Probe) : ServiceState × List Bytes :=
  let ids := s.toReap now probe
  ({ s with allocations := ids.foldl (fun allocations id => allocations.erase id) s.allocations },
    ids)

end ServiceState

end Geminifs.NvmeService
