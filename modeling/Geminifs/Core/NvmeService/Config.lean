import Geminifs.Library.Decimal

/-!
# The Configuration of the Service

What the daemon is told about GPUs and NVMe devices, and the check that it makes before
it uses any of it. The check goes through both lists in order, with the names that it
has seen, and stops at the first fault with a text that names it.

## Main definitions

* `ServiceConfig`: The configuration, with its defaults.
* `validateConfig`: The check.
-/

namespace Geminifs.NvmeService

structure GpuEntry where
  id : Int := -1
  mountPath : Bytes := []
  deriving DecidableEq, Repr

structure NvmeEntry where
  pciAddr : Bytes := []
  mountPath : Bytes := []
  namespaceId : Nat := 1
  kernelIoqCap : Nat := 0
  allowedGpus : List Int := []
  deriving DecidableEq, Repr

structure QueuePoolConfig where
  defaultPerClient : Int := 4
  maxPerClient : Int := 16
  deriving DecidableEq, Repr

structure LeaseConfig where
  heartbeatIntervalSec : Nat := 10
  timeoutSec : Nat := 30
  deriving DecidableEq, Repr

structure ServiceConfig where
  endpoint : Bytes := text "127.0.0.1:50051"
  gpus : List GpuEntry := []
  nvmes : List NvmeEntry := []
  queuePool : QueuePoolConfig := {}
  lease : LeaseConfig := {}
  deriving DecidableEq, Repr

/-- The loop over the GPUs, which gives their ids. -/
def checkGpus : List Int → List GpuEntry → Except Bytes (List Int)
  | ids, [] => .ok ids
  | ids, g :: gs =>
    if g.id < 0 then .error (text "gpus[].id must be >= 0")
    else if g.id ∈ ids then .error (text "duplicate gpus[].id: " ++ decimalInt g.id)
    else if g.mountPath = [] then
      .error (text "gpus[id=" ++ decimalInt g.id ++ text "].mount_path is empty")
    else checkGpus (g.id :: ids) gs

/-- The loop over the GPUs that a device is allowed to. -/
def checkAllowed (gpuIds : List Int) (pciAddr : Bytes) : List Int → List Int → Except Bytes Unit
  | _, [] => .ok ()
  | seen, gid :: gids =>
    if gid ∉ gpuIds then
      .error (text "nvmes[pci=" ++ pciAddr ++ text "].allowed_gpus references gpu_id=" ++
        decimalInt gid ++ text " which has no matching entry in gpus[]")
    else if gid ∈ seen then
      .error (text "nvmes[pci=" ++ pciAddr ++ text "].allowed_gpus has duplicate gpu_id=" ++
        decimalInt gid)
    else checkAllowed gpuIds pciAddr (gid :: seen) gids

/-- The loop over the devices. -/
def checkNvmes (gpuIds : List Int) : List Bytes → List Bytes → List NvmeEntry → Except Bytes Unit
  | _, _, [] => .ok ()
  | pcis, mounts, n :: ns =>
    if n.pciAddr = [] then .error (text "nvmes[].pci_addr is empty")
    else if n.pciAddr ∈ pcis then .error (text "duplicate nvmes[].pci_addr: " ++ n.pciAddr)
    else if n.mountPath = [] then
      .error (text "nvmes[pci=" ++ n.pciAddr ++ text "].mount_path is empty")
    else if n.mountPath ∈ mounts then
      .error (text "duplicate nvmes[].mount_path: " ++ n.mountPath)
    else
      match checkAllowed gpuIds n.pciAddr [] n.allowedGpus with
      | .error e => .error e
      | .ok () => checkNvmes gpuIds (n.pciAddr :: pcis) (n.mountPath :: mounts) ns

def checkPool (q : QueuePoolConfig) : Except Bytes Unit :=
  if q.defaultPerClient ≤ 0 ∨ q.maxPerClient ≤ 0 ∨ q.maxPerClient < q.defaultPerClient then
    .error (text "queue_pool: default_per_client must be in (0, max_per_client]")
  else .ok ()

def checkLease (l : LeaseConfig) : Except Bytes Unit :=
  if l.heartbeatIntervalSec = 0 ∨ l.timeoutSec = 0 ∨ l.timeoutSec ≤ l.heartbeatIntervalSec then
    .error (text "lease: heartbeat_interval_sec must be in (0, timeout_sec)")
  else .ok ()

/-- `validate_config`, with the text that it gives if it fails. -/
def validateConfig (cfg : ServiceConfig) : Except Bytes Unit :=
  if cfg.endpoint = [] then .error (text "grpc.endpoint is empty")
  else if cfg.gpus = [] then .error (text "gpus list is empty")
  else if cfg.nvmes = [] then .error (text "nvmes list is empty")
  else
    match checkGpus [] cfg.gpus with
    | .error e => .error e
    | .ok gpuIds =>
      match checkNvmes gpuIds [] [] cfg.nvmes with
      | .error e => .error e
      | .ok () =>
        match checkPool cfg.queuePool with
        | .error e => .error e
        | .ok () => checkLease cfg.lease

end Geminifs.NvmeService
