import Geminifs.Core.NvmeService.State
import Geminifs.Core.QueueGroup

/-!
# The Registry over the Service

`NvmeServiceBackedRegistry`: opens devices through the daemon. For each request it
connects, attaches a controller of its own and builds a queue group if it is asked to;
if anything fails it closes what is open and gives up.

A session is owned by `sess` until the controller is attached, and by its slot from then
on, as a bare pointer: a slot that is dropped drops the session without disconnecting it.
The number of queues that were granted is read through `sess` after that, when it is null.
What such a read does is given in advance, like everything else that the code does not
decide: it ends the process, or it gives some number.

Sessions and controllers are numbered by their requests.

## Main definitions

* `Request`, `OpenEnv`: What is asked for, and what happens.
* `Event`: What becomes of sessions and controllers.
* `openOne`, `closeSlots`, `openAll`: The calls.
-/

namespace Geminifs.ServiceRegistry

open NvmeService

/-- `NvmeServiceBackedRequest`. -/
structure Request where
  daemonDeviceId : Int := 0
  cudaDevice : Int := 0
  numQueues : Int := 0
  displayName : Bytes := []
  buildQueueGroup : Bool := false
  numUserQueues : Nat := 0
  queueDepth : Nat := 0
  namespaceId : Nat := 0

/-- `LocalNvmeDevice`, with what the attached controller says and the group on it. -/
structure LocalNvmeDevice where
  deviceId : Nat
  pciAddr : Bytes
  snvmeDevPath : Bytes
  displayName : Bytes
  namespaceId : Nat
  bar0Size : Nat
  dstrd : Nat
  blkSize : Nat
  blkSizeLog : Nat
  queueDepth : Nat
  pageSize : Nat
  mountPath : Bytes
  ctrl : LibNvm.NvmCtrl
  queueGroup : Option LibNvm.QueueGroup

/-- What happens while a request is opened: the answer of the daemon, the controller that
    is attached, what is read through `sess` once it is null, and what building a group
    runs into. -/
structure OpenEnv where
  connect : Option ConnectGrant
  attach : Option LibNvm.NvmCtrl
  readNull : Option Int
  kernel : LibNvm.Session
  group : LibNvm.InitEnv

inductive Event where
  | connect (i : Nat)
  | disconnect (i : Nat)
  | attach (i : Nat)
  | free (i : Nat)
  deriving DecidableEq, Repr

/-- `bp`, before there is a group. -/
def newDevice (req : Request) (deviceId : Nat) (sess : ConnectGrant) (ctrl : LibNvm.NvmCtrl) :
    LocalNvmeDevice where
  deviceId := deviceId
  pciAddr := sess.pciAddr
  snvmeDevPath := sess.snvmeDevPath
  displayName :=
    if req.displayName = [] then text "local_nvme @ " ++ sess.pciAddr ++ text " (svc)"
    else req.displayName
  namespaceId := sess.namespaceId
  bar0Size := sess.bar0Size % 2 ^ 32
  dstrd := sess.dstrd
  blkSize := sess.blkSize
  blkSizeLog := sess.blkSizeLog
  queueDepth := sess.queueDepth
  pageSize := sess.pageSize
  mountPath := sess.mountPath
  ctrl := ctrl
  queueGroup := none

/-- `granted`, of the number that is read. -/
def grantedOf (req : Request) (grantedQueues : Int) : Nat :=
  ((if 0 < grantedQueues then grantedQueues
    else if 0 < req.numQueues then req.numQueues else 4) % 2 ^ 32).toNat

/-- `nq`. -/
def queuesFor (req : Request) (granted : Nat) : Nat :=
  if 0 < req.numUserQueues then min req.numUserQueues granted else granted

/-- What `open_one` does with the group of an attached device, given the number that is
    read. `none` is a failure. -/
def buildGroup (req : Request) (bp : LocalNvmeDevice) (grantedQueues : Int) (env : OpenEnv) :
    Option LocalNvmeDevice :=
  let nq := queuesFor req (grantedOf req grantedQueues)
  let qd := if 0 < req.queueDepth then req.queueDepth else bp.queueDepth
  if qd = 0 then none
  else if nq = 0 then none
  else
    match (LibNvm.newQueueGroup env.kernel (some bp.ctrl) bp.blkSize nq qd env.group).2 with
    | .error _ => none
    | .ok g => some { bp with queueGroup := some g }

/-- `open_one`, with what becomes of the session and the controller. The process may end. -/
def openOne (req : Request) (i : Nat) (env : OpenEnv) :
    Option (List Event × Option LocalNvmeDevice) :=
  match env.connect with
  | none => some ([], none)
  | some sess =>
    match env.attach with
    -- `sess` goes out of scope.
    | none => some ([.connect i, .disconnect i], none)
    | some ctrl =>
      let bp := newDevice req i sess ctrl
      -- From here on the session is in the slot.
      if ¬ req.buildQueueGroup then some ([.connect i, .attach i], some bp)
      else
        match env.readNull with
        | none => none
        | some grantedQueues =>
          match buildGroup req bp grantedQueues env with
          | none => some ([.connect i, .attach i, .free i], none)
          | some bp => some ([.connect i, .attach i], some bp)

/-- `close_locked`: in reverse, each slot gives up its controller and its session. -/
def closeSlots (slots : List LocalNvmeDevice) : List Event :=
  slots.reverse.flatMap fun bp => [.free bp.deviceId, .disconnect bp.deviceId]

/-- The loop of `Open`, from the `i`-th request on: the slots and the events so far go
    in, and what `Open` returns comes out. -/
def openFrom (env : Nat → OpenEnv) : Nat → List Request → List LocalNvmeDevice → List Event →
      Option (List LocalNvmeDevice × List Event × Bool)
  | _, [], slots, events => some (slots, events, true)
  | i, req :: reqs, slots, events =>
    match openOne req i (env i) with
    | none => none
    | some (new, none) => some ([], events ++ new ++ closeSlots slots, false)
    | some (new, some bp) => openFrom env (i + 1) reqs (slots ++ [bp]) (events ++ new)

/-- `Open`, on a registry that is not open. -/
def openAll (env : Nat → OpenEnv) (reqs : List Request) :
    Option (List LocalNvmeDevice × List Event × Bool) :=
  openFrom env 0 reqs [] []

end Geminifs.ServiceRegistry
