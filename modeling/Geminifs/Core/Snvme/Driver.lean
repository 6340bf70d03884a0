import Mathlib.Logic.Function.Basic
import Geminifs.Core.Snvme.Step
import Geminifs.Library.Traces

/-!
# The Module with All Its Controllers

What the controllers share: the lists of maps and the allocator of group ids
are the module's, not a controller's. `map_find` and `map_purge_by_owner` see
the maps of every controller; only a probe looks for those of its own.

A map here is known by an identity besides its contents, and by the controller
and the file descriptor through which it was registered, which the source does
not record for every kind. `Driver.step` is the step of one controller with the
shared maps put in, and `Driver.events` says in which order it registers and
releases maps and sends commands, which map a command gave the controller as a
ring, and whether the controller made the queue.

`Hw` is what the controllers have: which queues exist, and which maps they use.
It hears of the events and of nothing else.

## Main definitions

* `Registered`: A map with its identity and its origin.
* `Call`, `Request`: The ioctls of an open file, and all that can be done.
* `Driver`: The module's state.
* `Event`: What can be seen from the outside.
* `Driver.events`, `Driver.step`: What a request does.
* `HwQueue`, `Hw.apply`: The queues of the controllers.
* `System.step`: Both sides together.
-/

namespace Geminifs.Snvme

open Runs

/-- A map, which one it is, and the controller and file descriptor it was
    registered through. -/
structure Registered where
  id : Nat
  ctrl : Nat
  fd : Nat
  desc : MapDesc
  deriving DecidableEq, Repr

/-- The ioctls of a controller's device file. -/
inductive Call where
  | mapHost (req : MapReq) (env : MapEnv)
  | mapDevice (req : MapReq) (env : MapEnv)
  | mapDeviceQueue (req : MapReq) (env : MapEnv)
  | unmapHost (vaddr : Nat) (copyIn : Bool)
  | unmapDevice (vaddr : Nat) (copyIn : Bool)
  | unmapDeviceQueue (vaddr : Nat) (copyIn : Bool)
  | createQueueGroup (flags : Nat) (reserved : List Nat) (copyIn kzallocOk : Bool)
      (idaError : Option Int) (copyOut : Bool)
  | destroyQueueGroup (groupId : Nat) (copyIn : Bool)
  | addUserQueue (req : AddReq) (env : AddEnv)
  | setIoqNum (req : SetupReq) (copyIn : Bool)
  | setKernelIoqCap (cap : Nat) (copyIn : Bool)
  | setShareReg (ioqIdx : Int) (copyIn : Bool)
  | clearIoqNum

/-- Everything that can be done, each with its controller. An ioctl comes from a
    task, which need not be the one that opened the file. -/
inductive Request where
  | devOpen (ctrl task : Nat) (kzallocOk : Bool)
  | devRelease (ctrl fd : Nat)
  | ioctl (ctrl fd task : Nat) (call : Call)
  | deviceBind (ctrl : Nat) (env : BindEnv)
  | deviceReset (ctrl : Nat) (env : ResetEnv)
  | deviceUnbind (ctrl : Nat)

def Request.ctrl : Request → Nat
  | .devOpen ctrl .. => ctrl
  | .devRelease ctrl _ => ctrl
  | .ioctl ctrl .. => ctrl
  | .deviceBind ctrl _ => ctrl
  | .deviceReset ctrl _ => ctrl
  | .deviceUnbind ctrl => ctrl

/-- A request that begins, renews or ends a binding of the controller. -/
def Request.restarts (ctrl : Nat) : Request → Bool
  | .deviceBind c _ => c = ctrl
  | .deviceReset c _ => c = ctrl
  | .deviceUnbind c => c = ctrl
  | _ => false

/-- The request is one of the `NVM_UNMAP_*` ioctls. -/
def Request.unmaps : Request → Bool
  | .ioctl _ _ _ (.unmapHost ..) => true
  | .ioctl _ _ _ (.unmapDevice ..) => true
  | .ioctl _ _ _ (.unmapDeviceQueue ..) => true
  | _ => false

/-- The module: its controllers, the maps of all of them in the order they were
    registered, and `snvm_queue_group_ida`. The maps that a controller's own
    record holds are not read. `next` has not been given to a file or a map. -/
structure Driver where
  ctrls : Nat → State
  regs : List Registered
  groupIda : List Nat
  next : Nat

/-- The module when it was just loaded. -/
def Driver.init : Driver := ⟨fun _ => State.init, [], [], 1⟩

/-- `ida_simple_get` from 1 on: the least id that is free. -/
def idaSimpleGet (ids : List Nat) : Option Nat :=
  ((List.range (ids.length + 1)).map (· + 1)).find? (fun k => k ∉ ids)

variable (d : Driver)

/-- The allocator's answer, unless it fails. -/
def Driver.idaAnswer : Option Int → Except Int Nat
  | some e => .error e
  | none =>
    match idaSimpleGet d.groupIda with
    | some id => .ok id
    | none => .error enomem

/-- What an ioctl asks of its controller. -/
def Call.op (fd task : Nat) : Call → Op
  | .mapHost req env => .mapHost fd task req env
  | .mapDevice req env => .mapDevice fd task req env
  | .mapDeviceQueue req env => .mapDeviceQueue task req env
  | .unmapHost vaddr ok => .unmapHost task vaddr ok
  | .unmapDevice vaddr ok => .unmapDevice task vaddr ok
  | .unmapDeviceQueue vaddr ok => .unmapDeviceQueue task vaddr ok
  | .createQueueGroup flags reserved copyIn kzallocOk idaError copyOut =>
    .createQueueGroup fd flags reserved ⟨copyIn, kzallocOk, d.idaAnswer idaError, copyOut⟩
  | .destroyQueueGroup groupId ok => .destroyQueueGroup fd groupId ok
  | .addUserQueue req env => .addUserQueue fd req env
  | .setIoqNum req ok => .setIoqNum req ok
  | .setKernelIoqCap cap ok => .setKernelIoqCap cap ok
  | .setShareReg ioqIdx ok => .setShareReg ioqIdx ok
  | .clearIoqNum => .clearIoqNum

/-- A controller with the maps that its functions see. -/
def Driver.view (ctrl : Nat) : State :=
  { d.ctrls ctrl with maps := d.regs.map Registered.desc }

/-- A controller with its own maps only, which is what a probe looks at. -/
def Driver.ownView (ctrl : Nat) : State :=
  { d.ctrls ctrl with maps := (d.regs.filter (fun r => r.ctrl = ctrl)).map Registered.desc }

/-- What a request does to its controller. An ioctl needs an open file. -/
def Driver.result : Request → Result
  | .devOpen c task ok => exec (d.view c) (.devOpen d.next task ok)
  | .devRelease c fd => exec (d.view c) (.devRelease fd)
  | .ioctl c fd task call =>
    if ((d.ctrls c).findOwner fd).isSome then exec (d.view c) (call.op d fd task)
    else (d.view c).refuse enodev
  | .deviceBind c env => exec (d.ownView c) (.deviceBind env)
  | .deviceReset c env => exec (d.ownView c) (.deviceReset env)
  | .deviceUnbind c => exec (d.ownView c) .deviceUnbind

/-- What can be seen from the outside: a map is registered or released, a command
    is sent, with the map it names as a ring and whether it made a queue, or the
    controller loses all its queues. -/
inductive Event where
  | registered (r : Registered)
  | sent (ctrl : Nat) (cmd : AdminCmd) (ring : Option Registered) (ok : Bool)
  | unmapped (r : Registered)
  | restarted (ctrl : Nat)
  deriving DecidableEq, Repr

/-- The event is a command. -/
def Event.isSent : Event → Bool
  | .sent .. => true
  | _ => false

/-- Commands that delete queues; their results are not looked at. -/
def deleteEvents (ctrl : Nat) (cmds : List AdminCmd) : List Event :=
  cmds.map (fun cmd => .sent ctrl cmd none true)

/-- `findRings` on maps that are known by their identity. -/
def findRegs (pr : QueuePair) : Option Registered → Option Registered → List Registered →
    Option (Registered × Registered)
  | some sq, some cq, _ => some (sq, cq)
  | _, _, [] => none
  | sq, cq, r :: rs =>
    if r.desc.kind = .data then findRegs pr sq cq rs
    else
      findRegs pr
        (if r.desc.vaddr = pageOf r.desc.pageSize pr.sqVaddr ∧
          (r.desc.kind = .unspecified ∨ r.desc.kind = .ringSq) then some r else sq)
        (if r.desc.vaddr = pageOf r.desc.pageSize pr.cqVaddr ∧
          (r.desc.kind = .unspecified ∨ r.desc.kind = .ringCq) then some r else cq) rs

/-- The commands of `NVM_ADD_USER_QUEUE`, pair by pair: each command that makes a
    queue with its ring and its result, and what is deleted after them. -/
def addEvents (ctrl : Nat) (env : AddEnv) : Nat → List (Registered × Registered) →
    List AdminCmd → List Event
  | i, (_, cq) :: _, [.createCq qid prp1 size] =>
    [.sent ctrl (.createCq qid prp1 size) (some cq) (env.cqRet i = 0)]
  | i, (sq, cq) :: rings, .createCq qid prp1 size :: cmd :: cmds =>
    .sent ctrl (.createCq qid prp1 size) (some cq) (env.cqRet i = 0) ::
      if env.cqRet i ≠ 0 then deleteEvents ctrl (cmd :: cmds)
      else
        .sent ctrl cmd (some sq) (env.sqRet i = 0) :: if env.sqRet i ≠ 0 then deleteEvents ctrl cmds
          else addEvents ctrl env (i + 1) rings cmds
  -- What is left after the pairs only deletes.
  | _, _, cmds => deleteEvents ctrl cmds

/-- The maps linked to a group. -/
def Driver.groupMaps (fd groupId : Nat) : List Registered :=
  d.regs.filter (fun r => r.desc.link = .group fd groupId)

/-- The destruction of a group: its queues first, then its maps. -/
def Driver.dropEvents (ctrl fd : Nat) (g : QGroup) : List Event :=
  deleteEvents ctrl (destroyQgroup g (d.ctrls ctrl).pool (d.ctrls ctrl).ndev.isSome).2 ++
    (d.groupMaps fd g.groupId).map .unmapped

/-- The maps that a close releases after the groups: the data maps of the
    descriptor, and then, list by list, those of its task that have no group. -/
def Driver.purged (own : Owner) : List Registered :=
  let rest := d.regs.filter (fun r => own.groups.all (fun g => r.desc.link ≠ .group own.fd g.groupId))
  let dataMaps := rest.filter (fun r => r.desc.link = .data own.fd)
  let legacy := rest.filter (fun r =>
    r.desc.link ≠ .data own.fd ∧ r.desc.owner = own.task ∧ r.desc.groupId = 0)
  dataMaps ++ legacy.filter (fun r => r.desc.list = .host) ++
    legacy.filter (fun r => r.desc.list = .device) ++
    legacy.filter (fun r => r.desc.list = .deviceQueue)

def Driver.closeEvents (ctrl : Nat) (own : Owner) : List Event :=
  own.groups.flatMap (d.dropEvents ctrl own.fd) ++ (d.purged own).map .unmapped

/-- The map an `NVM_UNMAP_*` ioctl releases. -/
def Driver.unmapEvents (list : MapList) (task vaddr : Nat) (copyIn : Bool) : List Event :=
  if copyIn then
    ((d.regs.find? (fun r => mapFind list task vaddr r.desc)).toList).map .unmapped
  else []

/-- The map an `NVM_MAP_*` ioctl registers: what the controller's function put
    behind the maps there were. -/
def Driver.mapEvents (ctrl fd : Nat) (r : Result) : List Event :=
  (r.state.maps.drop d.regs.length).map (fun m => .registered ⟨d.next, ctrl, fd, m⟩)

/-- What an ioctl of an open file does, as seen from the outside. -/
def Driver.callEvents (ctrl : Nat) (own : Owner) (task : Nat) (r : Result) : Call → List Event
  | .mapHost .. => d.mapEvents ctrl own.fd r
  | .mapDevice .. => d.mapEvents ctrl own.fd r
  | .mapDeviceQueue .. => d.mapEvents ctrl own.fd r
  | .unmapHost vaddr ok => d.unmapEvents .host task vaddr ok
  | .unmapDevice vaddr ok => d.unmapEvents .device task vaddr ok
  | .unmapDeviceQueue vaddr ok => d.unmapEvents .deviceQueue task vaddr ok
  | .destroyQueueGroup groupId ok =>
    match own.findQgroup groupId with
    | some g => if ok then d.dropEvents ctrl own.fd g else []
    | none => []
  | .addUserQueue req env =>
    match req.pairs.mapM (fun pr => findRegs pr none none (d.groupMaps own.fd req.groupId)) with
    | some rings => addEvents ctrl env 0 rings r.cmds
    | none => []
  | _ => []

/-- What a request does, as seen from the outside. -/
def Driver.events (req : Request) : List Event :=
  match req with
  | .devOpen .. => []
  | .devRelease c fd =>
    match (d.ctrls c).findOwner fd with
    | some own => d.closeEvents c own
    | none => []
  | .ioctl c fd task call =>
    match (d.ctrls c).findOwner fd with
    | some own => d.callEvents c own task (d.result req) call
    | none => []
  | .deviceBind c _ => [.restarted c]
  | .deviceReset c _ => [.restarted c]
  | .deviceUnbind c => [.restarted c]

/-- The module's maps after an event. -/
def onRegs (regs : List Registered) : Event → List Registered
  | .registered r => regs ++ [r]
  | .unmapped r => regs.filter (fun x => x.id ≠ r.id)
  | _ => regs

/-- The group ids in use after a request: a new group took one, and a destroyed
    one gives its own back. -/
def Driver.idaAfter : Request → List Nat
  | .ioctl c fd task (.createQueueGroup flags reserved copyIn kzallocOk idaError copyOut) =>
    match (d.result
      (.ioctl c fd task (.createQueueGroup flags reserved copyIn kzallocOk idaError copyOut))).reply with
    | .group groupId _ => groupId :: d.groupIda
    | _ => d.groupIda
  | .ioctl c fd _ (.destroyQueueGroup groupId ok) =>
    match (d.ctrls c).findOwner fd with
    | some own =>
      if ok ∧ (own.findQgroup groupId).isSome then d.groupIda.filter (· ≠ groupId)
      else d.groupIda
    | none => d.groupIda
  | .devRelease c fd =>
    match (d.ctrls c).findOwner fd with
    | some own => d.groupIda.filter (fun k => own.groups.all (fun g => g.groupId ≠ k))
    | none => d.groupIda
  | _ => d.groupIda

/-- What a request does to the module. -/
def Driver.step (req : Request) : Driver where
  ctrls := Function.update d.ctrls req.ctrl (d.result req).state
  regs := run onRegs d.regs (d.events req)
  groupIda := d.idaAfter req
  next := d.next + 1

/-- What a controller has under one queue id: whether there is a completion queue
    and a submission queue, and the maps they were given as rings. -/
structure HwQueue where
  cq : Bool
  sq : Bool
  rings : List Registered
  deriving DecidableEq, Repr

def HwQueue.none : HwQueue := ⟨false, false, []⟩

/-- The rings are in use as long as one of the two queues exists. -/
def HwQueue.settle (h : HwQueue) : HwQueue := if h.cq || h.sq then h else HwQueue.none

/-- A queue id of a controller after a command for it. -/
def HwQueue.command (h : HwQueue) (ring : Option Registered) (ok : Bool) : AdminCmd → HwQueue
  | .createCq .. => if ok then { h with cq := true, rings := h.rings ++ ring.toList } else h
  | .createSq .. => if ok then { h with sq := true, rings := h.rings ++ ring.toList } else h
  | .deleteSq _ => { h with sq := false }.settle
  | .deleteCq _ => { h with cq := false }.settle

/-- A queue id of a controller after an event. -/
def HwQueue.apply (key : Nat × Nat) (h : HwQueue) : Event → HwQueue
  | .sent c cmd ring ok => if (c, cmd.qid) = key then h.command ring ok cmd else h
  | .restarted c => if c = key.1 then HwQueue.none else h
  | _ => h

/-- The queues of all controllers, by controller and queue id. -/
abbrev Hw := Nat × Nat → HwQueue

def Hw.empty : Hw := fun _ => HwQueue.none

def Hw.apply (hw : Hw) (e : Event) : Hw := fun key => (hw key).apply key e

/-- The module and the controllers. -/
structure System where
  driver : Driver
  hw : Hw

def System.init : System := ⟨Driver.init, Hw.empty⟩

def System.step (s : System) (req : Request) : System :=
  ⟨s.driver.step req, run Hw.apply s.hw (s.driver.events req)⟩

end Geminifs.Snvme
