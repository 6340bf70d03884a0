import Geminifs.Library.Bitmap
import Geminifs.Library.FirstMatch
import Mathlib.Algebra.Ring.Nat

/-!
# The State of a Controller in the Kernel Module

What the `snvme` module keeps for one controller: the `ctrl` object with its
pool of user queue ids, one owner per open file descriptor with its queue
groups, the registered memory maps, and the `nvme_dev` while the controller is
bound.

Kernel integers are natural numbers; `u16` and `u32` stand where the source
converts or lets one wrap around. The module's global lists of maps hold only
this controller's here.

## Main definitions

* `UserQueue`, `QGroup`, `Owner`: Slots, groups and file descriptors.
* `UserQidPool`: The pool of user queue ids.
* `MapDesc`: A registered memory map.
* `NvmeDev`: The controller while it is bound.
* `State`: All of it.
* `AdminCmd`: The commands sent for user queues.
-/

namespace Geminifs.Snvme

def nvmMaxGroupsPerFd : Nat := 1

def nvmMaxQueuesPerGroup : Nat := 16

def enoent : Int := -2

def eio : Int := -5

def eagain : Int := -11

def enomem : Int := -12

def efault : Int := -14

def ebusy : Int := -16

def enodev : Int := -19

def einval : Int := -22

/-- A conversion to `uint16_t`. -/
def u16 (n : Nat) : Nat := n % 65536

/-- A conversion to a 32-bit unsigned. -/
def u32 (n : Nat) : Nat := n % 4294967296

/-- A decrement of a 32-bit unsigned. -/
def dec32 (n : Nat) : Nat := u32 (n + 4294967295)

/-- `struct snvm_user_queue`: one slot of a group. -/
structure UserQueue where
  qid : Nat
  alive : Bool
  sqVaddr : Nat
  cqVaddr : Nat
  deriving DecidableEq, Repr, Inhabited

/-- `struct snvm_qgroup`; its maps are those linked to it. The array of slots
    has `nvmMaxQueuesPerGroup` entries. -/
structure QGroup where
  groupId : Nat
  maxQueues : Nat
  queues : Nat → UserQueue
  curQueues : Nat

/-- `struct snvm_dev_owner`: an open file descriptor and the task that opened
    it. -/
structure Owner where
  fd : Nat
  task : Nat
  groups : List QGroup
  nrGroups : Nat

/-- The pool of user queue ids: `user_qid_first`, `user_qid_last` and
    `user_qid_bitmap`. There is none until the first use. -/
structure UserQidPool where
  first : Nat
  last : Nat
  bitmap : Bitmap

def UserQidPool.size (p : UserQidPool) : Nat := p.last - p.first + 1

/-- `enum nvm_map_kind`. -/
inductive MapKind where
  | unspecified
  | ringSq
  | ringCq
  | data
  deriving DecidableEq, Repr

/-- The global list a map is on. -/
inductive MapList where
  | host
  | device
  | deviceQueue
  deriving DecidableEq, Repr

/-- What `group_link` ties a map to: nothing, a group, or the data maps of a
    file descriptor. -/
inductive MapLink where
  | none
  | group (fd groupId : Nat)
  | data (fd : Nat)
  deriving DecidableEq, Repr

/-- `struct map`: a range of pinned memory. -/
structure MapDesc where
  list : MapList
  /-- The task that made it. -/
  owner : Nat
  vaddr : Nat
  pageSize : Nat
  kind : MapKind
  groupId : Nat
  link : MapLink
  ioqIdx : Int
  isCq : Int
  /-- `addrs[0]`. -/
  addr : Nat
  deriving DecidableEq, Repr

/-- `struct nvme_dev`, as far as queue ids depend on it. -/
structure NvmeDev where
  /-- The admin queue and the kernel's I/O queues, which are `1` up to this. -/
  onlineQueues : Nat
  maxQid : Nat
  /-- `ctrl.queue_count`: the queues that have rings. -/
  queueCount : Nat
  nrAllocatedQueues : Nat
  /-- What the controller granted, of what was asked for. -/
  ctrlMaxIoQueues : Nat
  capKernelIoq : Nat
  nrWriteQueues : Nat
  nrPollQueues : Nat
  useUserAllocated : Bool
  nrUserAllocatedCq : Nat
  nrUserUseCq : Nat
  queueOnHost : Bool
  /-- The queue ids of the user queues made while probing. -/
  legacyQids : List Nat
  qDepth : Nat
  dbStride : Nat
  deriving DecidableEq, Repr

/-- The part of `struct snvm_queue_setup` that a probe reads. -/
structure QueueSetup where
  valid : Bool
  capKernelIoq : Nat
  nrWrite : Nat
  nrPoll : Nat
  deriving DecidableEq, Repr

/-- One controller: its `ctrl` object, file descriptors and maps, and its
    `nvme_dev` while the module owns it and its admin queue is live. -/
structure State where
  pool : Option UserQidPool
  setup : QueueSetup
  onHost : Bool
  ioqNum : Nat
  cqNum : Nat
  ioqMapNum : Nat
  useSreg : Nat
  owners : List Owner
  maps : List MapDesc
  ndev : Option NvmeDev

/-- A controller that was just registered. -/
def State.init : State :=
  ⟨none, ⟨false, 0, 0, 0⟩, false, 0, 0, 0, 0, [], [], none⟩

/-- The commands sent for user queues, each with its queue id; a queue is made
    with the address and the depth of its ring. -/
inductive AdminCmd where
  | createCq (qid prp1 qsize : Nat)
  | createSq (qid prp1 qsize : Nat)
  | deleteSq (qid : Nat)
  | deleteCq (qid : Nat)
  deriving DecidableEq, Repr

def AdminCmd.qid : AdminCmd → Nat
  | .createCq qid _ _ => qid
  | .createSq qid _ _ => qid
  | .deleteSq qid => qid
  | .deleteCq qid => qid

/-- `find_qgroup_locked`; id 0 is never assigned. -/
def Owner.findQgroup (o : Owner) (groupId : Nat) : Option QGroup :=
  if groupId = 0 then none else o.groups.find? (fun g => g.groupId == groupId)

def State.findOwner (s : State) (fd : Nat) : Option Owner := s.owners.find? (fun o => o.fd == fd)

/-- The group of an id that a descriptor has. -/
def State.qgroup (s : State) (fd groupId : Nat) : Option QGroup :=
  (s.findOwner fd).bind (·.findQgroup groupId)

def State.updateOwner (s : State) (fd : Nat) (f : Owner → Owner) : State :=
  { s with owners := updateFirst (fun o => o.fd == fd) f s.owners }

end Geminifs.Snvme
