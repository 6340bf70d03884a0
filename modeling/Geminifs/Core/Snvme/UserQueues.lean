import Geminifs.Core.Snvme.Maps

/-!
# User Queues

The pool of user queue ids, the queue groups, and the ioctls on them:
`NVM_CREATE_QUEUE_GROUP`, `NVM_DESTROY_QUEUE_GROUP`, `NVM_ADD_USER_QUEUE`, and
the release of a file descriptor, which destroys its groups.

The pool is made on its first use, from what the binding of that moment says,
and never again. Each function returns the commands it sends to the controller
in the order it sends them; what the controller answers is an argument.

## Main definitions

* `userQidPoolInit`, `UserQidPool.alloc`, `UserQidPool.free`: The pool.
* `destroyQgroup`: The queues of a group are deleted and their ids freed.
* `nvmCreateQueueGroup`, `nvmDestroyQueueGroup`, `nvmAddUserQueue`,
  `snvmDevOpen`, `snvmDevRelease`: The operations.
-/

namespace Geminifs.Snvme

/-- `snvm_user_qid_pool_init_locked`. -/
def userQidPoolInit (pool : Option UserQidPool) (ndev : NvmeDev) (kcallocOk : Bool) :
    Except Int UserQidPool :=
  match pool with
  -- A pool that is there is kept, whatever the limits are by now.
  | some p => .ok p
  | none =>
    if ndev.onlineQueues = 0 ∨ ndev.nrAllocatedQueues = 0 then .error enodev
    else if ndev.ctrlMaxIoQueues = 0 then .error enodev
    else if ndev.ctrlMaxIoQueues < ndev.onlineQueues then .error ebusy
    else if ¬ kcallocOk then .error enomem
    else .ok ⟨ndev.onlineQueues, ndev.ctrlMaxIoQueues, Bitmap.zeros⟩

namespace UserQidPool

/-- The loop of `snvm_user_qid_alloc_locked`, with the ids allocated so far.
    When the pool is exhausted, their bits are cleared again, the last one
    first. -/
def allocLoop : Nat → UserQidPool → List Nat → UserQidPool × Option (List Nat)
  | 0, p, qids => (p, some qids)
  | nr + 1, p, qids =>
    let bit := p.bitmap.findFirstZeroBit p.size
    if p.size ≤ bit then
      ({ p with bitmap := p.bitmap.clearAll (qids.reverse.map (· - p.first)) }, none)
    else
      allocLoop nr { p with bitmap := p.bitmap.setBit bit } (qids ++ [u16 (p.first + bit)])

/-- `snvm_user_qid_alloc_locked`: `nr` ids, or none if the pool is too full. -/
def alloc (p : UserQidPool) (nr : Nat) : UserQidPool × Option (List Nat) := allocLoop nr p []

/-- `snvm_user_qid_free_locked`. -/
def free (p : UserQidPool) (qid : Nat) : UserQidPool :=
  if qid < p.first ∨ p.last < qid then p
  else { p with bitmap := p.bitmap.clearBit (qid - p.first) }

def freeAll (p : UserQidPool) (qids : List Nat) : UserQidPool := qids.foldl free p

end UserQidPool

/-- Delete a queue pair on the controller. -/
def deletePair (qid : Nat) : List AdminCmd := [.deleteSq qid, .deleteCq qid]

/-- `destroy_qgroup_locked`, without the maps: every live slot from the last to
    the first is deleted, if the device is live, and its id freed. -/
def destroyQgroup (g : QGroup) (pool : Option UserQidPool) (live : Bool) :
    Option UserQidPool × List AdminCmd :=
  (List.range nvmMaxQueuesPerGroup).reverse.foldl
    (fun acc i =>
      let uq := g.queues i
      if uq.alive then
        (acc.1.map (fun p => p.free uq.qid), acc.2 ++ if live then deletePair uq.qid else [])
      else acc)
    (pool, [])

/-- What an ioctl returns: a number, the id and size of a new group, or the
    queues made, with the offsets of their doorbells. -/
inductive Reply where
  | ret (rc : Int)
  | group (groupId maxQueues : Nat)
  | queues (out : List (Nat × Nat × Nat))
  deriving DecidableEq, Repr

/-- The state after an operation, what it returns, and the commands it sent. -/
structure Result where
  state : State
  reply : Reply
  cmds : List AdminCmd

variable (s : State)

/-- An operation that fails before it does anything. -/
def State.refuse (rc : Int) : Result := ⟨s, .ret rc, []⟩

/-- Unlink a group and destroy it, with its maps. -/
def State.dropQgroup (own : Owner) (g : QGroup) : State × List AdminCmd :=
  let d := destroyQgroup g s.pool s.ndev.isSome
  let s₁ := s.updateOwner own.fd (fun o =>
    { o with
      groups := o.groups.eraseP (fun x => x.groupId == g.groupId)
      nrGroups := o.nrGroups - 1 })
  ({ s₁ with
     pool := d.1
     maps := s.maps.filter (fun m => m.link ≠ .group own.fd g.groupId) }, d.2)

/-- What the calls of `NVM_CREATE_QUEUE_GROUP` return; ids are at least 1. -/
structure CreateGroupEnv where
  copyIn : Bool
  kzallocOk : Bool
  ida : Except Int Nat
  copyOut : Bool

/-- `NVM_CREATE_QUEUE_GROUP`. -/
def nvmCreateQueueGroup (fd flags : Nat) (reserved : List Nat) (env : CreateGroupEnv) : Result :=
  match s.findOwner fd with
  | none => s.refuse enodev
  | some own =>
    if ¬ env.copyIn then s.refuse efault
    else if flags ≠ 0 then s.refuse einval
    else if reserved.any (· ≠ 0) then s.refuse einval
    else if nvmMaxGroupsPerFd ≤ own.nrGroups then s.refuse ebusy
    else if ¬ env.kzallocOk then s.refuse enomem
    else
      match env.ida with
      | .error e => s.refuse e
      | .ok newId =>
        let g : QGroup := ⟨newId, nvmMaxQueuesPerGroup, fun _ => default, 0⟩
        let s₁ := s.updateOwner fd (fun o =>
          { o with groups := o.groups ++ [g], nrGroups := o.nrGroups + 1 })
        if env.copyOut then ⟨s₁, .group g.groupId g.maxQueues, []⟩
        else
          -- The group was the last of the list and has no maps; it is
          -- unlinked again.
          let d := destroyQgroup g s.pool s.ndev.isSome
          ⟨{ s with pool := d.1 }, .ret efault, d.2⟩

/-- `NVM_DESTROY_QUEUE_GROUP`. -/
def nvmDestroyQueueGroup (fd groupId : Nat) (copyIn : Bool) : Result :=
  match s.findOwner fd with
  | none => s.refuse enodev
  | some own =>
    if ¬ copyIn then s.refuse efault
    else if groupId = 0 then s.refuse einval
    else
      match own.findQgroup groupId with
      | none => s.refuse enoent
      | some g =>
        let d := s.dropQgroup own g
        ⟨d.1, .ret 0, d.2⟩

/-- One pair of ring addresses of `NVM_ADD_USER_QUEUE`. -/
structure QueuePair where
  sqVaddr : Nat
  cqVaddr : Nat
  deriving DecidableEq, Repr

/-- `struct nvm_ioctl_add_user_queue`; `nr_pairs` is the number of pairs. -/
structure AddReq where
  groupId : Nat
  flags : Nat
  reserved : List Nat
  pairs : List QueuePair
  deriving DecidableEq, Repr

/-- What the calls of `NVM_ADD_USER_QUEUE` return; the controller's answers are
    given by the number of the pair. -/
structure AddEnv where
  kzallocOk : Bool
  copyIn : Bool
  kcallocOk : Bool
  cqRet : Nat → Int
  sqRet : Nat → Int
  copyOut : Bool

/-- The check of the pairs against zeros and against those before them. -/
def pairsOk : List QueuePair → List QueuePair → Bool
  | _, [] => true
  | seen, pr :: prs =>
    pr.sqVaddr ≠ 0 && pr.cqVaddr ≠ 0 && pr.sqVaddr ≠ pr.cqVaddr &&
      seen.all (fun old => pr.sqVaddr ≠ old.sqVaddr && pr.cqVaddr ≠ old.cqVaddr) &&
        pairsOk (seen ++ [pr]) prs

/-- The search for the two rings of a pair among the maps of its group. It goes
    on until it has both, so a later match replaces an earlier one. -/
def findRings (pr : QueuePair) : Option MapDesc → Option MapDesc → List MapDesc →
    Option (MapDesc × MapDesc)
  | some sq, some cq, _ => some (sq, cq)
  | _, _, [] => none
  | sq, cq, m :: ms =>
    if m.kind = .data then findRings pr sq cq ms
    else
      findRings pr
        (if m.vaddr = pageOf m.pageSize pr.sqVaddr ∧
          (m.kind = .unspecified ∨ m.kind = .ringSq) then some m else sq)
        (if m.vaddr = pageOf m.pageSize pr.cqVaddr ∧
          (m.kind = .unspecified ∨ m.kind = .ringCq) then some m else cq) ms

/-- How the loop that makes the queues went: the commands sent, the ids of the
    pairs made, and what stopped it. -/
structure Creation where
  cmds : List AdminCmd
  created : List Nat
  failed : Option Int

/-- The size a queue is made with, as a 16-bit field of the command. -/
def qsize (ndev : NvmeDev) : Nat := u16 (ndev.qDepth - 1)

/-- The loop that makes the queues, a completion queue before its submission
    queue. -/
def createPairs (ndev : NvmeDev) (env : AddEnv) :
    Nat → List (Nat × MapDesc × MapDesc) → Creation → Creation
  | _, [], c => c
  | i, (qid, sq, cq) :: rest, c =>
    let cmds₁ := c.cmds ++ [.createCq qid cq.addr (qsize ndev)]
    if env.cqRet i ≠ 0 then ⟨cmds₁, c.created, some (env.cqRet i)⟩
    else
      let cmds₂ := cmds₁ ++ [.createSq qid sq.addr (qsize ndev)]
      -- The pairs before this one are taken back in `addPairs`.
      if env.sqRet i ≠ 0 then ⟨cmds₂ ++ [.deleteCq qid], c.created, some (env.sqRet i)⟩
      else createPairs ndev env (i + 1) rest ⟨cmds₂, c.created ++ [qid], none⟩

/-- Write slots into the array, from an index on. -/
def writeSlots (queues : Nat → UserQueue) (start : Nat) : List UserQueue → Nat → UserQueue
  | [] => queues
  | uq :: uqs => writeSlots (Function.update queues start uq) (start + 1) uqs

/-- The slots of a batch. -/
def slotsOf (qids : List Nat) (pairs : List QueuePair) (alive : Bool) : List UserQueue :=
  (qids.zip pairs).map (fun x => ⟨x.1, alive, x.2.sqVaddr, x.2.cqVaddr⟩)

def nvmeRegDbs : Nat := 4096

/-- The offsets of a queue's doorbells. -/
def doorbells (ndev : NvmeDev) (qid : Nat) : Nat × Nat × Nat :=
  (qid, u32 (nvmeRegDbs + qid * 2 * ndev.dbStride * 4),
    u32 (nvmeRegDbs + (qid * 2 + 1) * ndev.dbStride * 4))

/-- The part of `NVM_ADD_USER_QUEUE` after its ids are allocated: make the
    queues, and commit them to the group or take everything back. -/
def addPairs (own : Owner) (g : QGroup) (ndev : NvmeDev) (p : UserQidPool)
    (req : AddReq) (qids : List Nat) (rings : List (MapDesc × MapDesc)) (env : AddEnv) : Result :=
  let c := createPairs ndev env 0 (qids.zip rings) ⟨[], [], none⟩
  let putGroup := fun (g' : QGroup) => s.updateOwner own.fd (fun o =>
    { o with groups := updateFirst (fun x => x.groupId == g.groupId) (fun _ => g') o.groups })
  match c.failed with
  | some rc =>
    ⟨{ s with pool := some (p.freeAll qids) }, .ret rc,
      c.cmds ++ c.created.reverse.flatMap deletePair⟩
  | none =>
    if env.copyOut then
      ⟨{ putGroup
          { g with
            queues := writeSlots g.queues g.curQueues (slotsOf qids req.pairs true)
            curQueues := g.curQueues + qids.length } with pool := some p },
        .queues (qids.map (doorbells ndev)), c.cmds⟩
    else
      -- The slots were written and are dead again; the counter is back.
      ⟨{ putGroup
          { g with
            queues := writeSlots g.queues g.curQueues (slotsOf qids req.pairs false) } with
        pool := some (p.freeAll qids) },
        .ret efault, c.cmds ++ qids.flatMap deletePair⟩

/-- `NVM_ADD_USER_QUEUE`. -/
def nvmAddUserQueue (fd : Nat) (req : AddReq) (env : AddEnv) : Result :=
  match s.findOwner fd with
  | none => s.refuse enodev
  | some own =>
    if ¬ env.kzallocOk then s.refuse enomem
    else if ¬ env.copyIn then s.refuse efault
    else if req.flags ≠ 0 then s.refuse einval
    else if req.reserved.any (· ≠ 0) then s.refuse einval
    else if req.pairs.length = 0 ∨ nvmMaxQueuesPerGroup < req.pairs.length then s.refuse einval
    else if ¬ pairsOk [] req.pairs then s.refuse einval
    else
      match s.ndev with
      | none => s.refuse enodev
      | some ndev =>
        match own.findQgroup req.groupId with
        | none => s.refuse enoent
        | some g =>
          if g.maxQueues < g.curQueues + req.pairs.length then s.refuse ebusy
          else
            let maps := s.maps.filter (fun m => m.link = .group fd req.groupId)
            match req.pairs.mapM (fun pr => findRings pr none none maps) with
            | none => s.refuse enoent
            | some rings =>
              match userQidPoolInit s.pool ndev env.kcallocOk with
              | .error e => s.refuse e
              | .ok p =>
                match p.alloc req.pairs.length with
                | (p', none) => { s with pool := some p' }.refuse eagain
                | (p', some qids) => addPairs s own g ndev p' req qids rings env

/-- `snvm_dev_open`, with a descriptor that is not in use. -/
def snvmDevOpen (fd task : Nat) (kzallocOk : Bool) : Result :=
  if (s.findOwner fd).isSome then s.refuse ebusy
  else if ¬ kzallocOk then s.refuse enomem
  else ⟨{ s with owners := s.owners ++ [⟨fd, task, [], 0⟩] }, .ret 0, []⟩

/-- The checked subtraction of `snvm_dev_release`. -/
def checkedSub (count taken : Nat) : Nat := if count < taken then 0 else count - taken

/-- `snvm_dev_release`: the groups are destroyed in order, then the maps go,
    those of the descriptor and those of its task that have no group. -/
def snvmDevRelease (fd : Nat) : Result :=
  match s.findOwner fd with
  | none => s.refuse 0
  | some own =>
    let d := own.groups.foldl
      (fun acc g =>
        let d := destroyQgroup g acc.1 s.ndev.isSome
        (d.1, acc.2 ++ d.2))
      (s.pool, [])
    let maps₁ := s.maps.filter (fun m =>
      own.groups.all (fun g => m.link ≠ .group fd g.groupId) && m.link ≠ .data fd)
    let rings := maps₁.filter (fun m =>
      (m.list = .host ∨ m.list = .deviceQueue) ∧ m.owner = own.task ∧ 0 ≤ m.ioqIdx)
    let maps₂ := maps₁.filter (fun m => ¬ (m.owner = own.task ∧ m.groupId = 0))
    ⟨{ s with
       pool := d.1
       owners := s.owners.eraseP (fun o => o.fd == fd)
       maps := maps₂
       cqNum := checkedSub s.cqNum (rings.countP (fun m => m.isCq ≠ 0))
       ioqMapNum := checkedSub s.ioqMapNum rings.length }, .ret 0, d.2⟩

end Geminifs.Snvme
