import Geminifs.Theory.Snvme.Groups
import Geminifs.Theory.Snvme.Pool

/-!
# What Operations Do to Queues

One inductive type says everything an operation can do to the pool, the groups
and the device, and which commands it sends for the groups' queues. Registered
memory and the queue budget change freely beside that. `exec_effect` puts every
operation under one of its cases, so an argument about the pool looks at nine
cases, not at the branches of the ioctls.

## Main definitions

* `Op.addsQueues`, `Op.dropsQueues`: The operations that send commands.
* `Op.onDevice`: The operations that change the device.
* `Framed`: The pool, the groups and the device are as they were.
* `Allocation`: What a batch of queues has when its ids are allocated.
* `Effect`: What an operation does to the pool and the groups.
* `MapDesc.Placed`: A map's kind, group and link suit each other.
* `FreshMap`: A map as an ioctl of an open file makes it.
* `MapOutcome`: How registering memory ends.
* `AddOutcome`: How far an addition of queues gets.

## Theorems

* `mapMemory_outcome`, `nvmMapDeviceQueueMemory_outcome`: Every registration ends so.
* `nvmAddUserQueue_outcome`: Every addition of queues ends in one of three ways.
* `exec_effect`: Every operation has one of these effects.
* `ndev_effect`: Only the operations on the device change it.
-/

namespace Geminifs.Snvme

/-- The operation that takes ids out of the pool. -/
def Op.addsQueues : Op → Bool
  | .addUserQueue .. => true
  | _ => false

/-- The operations that give ids back. -/
def Op.dropsQueues : Op → Bool
  | .destroyQueueGroup .. => true
  | .devRelease .. => true
  | _ => false

/-- The operations that begin, renew or end a binding. -/
def Op.onDevice : Op → Bool
  | .deviceBind .. => true
  | .deviceReset .. => true
  | .deviceUnbind => true
  | _ => false

/-- The pool, the groups and the device are as they were. -/
structure Framed (s s' : State) : Prop where
  pool : s'.pool = s.pool
  owners : s'.owners = s.owners
  ndev : s'.ndev = s.ndev

/-- `NVM_ADD_USER_QUEUE` past its checks: the batch goes to a group with room
    for it, and its ids have been allocated. -/
structure Allocation (s : State) (own : Owner) (g : QGroup) (pairs : List QueuePair)
    (ndev : NvmeDev) (p p' : UserQidPool) (qids : List Nat) : Prop where
  owner : s.findOwner own.fd = some own
  group : own.groups.find? (fun x => x.groupId == g.groupId) = some g
  dev : s.ndev = some ndev
  room : g.curQueues + pairs.length ≤ g.maxQueues
  init : ∃ ok, userQidPoolInit s.pool ndev ok = .ok p
  alloc : p.alloc pairs.length = (p', some qids)

/-- Put a group in the place of the one with its id. -/
def Owner.putGroup (g : QGroup) (o : Owner) : Owner :=
  { o with groups := updateFirst (fun x => x.groupId == g.groupId) (fun _ => g) o.groups }

/-- A descriptor with a new group. -/
def Owner.addGroup (groupId : Nat) (o : Owner) : Owner :=
  { o with
    groups := o.groups ++ [⟨groupId, nvmMaxQueuesPerGroup, fun _ => default, 0⟩]
    nrGroups := o.nrGroups + 1 }

/-- A descriptor without one of its groups. -/
def Owner.dropGroup (groupId : Nat) (o : Owner) : Owner :=
  { o with
    groups := o.groups.eraseP (fun x => x.groupId == groupId)
    nrGroups := o.nrGroups - 1 }

/-- What an operation does to the pool and the groups, and what it sends for
    their queues. -/
inductive Effect (s : State) (op : Op) : Result → Prop where
  | silent {r : Result} (hframe : Framed s r.state) (hcmds : r.cmds = []) : Effect s op r
  | rebound {r : Result} (hop : op.onDevice = true) (hpool : r.state.pool = s.pool)
      (howners : r.state.owners = s.owners) (hcmds : r.cmds = []) : Effect s op r
  | opened {r : Result} (fd task : Nat) (hndev : r.state.ndev = s.ndev)
      (hpool : r.state.pool = s.pool)
      (howners : r.state.owners = s.owners ++ [⟨fd, task, [], 0⟩]) (hcmds : r.cmds = []) :
      Effect s op r
  | grouped {r : Result} (own : Owner) (groupId : Nat) (hown : s.findOwner own.fd = some own)
      (hndev : r.state.ndev = s.ndev) (hpool : r.state.pool = s.pool)
      (howners : r.state.owners = (s.updateOwner own.fd (fun o =>
        { o with
          groups := o.groups ++ [⟨groupId, nvmMaxQueuesPerGroup, fun _ => default, 0⟩]
          nrGroups := o.nrGroups + 1 })).owners)
      (hcmds : r.cmds = []) : Effect s op r
  | dropped {r : Result} (hop : op.dropsQueues = true) (own : Owner) (g : QGroup)
      (hown : s.findOwner own.fd = some own)
      (hgroup : own.groups.find? (fun x => x.groupId == g.groupId) = some g)
      (hndev : r.state.ndev = s.ndev)
      (hpool : r.state.pool = s.pool.map (fun p => p.freeAll g.qids.reverse))
      (howners : r.state.owners = (s.updateOwner own.fd (fun o =>
        { o with
          groups := o.groups.eraseP (fun x => x.groupId == g.groupId)
          nrGroups := o.nrGroups - 1 })).owners)
      (hcmds : r.cmds = if s.ndev.isSome then g.qids.reverse.flatMap deletePair else []) :
      Effect s op r
  | released {r : Result} (hop : op.dropsQueues = true) (own : Owner)
      (hown : s.findOwner own.fd = some own)
      (hndev : r.state.ndev = s.ndev)
      (hpool : r.state.pool =
        s.pool.map (fun p => p.freeAll (own.groups.flatMap (fun g => g.qids.reverse))))
      (howners : r.state.owners = s.owners.eraseP (fun o => o.fd == own.fd))
      (hcmds : r.cmds = if s.ndev.isSome then
        (own.groups.flatMap (fun g => g.qids.reverse)).flatMap deletePair else []) : Effect s op r
  | exhausted {r : Result} (hop : op.addsQueues = true) (ndev : NvmeDev) (p p' : UserQidPool)
      (nr : Nat)
      (hdev : s.ndev = some ndev) (hinit : ∃ ok, userQidPoolInit s.pool ndev ok = .ok p)
      (halloc : p.alloc nr = (p', none)) (hndev : r.state.ndev = s.ndev)
      (hpool : r.state.pool = some p')
      (howners : r.state.owners = s.owners) (hcmds : r.cmds = []) : Effect s op r
  | failed {r : Result} (hop : op.addsQueues = true) (own : Owner) (g : QGroup)
      (pairs : List QueuePair) (ndev : NvmeDev) (p p' : UserQidPool) (qids : List Nat)
      (h : Allocation s own g pairs ndev p p' qids)
      (hndev : r.state.ndev = s.ndev) (hpool : r.state.pool = some (p'.freeAll qids))
      (howners : r.state.owners = s.owners ∨ r.state.owners = (s.updateOwner own.fd (Owner.putGroup
          { g with queues := writeSlots g.queues g.curQueues (slotsOf qids pairs false) })).owners)
      (hcmds : ∀ cmd ∈ r.cmds, cmd.qid ∈ qids) : Effect s op r
  | committed {r : Result} (hop : op.addsQueues = true) (own : Owner) (g : QGroup)
      (pairs : List QueuePair) (ndev : NvmeDev) (p p' : UserQidPool) (qids : List Nat)
      (h : Allocation s own g pairs ndev p p' qids)
      (hndev : r.state.ndev = s.ndev) (hpool : r.state.pool = some p')
      (howners : r.state.owners = (s.updateOwner own.fd (Owner.putGroup
        { g with
          queues := writeSlots g.queues g.curQueues (slotsOf qids pairs true)
          curQueues := g.curQueues + qids.length })).owners)
      (hcmds : ∀ cmd ∈ r.cmds, cmd.qid ∈ qids) : Effect s op r

variable {op : Op} (s : State) (env : MapEnv) (fd task : Nat) (req : MapReq)

theorem Framed.refl : Framed s s := ⟨rfl, rfl, rfl⟩

theorem effect_refuse (op : Op) (rc : Int) : Effect s op (s.refuse rc) :=
  .silent (.refl s) rfl

theorem effect_quiet {s : State} {r : State × Int} (h : Framed s r.1) :
    Effect s op (quiet r) := .silent h rfl

theorem findOwner_fd {s : State} {fd : Nat} {own : Owner} (h : s.findOwner fd = some own) :
    own.fd = fd := by
  have hfd := List.find?_some h
  exact beq_iff_eq.mp hfd

theorem findQgroup_eq_some {o : Owner} {groupId : Nat} {g : QGroup}
    (h : o.findQgroup groupId = some g) :
    g.groupId = groupId ∧ o.groups.find? (fun x => x.groupId == g.groupId) = some g := by
  rw [Owner.findQgroup] at h
  split_ifs at h
  have hid := List.find?_some h
  rw [beq_iff_eq] at hid
  exact ⟨hid, by rw [hid]; exact h⟩

/-! ### Maps and the budget -/

/-- A map of the old protocol has no group and no kind, one that is linked to a
    group has its id and is no data map, and one that is linked to a descriptor
    is a data map; a link is to the descriptor the map was registered through. -/
def MapDesc.Placed (fd : Nat) (m : MapDesc) : Prop :=
  match m.link with
  | .none => m.groupId = 0 ∧ m.kind = .unspecified
  | .group f groupId => f = fd ∧ m.groupId = groupId ∧ groupId ≠ 0 ∧ m.kind ≠ .data
  | .data f => f = fd ∧ m.groupId = 0 ∧ m.kind = .data

/-- A map as an ioctl of an open file makes it. -/
structure FreshMap (own : Owner) (m : MapDesc) : Prop where
  placed : m.Placed own.fd
  live : ∀ f groupId, m.link = .group f groupId → ∃ g ∈ own.groups, g.groupId = groupId

/-- How registering memory through a descriptor ends: with nothing changed, or with
    one more map, which is a ring of the old protocol that the budget has room for
    and that is counted, or is none. -/
inductive MapOutcome (s : State) (fd : Nat) : State → Prop where
  | same : MapOutcome s fd s
  | plain (own : Owner) (m : MapDesc) (hown : s.findOwner fd = some own) (hm : FreshMap own m)
      (hidx : m.ioqIdx < 0) : MapOutcome s fd { s with maps := s.maps ++ [m] }
  | ring (m : MapDesc) (isCq : Int) (hcq : m.isCq = isCq) (hm : ∀ own, FreshMap own m)
      (hlink : m.link = .none) (hlist : m.list ≠ .device) (hidx : 0 ≤ m.ioqIdx)
      (hroom : u32 (s.ioqMapNum + 1) ≤ s.ioqNum) :
      MapOutcome s fd { s.countRing isCq with maps := (s.countRing isCq).maps ++ [m] }

theorem MapOutcome.framed {s s' : State} {fd : Nat} (h : MapOutcome s fd s') : Framed s s' := by
  cases h <;> exact ⟨rfl, rfl, rfl⟩

theorem uncountRing_framed (m : MapDesc) : Framed s (s.uncountRing m) := by
  rw [State.uncountRing]
  split
  · exact ⟨rfl, rfl, rfl⟩
  · exact .refl s

theorem finishMap_outcome {s s' : State} {fd : Nat} {m : MapDesc}
    (h : MapOutcome s fd { s' with maps := s'.maps ++ [m] }) :
    MapOutcome s fd (s.finishMap s' m env).1 := by
  rw [State.finishMap]
  split
  · exact h
  · exact .same

/-- A map of the old protocol. -/
theorem freshMap_of_none {m : MapDesc} (hlink : m.link = .none) (hgroup : m.groupId = 0)
    (hkind : m.kind = .unspecified) (own : Owner) : FreshMap own m := by
  refine ⟨?_, fun f _ h => ?_⟩
  · rw [MapDesc.Placed, hlink]
    exact ⟨hgroup, hkind⟩
  · rw [hlink] at h
    cases h

/-- Registering memory, branch by branch. -/
theorem mapMemory_outcome {list : MapList} (page : Nat) {counts : Bool}
    (hlist : counts = true → list ≠ .device) (s : State) (fd task : Nat) (req : MapReq)
    (env : MapEnv) : MapOutcome s fd (mapMemory list page counts s fd task req env).1 := by
  unfold mapMemory
  iterate 2
    split
    · exact .same
  cases hreqKind : req.mapKind with
  | none => exact .same
  | some kind =>
    dsimp only
    split
    · exact .same
    next hring =>
      cases env.pin with
      | error => exact .same
      | ok =>
        cases hown : s.findOwner fd with
        | none => exact .same
        | some own =>
          obtain rfl := findOwner_fd hown
          have hnone : (-1 : Int) < 0 := by decide
          dsimp only
          split
          next hkind =>
            -- A data map of the descriptor.
            refine finishMap_outcome env (.plain own _ hown ?_ hnone)
            exact ⟨⟨rfl, rfl, hkind⟩, nofun⟩
          next hkind =>
            split
            next hgid =>
              -- A map of a group, whatever else it is.
              cases hgroup : own.findQgroup req.groupId with
              | none => exact .same
              | some g =>
                have hg := findQgroup_eq_some hgroup
                refine finishMap_outcome env (.plain own _ hown ?_ hnone)
                refine ⟨⟨rfl, rfl, hgid, hkind⟩, fun f groupId h => ?_⟩
                have hid : req.groupId = groupId := (MapLink.group.inj h).2
                exact ⟨g, List.mem_of_find?_eq_some hg.2, by rw [hg.1, hid]⟩
            next hgid =>
              -- What is left is of no kind: rings have a group, and data was first.
              have hplain : kind = .unspecified := by
                cases kind with
                | unspecified => rfl
                | ringSq => exact absurd ⟨.inl rfl, not_not.mp hgid⟩ hring
                | ringCq => exact absurd ⟨.inr rfl, not_not.mp hgid⟩ hring
                | data => exact absurd rfl hkind
              split
              next hcounts =>
                split
                · exact .same
                next hroom =>
                  exact finishMap_outcome env (.ring _ _ rfl (freshMap_of_none rfl rfl hplain) rfl
                    (hlist hcounts.1) hcounts.2 (Nat.le_of_not_lt hroom))
              · exact finishMap_outcome env
                  (.plain own _ hown (freshMap_of_none rfl rfl hplain own) hnone)

theorem nvmMapHostMemory_outcome (env : MapEnv) :
    MapOutcome s fd (nvmMapHostMemory s fd task req env).1 :=
  mapMemory_outcome pageSize (fun _ => by decide) s fd task req env

theorem nvmMapDeviceMemory_outcome (env : MapEnv) :
    MapOutcome s fd (nvmMapDeviceMemory s fd task req env).1 :=
  mapMemory_outcome gpuPageSize (fun h => absurd h (by decide)) s fd task req env

theorem nvmMapDeviceQueueMemory_outcome (env : MapEnv) :
    MapOutcome s fd (nvmMapDeviceQueueMemory s task req env).1 := by
  unfold nvmMapDeviceQueueMemory
  split
  · exact .same
  split
  · exact .same
  next hidx =>
    cases env.pin with
    | error => exact .same
    | ok =>
      dsimp only
      split
      · exact .same
      next hroom =>
        have hlist : MapList.deviceQueue ≠ .device := by decide
        exact finishMap_outcome env (.ring _ _ rfl (freshMap_of_none rfl rfl rfl) rfl hlist
          (Int.not_lt.mp hidx) (Nat.le_of_not_lt hroom))

theorem unmapMemory_framed (list : MapList) (counts : Bool) (s : State) (task vaddr : Nat)
    (copyIn : Bool) : Framed s (unmapMemory list counts s task vaddr copyIn).1 := by
  unfold unmapMemory
  split
  · exact .refl s
  split
  · exact .refl s
  next m _ =>
    cases counts with
    | true =>
      have h := uncountRing_framed s m
      exact ⟨h.pool, h.owners, h.ndev⟩
    | false => exact ⟨rfl, rfl, rfl⟩

theorem nvmSetIoqNum_framed (req : SetupReq) (copyIn : Bool) :
    Framed s (nvmSetIoqNum s req copyIn).1 := by
  unfold nvmSetIoqNum
  iterate 7
    split
    · exact .refl s
  exact ⟨rfl, rfl, rfl⟩

theorem nvmSetKernelIoqCap_framed (cap : Nat) (copyIn : Bool) :
    Framed s (nvmSetKernelIoqCap s cap copyIn).1 := by
  rw [nvmSetKernelIoqCap]
  split <;> exact ⟨rfl, rfl, rfl⟩

theorem nvmSetShareReg_framed (ioqIdx : Int) (copyIn : Bool) :
    Framed s (nvmSetShareReg s ioqIdx copyIn).1 := by
  rw [nvmSetShareReg]
  split <;> exact ⟨rfl, rfl, rfl⟩

/-! ### Groups -/

theorem nvmCreateQueueGroup_effect (flags : Nat) (reserved : List Nat) (env : CreateGroupEnv)
    (op : Op) : Effect s op (nvmCreateQueueGroup s fd flags reserved env) := by
  unfold nvmCreateQueueGroup
  cases hown : s.findOwner fd with
  | none => exact effect_refuse s _ _
  | some own =>
    dsimp only
    iterate 5
      split
      · exact effect_refuse s _ _
    cases env.ida with
    | error => exact effect_refuse s _ _
    | ok newId =>
      dsimp only
      have hfd := findOwner_fd hown
      subst hfd
      split
      · exact .grouped own newId hown rfl rfl rfl rfl
      · -- A new group has no live slot, so there is nothing to free.
        refine .silent ⟨?_, rfl, rfl⟩ ?_
        · cases s.pool <;> rfl
        · cases s.ndev <;> rfl

theorem nvmDestroyQueueGroup_effect (groupId : Nat) (copyIn : Bool) (hop : op.dropsQueues = true) :
    Effect s op (nvmDestroyQueueGroup s fd groupId copyIn) := by
  unfold nvmDestroyQueueGroup
  cases hown : s.findOwner fd with
  | none => exact effect_refuse s _ _
  | some own =>
    dsimp only
    iterate 2
      split
      · exact effect_refuse s _ _
    cases hgroup : own.findQgroup groupId with
    | none => exact effect_refuse s _ _
    | some g =>
      have hfd := findOwner_fd hown
      subst hfd
      -- What is freed and what is sent are two sides of one fold.
      refine .dropped hop own g hown (findQgroup_eq_some hgroup).2 rfl ?_ rfl ?_
      · exact congrArg Prod.fst (destroyQgroup_eq g s.pool s.ndev.isSome)
      · exact congrArg Prod.snd (destroyQgroup_eq g s.pool s.ndev.isSome)

theorem snvmDevOpen_effect (kzallocOk : Bool) (op : Op) :
    Effect s op (snvmDevOpen s fd task kzallocOk) := by
  unfold snvmDevOpen
  split
  · exact effect_refuse s _ _
  split
  · exact effect_refuse s _ _
  · exact .opened fd task rfl rfl rfl rfl

theorem snvmDevRelease_effect (hop : op.dropsQueues = true) :
    Effect s op (snvmDevRelease s fd) := by
  unfold snvmDevRelease
  cases hown : s.findOwner fd with
  | none => exact effect_refuse s _ _
  | some own =>
    have hfd := findOwner_fd hown
    subst hfd
    have hgroups := destroyGroups_eq s.ndev.isSome own.groups s.pool []
    refine .released hop own hown rfl ?_ rfl ?_
    · exact congrArg Prod.fst hgroups
    · exact congrArg Prod.snd hgroups

/-! ### Adding queues -/

/-- The loop that makes the queues names only ids of its batch, in what it sends
    and in what it reports as made. -/
theorem createPairs_qids (ndev : NvmeDev) (env : AddEnv) (qids : List Nat)
    (items : List (Nat × MapDesc × MapDesc)) (i : Nat) (c : Creation)
    (hitems : ∀ x ∈ items, x.1 ∈ qids)
    (hc : (∀ cmd ∈ c.cmds, cmd.qid ∈ qids) ∧ ∀ q ∈ c.created, q ∈ qids) :
    (∀ cmd ∈ (createPairs ndev env i items c).cmds, cmd.qid ∈ qids) ∧
      ∀ q ∈ (createPairs ndev env i items c).created, q ∈ qids := by
  induction items generalizing i c with
  | nil => exact hc
  | cons x _ ih =>
    rcases x with ⟨qid, _, _⟩
    have hqid : qid ∈ qids := hitems _ List.mem_cons_self
    -- One more command for this pair keeps to the batch.
    have hmore : ∀ {cmds : List AdminCmd} {cmd' : AdminCmd}, cmd'.qid = qid →
        (∀ cmd ∈ cmds, cmd.qid ∈ qids) → ∀ cmd ∈ cmds ++ [cmd'], cmd.qid ∈ qids := by
      intro _ _ heq hcmds
      exact List.forall_mem_append.mpr ⟨hcmds, List.forall_mem_singleton.mpr (heq ▸ hqid)⟩
    rw [createPairs]
    split
    · exact ⟨hmore rfl hc.1, hc.2⟩
    split
    · exact ⟨hmore rfl (hmore rfl (hmore rfl hc.1)), hc.2⟩
    · exact ih _ _ (List.forall_mem_cons.mp hitems).2 ⟨hmore rfl (hmore rfl hc.1),
        List.forall_mem_append.mpr ⟨hc.2, List.forall_mem_singleton.mpr hqid⟩⟩

theorem deletePair_qids {qids : List Nat} {cmd : AdminCmd} (h : cmd ∈ qids.flatMap deletePair) :
    cmd.qid ∈ qids := by
  rcases List.mem_flatMap.mp h with ⟨q, hq, hcmd⟩
  have hpair : ∀ x ∈ deletePair q, x.qid ∈ qids :=
    List.forall_mem_cons.mpr ⟨hq, List.forall_mem_singleton.mpr hq⟩
  exact hpair cmd hcmd

theorem addPairs_effect {s : State} {own : Owner} {g : QGroup} {req : AddReq} {ndev : NvmeDev}
    {p p' : UserQidPool} {qids : List Nat} (h : Allocation s own g req.pairs ndev p p' qids)
    (rings : List (MapDesc × MapDesc)) (env : AddEnv) (hop : op.addsQueues = true) :
    Effect s op (addPairs s own g ndev p' req qids rings env) := by
  have hmade := createPairs_qids ndev env qids (qids.zip rings) 0 ⟨[], [], none⟩
    (fun x hx => (List.of_mem_zip hx).1)
    ⟨nofun, nofun⟩
  unfold addPairs
  dsimp only
  split
  · -- A command failed: the pairs made are deleted.
    refine .failed hop own g req.pairs ndev p p' qids h rfl rfl (.inl rfl) (fun cmd hcmd => ?_)
    rcases List.mem_append.mp hcmd with hcmd | hcmd
    · exact hmade.1 cmd hcmd
    · exact hmade.2 _ (List.mem_reverse.mp (deletePair_qids hcmd))
  split
  · exact .committed hop own g req.pairs ndev p p' qids h rfl rfl rfl hmade.1
  · refine .failed hop own g req.pairs ndev p p' qids h rfl rfl (.inr rfl) (fun cmd hcmd => ?_)
    rcases List.mem_append.mp hcmd with hcmd | hcmd
    · exact hmade.1 cmd hcmd
    · exact deletePair_qids hcmd

/-- How `NVM_ADD_USER_QUEUE` goes: it is refused, the pool is exhausted, or it
    reaches the controller. -/
inductive AddOutcome (s : State) (fd : Nat) (req : AddReq) (env : AddEnv) : Result → Prop where
  | refused {r : Result} (rc : Int) (hrc : rc < 0) (heq : r = s.refuse rc) :
      AddOutcome s fd req env r
  | exhausted {r : Result} (ndev : NvmeDev) (p p' : UserQidPool) (nr : Nat)
      (hdev : s.ndev = some ndev) (hinit : ∃ ok, userQidPoolInit s.pool ndev ok = .ok p)
      (halloc : p.alloc nr = (p', none)) (heq : r = { s with pool := some p' }.refuse eagain) :
      AddOutcome s fd req env r
  | reached {r : Result} (own : Owner) (g : QGroup) (ndev : NvmeDev) (p p' : UserQidPool)
      (qids : List Nat) (rings : List (MapDesc × MapDesc)) (hfd : own.fd = fd)
      (hgroup : own.findQgroup req.groupId = some g)
      (hrings : req.pairs.mapM (fun pr => findRings pr none none
        (s.maps.filter (fun m => m.link = .group fd req.groupId))) = some rings)
      (h : Allocation s own g req.pairs ndev p p' qids)
      (heq : r = addPairs s own g ndev p' req qids rings env) : AddOutcome s fd req env r

theorem userQidPoolInit_error {pool : Option UserQidPool} {ndev : NvmeDev} {ok : Bool} {e : Int}
    (h : userQidPoolInit pool ndev ok = .error e) : e < 0 := by
  unfold userQidPoolInit at h
  cases pool with
  | some => cases h
  | none =>
    dsimp only at h
    iterate 4
      split at h
      · rw [← Except.error.inj h]
        decide
    cases h

theorem nvmAddUserQueue_outcome (req : AddReq) (env : AddEnv) :
    AddOutcome s fd req env (nvmAddUserQueue s fd req env) := by
  unfold nvmAddUserQueue
  cases hown : s.findOwner fd with
  | none => exact .refused _ (by decide) rfl
  | some own =>
    dsimp only
    -- The checks of the request itself.
    iterate 6
      split
      · exact .refused _ (by decide) rfl
    cases hdev : s.ndev with
    | none => exact .refused _ (by decide) rfl
    | some ndev =>
      -- The group, its room and the rings are checked before any id is taken.
      cases hgroup : own.findQgroup req.groupId with
      | none => exact .refused _ (by decide) rfl
      | some g =>
        dsimp only
        split
        · exact .refused _ (by decide) rfl
        next hroom =>
          split
          · exact .refused _ (by decide) rfl
          next rings hrings =>
            split
            next e herror => exact .refused _ (userQidPoolInit_error herror) rfl
            next p hinit =>
              have hfd := findOwner_fd hown
              split
              -- The pool may have been made by this call, so it stays even if it runs out.
              next p' halloc =>
                exact .exhausted ndev p p' _ hdev ⟨_, hinit⟩ halloc (by rw [hdev])
              next p' qids halloc =>
                refine .reached own g ndev p p' qids rings hfd hgroup hrings
                  ⟨?_, (findQgroup_eq_some hgroup).2, hdev, by omega, ⟨_, hinit⟩, halloc⟩ rfl
                rw [hfd]
                exact hown

theorem nvmAddUserQueue_effect (req : AddReq) (env : AddEnv) (hop : op.addsQueues = true) :
    Effect s op (nvmAddUserQueue s fd req env) := by
  cases nvmAddUserQueue_outcome s fd req env with
  | refused _ _ heq =>
    rw [heq]
    exact effect_refuse s _ _
  | exhausted ndev p p' nr hdev hinit halloc heq =>
    rw [heq]
    exact .exhausted hop ndev p p' nr hdev hinit halloc rfl rfl rfl rfl
  | reached _ _ _ _ _ _ _ _ _ _ h heq =>
    rw [heq]
    exact addPairs_effect h _ _ hop

/-- Every operation has one of the effects. -/
theorem exec_effect (op : Op) : Effect s op (exec s op) := by
  cases op with
  | devOpen fd task ok => exact snvmDevOpen_effect s fd task ok _
  | devRelease fd => exact snvmDevRelease_effect s fd rfl
  | mapHost fd task req env =>
    exact effect_quiet (nvmMapHostMemory_outcome s fd task req env).framed
  | mapDevice fd task req env =>
    exact effect_quiet (nvmMapDeviceMemory_outcome s fd task req env).framed
  | mapDeviceQueue task req env =>
    exact effect_quiet (nvmMapDeviceQueueMemory_outcome s 0 task req env).framed
  | unmapHost task vaddr ok | unmapDevice task vaddr ok | unmapDeviceQueue task vaddr ok =>
    exact effect_quiet (unmapMemory_framed _ _ s task vaddr ok)
  | createQueueGroup fd flags reserved env =>
    exact nvmCreateQueueGroup_effect s fd flags reserved env _
  | destroyQueueGroup fd groupId ok => exact nvmDestroyQueueGroup_effect s fd groupId ok rfl
  | addUserQueue fd req env => exact nvmAddUserQueue_effect s fd req env rfl
  | setIoqNum req ok => exact effect_quiet (nvmSetIoqNum_framed s req ok)
  | setKernelIoqCap cap ok => exact effect_quiet (nvmSetKernelIoqCap_framed s cap ok)
  | setShareReg ioqIdx ok => exact effect_quiet (nvmSetShareReg_framed s ioqIdx ok)
  | clearIoqNum => exact .silent ⟨rfl, rfl, rfl⟩ rfl
  | deviceBind env =>
    -- The pool outlives the binding.
    have hframe : (snvmDeviceBind s env).1.pool = s.pool ∧
        (snvmDeviceBind s env).1.owners = s.owners := by
      rw [snvmDeviceBind]
      split <;> exact ⟨rfl, rfl⟩
    exact .rebound rfl hframe.1 hframe.2 rfl
  | deviceReset => exact .rebound rfl rfl rfl rfl
  | deviceUnbind =>
    have hframe : (snvmDeviceUnbind s).1.pool = s.pool ∧
        (snvmDeviceUnbind s).1.owners = s.owners := by
      unfold snvmDeviceUnbind
      split <;> exact ⟨rfl, rfl⟩
    exact .rebound rfl hframe.1 hframe.2 rfl

/-- Only the operations on the device change it. -/
theorem ndev_effect {s : State} {r : Result} (hop : op.onDevice = false) (he : Effect s op r) :
    r.state.ndev = s.ndev := by
  cases he with
  | silent hframe => exact hframe.ndev
  | rebound hdev =>
    rw [hop] at hdev
    exact absurd hdev Bool.false_ne_true
  | opened fd task hndev | grouped own groupId hown hndev | dropped _ own g hown hgroup hndev
  | released _ own hown hndev | exhausted _ ndev p p' nr hdev hinit halloc hndev
  | failed _ own g pairs ndev p p' qids h hndev | committed _ own g pairs ndev p p' qids h hndev =>
    exact hndev

end Geminifs.Snvme
