import Geminifs.Theory.Snvme.Cap
import Geminifs.Theory.Snvme.Slots

/-!
# Descriptors Apart

Two open files of a controller share its pool, the allocator of group ids and the list of
all maps. What one of them does with its groups is nonetheless not seen by the other: a
group is looked up in its own file only, a map is linked to a group of the file it was
registered through, and the ids that a batch gets are held by nobody.

What is left is the pool itself. It may be full with the other file's queues, or without
its having given them back; and it is there if the other file made it, while a file that
comes first has to find the memory for it.

## Main definitions

* `Call.onGroups`: The ioctls on groups, queues and maps.
* `Untouched`: What one descriptor has is as it was.
* `addChecks`: `NVM_ADD_USER_QUEUE` up to the pool.
* `Reply.Agrees`: Two calls succeed or fail alike.

## Theorems

* `untouched_step`, `untouched_run`: Other descriptors touch nothing.
* `nvmAddUserQueue_eq`: Adding queues is checks, the pool and a batch.
* `add_agrees`: What the pool can change about adding queues.
* `descriptors_apart`: Descriptors are apart but for the pool.
-/

namespace Geminifs.Snvme

open Runs

variable {s s' : State} {fd c other : Nat} {d : Driver} {ndev : NvmeDev}

/-- The ioctls that make and destroy groups, add queues and register maps. -/
def Call.onGroups : Call → Bool
  | .mapHost .. => true
  | .mapDevice .. => true
  | .mapDeviceQueue .. => true
  | .createQueueGroup .. => true
  | .destroyQueueGroup .. => true
  | .addUserQueue .. => true
  | _ => false

/-- The device is the same, a pool that was there is there, and one that is there now was
    there or could have been made, if there was memory for it. -/
structure PoolKept (s s' : State) : Prop where
  ndev : s'.ndev = s.ndev
  kept : s'.pool = none → s.pool = none
  made : ∀ dev, s.ndev = some dev → s'.pool ≠ none → ∃ p, userQidPoolInit s.pool dev true = .ok p

/-- What the descriptor `fd` of a controller has is as it was: its groups with their queues,
    and the maps that were registered through it. -/
structure Untouched (c fd : Nat) (d d' : Driver) : Prop where
  owner : (d'.ctrls c).findOwner fd = (d.ctrls c).findOwner fd
  maps : d'.regs.filter (fun r => r.fd = fd) = d.regs.filter (fun r => r.fd = fd)
  pool : PoolKept (d.ctrls c) (d'.ctrls c)

/-! ### The pool -/

theorem poolKept_of_eq (hndev : s'.ndev = s.ndev) (hpool : s'.pool = s.pool) : PoolKept s s' := by
  refine ⟨hndev, fun h => hpool.symm.trans h, fun _ _ h => ?_⟩
  rw [hpool] at h
  obtain ⟨p, hp⟩ := Option.ne_none_iff_exists'.mp h
  exact ⟨p, by rw [hp]; rfl⟩

theorem PoolKept.trans {s'' : State} (h : PoolKept s s') (h' : PoolKept s' s'') :
    PoolKept s s'' := by
  refine ⟨h'.ndev.trans h.ndev, fun hnone => h.kept (h'.kept hnone), fun dev hdev hsome => ?_⟩
  by_cases hmid : s'.pool = none
  · -- The pool was made in the second part, from the state of the first.
    have hmade := h'.made dev (h.ndev.trans hdev) hsome
    rwa [hmid, ← h.kept hmid] at hmade
  · exact h.made dev hdev hmid

/-- A pool that an allocation used was there or could be made. -/
theorem poolKept_of_init {dev : NvmeDev} {p : UserQidPool} (hndev : s'.ndev = s.ndev)
    (hdev : s.ndev = some dev) (hinit : ∃ ok, userQidPoolInit s.pool dev ok = .ok p)
    (hsome : s'.pool ≠ none) : PoolKept s s' := by
  refine ⟨hndev, fun h => absurd h hsome, fun _ hdev' _ => ?_⟩
  rw [← Option.some.inj (hdev.symm.trans hdev')]
  rcases hinit with ⟨_, hok⟩
  exact ⟨p, userQidPoolInit_true hok⟩

/-- Freeing ids leaves a pool where it is. -/
theorem poolKept_of_map {f : UserQidPool → UserQidPool} (hndev : s'.ndev = s.ndev)
    (hpool : s'.pool = s.pool.map f) : PoolKept s s' := by
  refine ⟨hndev, fun h => ?_, fun _ _ h => ?_⟩
  · rw [hpool] at h
    exact Option.map_eq_none_iff.mp h
  · cases hp : s.pool with
    | none => exact absurd (by rw [hpool, hp]; rfl) h
    | some p => exact ⟨p, rfl⟩

/-- No operation within a binding takes the pool away. -/
theorem effect_poolKept {op : Op} {r : Result} (hop : op.onDevice = false) (he : Effect s op r) :
    PoolKept s r.state := by
  have hndev := ndev_effect hop he
  cases he with
  | silent hframe => exact poolKept_of_eq hndev hframe.pool
  | rebound _ hpool | opened _ _ _ hpool | grouped _ _ _ _ hpool => exact poolKept_of_eq hndev hpool
  | dropped _ _ _ _ _ _ hpool | released _ _ _ _ hpool => exact poolKept_of_map hndev hpool
  | exhausted _ _ _ _ _ hdev hinit _ _ hpool =>
    exact poolKept_of_init hndev hdev hinit (by simp [hpool])
  | failed _ _ _ _ dev p p' _ h _ hpool | committed _ _ _ _ dev p p' _ h _ hpool =>
    exact poolKept_of_init hndev h.dev h.init (by simp [hpool])

/-! ### Groups and queues -/

theorem findOwner_of_owners (h : s'.owners = s.owners) (fd : Nat) :
    s'.findOwner fd = s.findOwner fd := by
  rw [State.findOwner, State.findOwner, h]

/-- A change to one descriptor is not seen in another. -/
theorem findOwner_updateOwner {f : Owner → Owner} (hne : fd ≠ other)
    (h : s'.owners = (s.updateOwner fd f).owners) (hf : ∀ o, (f o).fd = o.fd) :
    s'.findOwner other = s.findOwner other := by
  rw [State.findOwner, h]
  refine find_updateFirst (fun o ho => ?_) s.owners
  have hfd : o.fd = fd := beq_iff_eq.mp ho
  rw [hf o, hfd]
  exact ⟨beq_eq_false_iff_ne.mpr hne, beq_eq_false_iff_ne.mpr hne⟩

variable {own : Owner} {call : Call}

theorem findOwner_updateOwner_self {f : Owner → Owner} (hown : s.findOwner own.fd = some own)
    (h : s'.owners = (s.updateOwner own.fd f).owners) (hf : ∀ o, (f o).fd = o.fd) :
    s'.findOwner own.fd = some (f own) := by
  have hself := find_updateFirst_self (p := fun o : Owner => o.fd == own.fd) (f := f)
    (fun o _ => by rwa [hf]) s.owners
  have hfound : s.owners.find? (fun o => o.fd == own.fd) = some own := hown
  rw [hfound] at hself
  rw [State.findOwner, h]
  exact hself

/-- The groups of all descriptors after one was put in the place of another. -/
theorem qgroup_putGroup {g g' : QGroup} {groupId : Nat} (hown : s.findOwner own.fd = some own)
    (hgroup : own.findQgroup groupId = some g)
    (h : s'.owners = (s.updateOwner own.fd (Owner.putGroup g')).owners)
    (hid : g'.groupId = g.groupId) (fd' groupId' : Nat) :
    s'.qgroup fd' groupId' =
      if fd' = own.fd ∧ groupId' = groupId then some g' else s.qgroup fd' groupId' := by
  by_cases hfd : own.fd = fd'
  · subst hfd
    have hg : g'.groupId = groupId := hid.trans (findQgroup_eq_some hgroup).1
    rw [State.qgroup, State.qgroup, findOwner_updateOwner_self hown h fun _ => rfl, hown,
      Option.bind_some, Option.bind_some]
    split
    next heq =>
      -- The group itself: the one put in its place is found instead.
      have hself := find_updateFirst_self (p := fun x : QGroup => x.groupId == groupId)
        (f := fun _ => g') (fun x _ => by rw [hg]; exact beq_self_eq_true _) own.groups
      rw [Owner.findQgroup] at hgroup ⊢
      rw [heq.2, Owner.putGroup, hg]
      split_ifs at hgroup with hpos
      rw [if_neg hpos]
      rw [hgroup] at hself
      exact hself
    next hne =>
      have hne : groupId ≠ groupId' := fun heq => hne ⟨rfl, heq.symm⟩
      rw [Owner.findQgroup, Owner.findQgroup, Owner.putGroup]
      rw [find_updateFirst fun x hx => ?_]
      rw [beq_iff_eq.mp hx, hg]
      exact ⟨beq_eq_false_iff_ne.mpr hne, beq_eq_false_iff_ne.mpr hne⟩
  · rw [if_neg fun heq => hfd heq.1.symm, State.qgroup, State.qgroup,
      findOwner_updateOwner hfd h fun _ => rfl]

/-- An id is held by one descriptor only. -/
theorem qids_apart (hb : Books s) {o o' : Owner} (ho : o ∈ s.owners) (ho' : o' ∈ s.owners)
    (hne : o.fd ≠ o'.fd) {q : Nat} (hq : q ∈ o.qids) : q ∉ o'.qids := by
  intro hq'
  rcases List.mem_flatMap.mp hq with ⟨g, hg, hqg⟩
  rcases List.mem_flatMap.mp hq' with ⟨g', hg', hqg'⟩
  have hslot : ((o.fd, g.groupId), q) ∈ s.slots :=
    State.mem_slots.mpr ⟨o, ho, rfl, g, hg, rfl, hqg⟩
  have hslot' : ((o'.fd, g'.groupId), q) ∈ s.slots :=
    State.mem_slots.mpr ⟨o', ho', rfl, g', hg', rfl, hqg'⟩
  -- No id is in two slots, so the two are one, and its key names the descriptor.
  have hnodup := hb.balanced.nodup
  rw [State.qids_eq_slots] at hnodup
  have hsame := List.inj_on_of_nodup_map hnodup hslot hslot' rfl
  exact hne (Prod.mk.inj (Prod.mk.inj hsame).1).1

/-- An operation that gives no ids back sends commands only for ids that nobody holds. -/
theorem effect_cmds_free {op : Op} {r : Result} (hb : Books s) (hgrant : GrantBelow s)
    (hop : op.dropsQueues = false) (he : Effect s op r) : ∀ cmd ∈ r.cmds, cmd.qid ∉ s.qids := by
  have hnot : ¬ op.dropsQueues = true := by rw [hop]; exact Bool.false_ne_true
  have hnone : r.cmds = [] → ∀ cmd ∈ r.cmds, cmd.qid ∉ s.qids := by
    intro h cmd hcmd
    rw [h] at hcmd
    cases hcmd
  cases he with
  | silent _ hcmds | rebound _ _ _ hcmds | opened _ _ _ _ _ hcmds | grouped _ _ _ _ _ _ hcmds
  | exhausted _ _ _ _ _ _ _ _ _ _ _ hcmds =>
    exact hnone hcmds
  | dropped hdrop | released hdrop => exact absurd hdrop hnot
  | failed _ _ _ _ _ _ _ _ h _ _ _ hcmds | committed _ _ _ _ _ _ _ _ h _ _ _ hcmds =>
    exact fun cmd hcmd => h.qids_free hb hgrant _ (hcmds cmd hcmd)

/-- How `NVM_DESTROY_QUEUE_GROUP` goes: it changes nothing, or destroys a group of its own
    descriptor. -/
theorem nvmDestroyQueueGroup_outcome (hown : s.findOwner own.fd = some own) (groupId : Nat)
    (copyIn : Bool) :
    (∃ rc ≠ 0, nvmDestroyQueueGroup s own.fd groupId copyIn = s.refuse rc) ∨
      ∃ g ∈ own.groups, g.groupId = groupId ∧
        (nvmDestroyQueueGroup s own.fd groupId copyIn).reply = .ret 0 ∧
        (nvmDestroyQueueGroup s own.fd groupId copyIn).state.owners =
          (s.updateOwner own.fd (Owner.dropGroup g.groupId)).owners ∧
        ∀ cmd ∈ (nvmDestroyQueueGroup s own.fd groupId copyIn).cmds, cmd.qid ∈ g.qids := by
  unfold nvmDestroyQueueGroup
  rw [hown]
  dsimp only
  split
  · exact .inl ⟨efault, by decide, rfl⟩
  split
  · exact .inl ⟨einval, by decide, rfl⟩
  cases hgroup : own.findQgroup groupId with
  | none => exact .inl ⟨enoent, by decide, rfl⟩
  | some g =>
    rcases findQgroup_eq_some hgroup with ⟨hid, hfind⟩
    refine .inr ⟨g, List.mem_of_find?_eq_some hfind, hid, rfl, rfl, fun cmd hcmd => ?_⟩
    have hcmds : cmd ∈ (destroyQgroup g s.pool s.ndev.isSome).2 := hcmd
    rw [destroyQgroup_eq] at hcmds
    split at hcmds
    · exact List.mem_reverse.mp (deletePair_qids hcmds)
    · cases hcmds

section Ioctls

variable {d : Driver} {c other : Nat} {own : Owner} {call : Call}

/-- The groups of the other descriptors stay. -/
theorem onGroups_owner (hown : (d.ctrls c).findOwner own.fd = some own) (hne : own.fd ≠ other)
    (task : Nat) (hcall : call.onGroups = true) :
    (d.result (.ioctl c own.fd task call)).state.findOwner other = (d.ctrls c).findOwner other := by
  have hresult := d.result_ioctl hown task call
  cases call with
  | mapHost =>
    rw [hresult]
    exact findOwner_of_owners (nvmMapHostMemory_outcome (d.view c) _ _ _ _).framed.owners other
  | mapDevice =>
    rw [hresult]
    exact findOwner_of_owners (nvmMapDeviceMemory_outcome (d.view c) _ _ _ _).framed.owners other
  | mapDeviceQueue =>
    rw [hresult]
    exact findOwner_of_owners (nvmMapDeviceQueueMemory_outcome (d.view c) 0 _ _ _).framed.owners other
  | createQueueGroup flags reserved copyIn kzallocOk idaError copyOut =>
    rw [hresult]
    rcases (nvmCreateQueueGroup_outcome (s := d.view c) hown flags reserved
      ⟨copyIn, kzallocOk, d.idaAnswer idaError, copyOut⟩).2 with
      ⟨_, _, howners⟩ | ⟨groupId, _, _, _, howners⟩
    · exact findOwner_of_owners howners other
    · exact findOwner_updateOwner hne howners fun _ => rfl
  | destroyQueueGroup groupId ok =>
    rw [hresult]
    show (nvmDestroyQueueGroup (d.view c) own.fd groupId ok).state.findOwner other = _
    rcases nvmDestroyQueueGroup_outcome (s := d.view c) hown groupId ok with
      ⟨rc, -, heq⟩ | ⟨g, -, -, -, howners, -⟩
    · rw [heq]
      rfl
    · exact findOwner_updateOwner hne howners fun _ => rfl
  | addUserQueue req env =>
    cases addUserQueue_report hown task req env with
    | rejected _ _ hstill => exact findOwner_of_owners hstill.owners other
    | reached _ _ _ _ _ _ _ _ hend =>
      cases hend with
      | committed howners => exact findOwner_updateOwner hne howners fun _ => rfl
      | failed _ howners =>
        rcases howners with howners | howners
        · exact findOwner_of_owners howners other
        · exact findOwner_updateOwner hne howners fun _ => rfl
  | _ => exact absurd hcall Bool.false_ne_true

/-- The maps of a group were registered through its descriptor, so releasing them leaves
    those of the others. -/
theorem regs_dropped (hr : Regs d) (hne : own.fd ≠ other) (g : QGroup) :
    (run onRegs d.regs (d.dropEvents c own.fd g)).filter (fun r => r.fd = other) =
      d.regs.filter (fun r => r.fd = other) := by
  rw [run_onRegs_dropGroup, hr.without_eq fun u hu => (mem_groupMaps.mp hu).1, List.filter_comm,
    List.filter_eq_self]
  intro r hmem
  refine decide_eq_true fun hu => ?_
  obtain ⟨hmem', hlink⟩ := mem_groupMaps.mp hu
  have hplaced := hr.placed r hmem'
  rw [MapDesc.Placed, hlink] at hplaced
  exact hne (hplaced.1.trans (of_decide_eq_true (List.mem_filter.mp hmem).2))

/-- The maps of the other descriptors stay. -/
theorem onGroups_maps (hr : Regs d) (hown : (d.ctrls c).findOwner own.fd = some own)
    (hne : own.fd ≠ other) (task : Nat) (hcall : call.onGroups = true) :
    (d.step (.ioctl c own.fd task call)).regs.filter (fun r => r.fd = other) =
      d.regs.filter (fun r => r.fd = other) := by
  have hevents := d.events_ioctl hown task call
  have hregs : (d.step (.ioctl c own.fd task call)).regs =
      run onRegs d.regs (d.events (.ioctl c own.fd task call)) := rfl
  rw [hregs]
  cases call with
  | mapHost | mapDevice | mapDeviceQueue =>
    -- The new maps are behind the others.
    rw [hevents]
    refine (congrArg _ (run_onRegs_registered _ _ _)).trans ?_
    rw [List.filter_append, List.filter_map]
    simp [Function.comp_def, hne]
  | createQueueGroup =>
    rw [hevents]
    rfl
  | destroyQueueGroup =>
    rw [hevents, Driver.callEvents]
    split
    · split
      · exact regs_dropped hr hne _
      · rfl
    · rfl
  | addUserQueue req env =>
    cases addUserQueue_report hown task req env with
    | rejected _ _ _ hnone =>
      rw [hnone]
      rfl
    | reached _ _ _ _ _ _ _ _ hend =>
      cases hend with
      | committed _ hsend | failed _ _ hsend => rw [run_onRegs_sent hsend.isSent]
  | _ => exact absurd hcall Bool.false_ne_true

/-- No command goes to an id that another descriptor holds. -/
theorem onGroups_cmds (hs : Sound d) (hgrant : GrantsBelow d)
    (hown : (d.ctrls c).findOwner own.fd = some own) {o : Owner}
    (ho : (d.ctrls c).findOwner other = some o) (hne : own.fd ≠ other) (task : Nat)
    (hcall : call.onGroups = true) :
    ∀ cmd ∈ (d.result (.ioctl c own.fd task call)).cmds, cmd.qid ∉ o.qids := by
  have hbooks : Books (d.view c) := books_withMaps (hs.books c) _
  have hmem : o ∈ (d.view c).owners := List.mem_of_find?_eq_some ho
  have hfree : (call.op d own.fd task).dropsQueues = false →
      ∀ cmd ∈ (d.result (.ioctl c own.fd task call)).cmds, cmd.qid ∉ o.qids := by
    intro hop cmd hcmd hq
    rw [d.result_ioctl hown task call] at hcmd
    have heffect := exec_effect (d.view c) (call.op d own.fd task)
    exact effect_cmds_free hbooks (hgrant c) hop heffect cmd hcmd
      (List.mem_flatMap.mpr ⟨o, hmem, hq⟩)
  cases call with
  | destroyQueueGroup groupId ok =>
    intro cmd hcmd
    rw [d.result_ioctl hown task _] at hcmd
    rcases nvmDestroyQueueGroup_outcome (s := d.view c) hown groupId ok with
      ⟨rc, -, heq⟩ | ⟨g, hg, -, -, -, hcmds⟩
    · have hnone : cmd ∈ ((d.view c).refuse rc).cmds := heq ▸ hcmd
      cases hnone
    · -- What is deleted is held by the group that is destroyed.
      have hq : cmd.qid ∈ own.qids := List.mem_flatMap.mpr ⟨g, hg, hcmds cmd hcmd⟩
      rw [← findOwner_fd ho] at hne
      exact qids_apart hbooks (List.mem_of_find?_eq_some hown) hmem hne hq
  | mapHost | mapDevice | mapDeviceQueue | createQueueGroup | addUserQueue => exact hfree rfl
  | _ => exact absurd hcall Bool.false_ne_true

end Ioctls

/-! ### Whole runs -/

theorem Untouched.trans {d' d'' : Driver} (h : Untouched c fd d d') (h' : Untouched c fd d' d'') :
    Untouched c fd d d'' :=
  ⟨h'.owner.trans h.owner, h'.maps.trans h.maps, h.pool.trans h'.pool⟩

/-- The ioctls on groups are no operations on the device. -/
theorem onGroups_onDevice (d : Driver) (fd task : Nat) (hcall : call.onGroups = true) :
    (call.op d fd task).onDevice = false := by
  cases call with
  | mapHost | mapDevice | mapDeviceQueue | createQueueGroup | destroyQueueGroup | addUserQueue =>
    rfl
  | _ => exact absurd hcall Bool.false_ne_true

/-- An ioctl on groups leaves what another descriptor has. -/
theorem untouched_step (hr : Regs d) (hne : fd ≠ other) (task : Nat)
    (hcall : call.onGroups = true) : Untouched c other d (d.step (.ioctl c fd task call)) := by
  have hctrl : (d.step (.ioctl c fd task call)).ctrls c =
      (d.result (.ioctl c fd task call)).state := step_ctrls_self d (.ioctl c fd task call)
  rcases d.ioctl_cases c fd task call with ⟨hresult, hevents, -⟩ | ⟨own, rfl, hown⟩
  · rw [hresult] at hctrl
    refine ⟨?_, ?_, ?_⟩
    · rw [hctrl]
      rfl
    · show (run onRegs d.regs (d.events (.ioctl c fd task call))).filter _ = _
      rw [hevents]
      rfl
    · rw [hctrl]
      exact poolKept_of_eq rfl rfl
  · refine ⟨?_, onGroups_maps hr hown hne task hcall, ?_⟩
    · rw [hctrl]
      exact onGroups_owner hown hne task hcall
    · have heffect := exec_effect (d.view c) (call.op d own.fd task)
      have hkept := effect_poolKept (onGroups_onDevice d own.fd task hcall) heffect
      rw [hctrl, d.result_ioctl hown task call]
      exact ⟨hkept.ndev, hkept.kept, hkept.made⟩

/-- The requests that a list of calls on one descriptor makes, each with its task. -/
def callsOn (c fd : Nat) (calls : List (Nat × Call)) : List Request :=
  calls.map (fun x => .ioctl c fd x.1 x.2)

/-- However often. -/
theorem untouched_run (hr : Regs d) (hne : fd ≠ other) {calls : List (Nat × Call)}
    (hcalls : ∀ x ∈ calls, x.2.onGroups = true) :
    Untouched c other d (run Driver.step d (callsOn c fd calls)) := by
  induction calls generalizing d with
  | nil => exact ⟨rfl, rfl, poolKept_of_eq rfl rfl⟩
  | cons x _ ih =>
    have hstep := untouched_step (c := c) hr hne x.1 (hcalls x List.mem_cons_self)
    have hrest := ih (regs_step d (.ioctl c fd x.1 x.2) hr)
      (List.forall_mem_cons.mp hcalls).2
    exact hstep.trans hrest

/-- The commands that a request sends are for ids that a descriptor does not hold. -/
def KeepsOff (c fd : Nat) (d : Driver) (req : Request) : Prop :=
  ∀ own, (d.ctrls c).findOwner fd = some own → ∀ cmd ∈ (d.result req).cmds, cmd.qid ∉ own.qids

theorem keepsOff_run (hs : Sound d) (hne : fd ≠ other) {calls : List (Nat × Call)}
    (hcalls : ∀ x ∈ calls, x.2.onGroups = true)
    (hgrant : Along Driver.step (fun d _ => GrantsBelow d) d (callsOn c fd calls)) :
    Along Driver.step (KeepsOff c other) d (callsOn c fd calls) := by
  induction calls generalizing d with
  | nil => trivial
  | cons x _ ih =>
    refine ⟨fun o ho => ?_, ih (sound_step _ hs hgrant.1) (List.forall_mem_cons.mp hcalls).2
      hgrant.2⟩
    rcases d.ioctl_cases c fd x.1 x.2 with ⟨hresult, -⟩ | ⟨own, rfl, hown⟩
    · rw [hresult]
      exact nofun
    · exact onGroups_cmds hs hgrant.1 hown ho hne x.1 (hcalls x List.mem_cons_self)

/-! ### Adding queues -/

/-- `NVM_ADD_USER_QUEUE` up to the pool, with the descriptor, the device and the maps of
    the group: an error, or the descriptor, the group, the device and the rings. -/
def addChecks (owner : Option Owner) (dev : Option NvmeDev) (maps : List MapDesc) (req : AddReq)
    (env : AddEnv) : Except Int (Owner × QGroup × NvmeDev × List (MapDesc × MapDesc)) :=
  match owner with
  | none => .error enodev
  | some own =>
    if ¬ env.kzallocOk then .error enomem
    else if ¬ env.copyIn then .error efault
    else if req.flags ≠ 0 then .error einval
    else if req.reserved.any (· ≠ 0) then .error einval
    else if req.pairs.length = 0 ∨ nvmMaxQueuesPerGroup < req.pairs.length then .error einval
    else if ¬ pairsOk [] req.pairs then .error einval
    else
      match dev with
      | none => .error enodev
      | some ndev =>
        match own.findQgroup req.groupId with
        | none => .error enoent
        | some g =>
          if g.maxQueues < g.curQueues + req.pairs.length then .error ebusy
          else
            match req.pairs.mapM (fun pr => findRings pr none none maps) with
            | none => .error enoent
            | some rings => .ok (own, g, ndev, rings)

variable (s)

/-- The rest of it. -/
def addBatch (own : Owner) (g : QGroup) (ndev : NvmeDev)
    (rings : List (MapDesc × MapDesc)) (req : AddReq) (env : AddEnv) : Result :=
  match userQidPoolInit s.pool ndev env.kcallocOk with
  | .error e => s.refuse e
  | .ok p =>
    match p.alloc req.pairs.length with
    | (p', none) => { s with pool := some p' }.refuse eagain
    | (p', some qids) => addPairs s own g ndev p' req qids rings env

theorem nvmAddUserQueue_eq (fd : Nat) (req : AddReq) (env : AddEnv) :
    nvmAddUserQueue s fd req env = match addChecks (s.findOwner fd) s.ndev
        (s.maps.filter (fun m => m.link = .group fd req.groupId)) req env with
      | .error e => s.refuse e
      | .ok (own, g, ndev, rings) => addBatch s own g ndev rings req env := by
  unfold nvmAddUserQueue addChecks addBatch
  cases s.findOwner fd with
  | none => rfl
  | some own =>
    dsimp only
    iterate 6
      split
      · rfl
    cases s.ndev with
    | none => rfl
    | some =>
      cases own.findQgroup req.groupId with
      | none => rfl
      | some =>
        dsimp only
        split
        · rfl
        cases req.pairs.mapM (fun pr => findRings pr none none
          (s.maps.filter (fun m => m.link = .group fd req.groupId))) with
        | none => rfl
        | some => rfl

/-- Two calls succeed or fail alike: with the same error, or with as many queues. -/
def Reply.Agrees : Reply → Reply → Prop
  | .queues out, .queues out' => out.length = out'.length
  | r, r' => r = r'

theorem Reply.agrees_refl (r : Reply) : r.Agrees r := by
  cases r <;> rfl

/-- The pool has too few free ids for a batch, which fails for that. -/
def Exhausted (req : AddReq) (env : AddEnv) (reply : Reply) : Prop :=
  reply = .ret eagain ∧ ∃ dev p p', s.ndev = some dev ∧
    userQidPoolInit s.pool dev env.kcallocOk = .ok p ∧ p.alloc req.pairs.length = (p', none)

/-- There is no pool yet and no memory for one, which a batch fails for. -/
def Unfounded (env : AddEnv) (reply : Reply) : Prop :=
  reply = .ret enomem ∧ s.pool = none ∧ env.kcallocOk = false

/-- What a batch returns is for the controller's answers to say. -/
theorem addPairs_reply (own : Owner) (g : QGroup) (ndev : NvmeDev) (p : UserQidPool)
    (req : AddReq) (qids : List Nat) (rings : List (MapDesc × MapDesc)) (env : AddEnv) :
    (addPairs s own g ndev p req qids rings env).reply =
      match firstRefusal env 0 (qids.zip rings).length with
      | some rc => .ret rc
      | none => if env.copyOut then .queues (qids.map (doorbells ndev)) else .ret efault := by
  unfold addPairs
  dsimp only
  rw [← createPairs_failed ndev env (qids.zip rings) 0 [] []]
  cases (createPairs ndev env 0 (qids.zip rings) ⟨[], [], none⟩).failed with
  | some => rfl
  | none => cases env.copyOut <;> rfl

variable {s}

/-- The pools of the two states are set up alike, except that the first may lack memory. -/
theorem PoolKept.init (h : PoolKept s s') {dev : NvmeDev} (hdev : s.ndev = some dev) (ok : Bool) :
    (∃ e, userQidPoolInit s.pool dev ok = .error e ∧ userQidPoolInit s'.pool dev ok = .error e) ∨
      (∃ p p', userQidPoolInit s.pool dev ok = .ok p ∧ userQidPoolInit s'.pool dev ok = .ok p') ∨
      (s.pool = none ∧ ok = false ∧ userQidPoolInit s.pool dev ok = .error enomem) := by
  cases hpool' : s'.pool with
  | none =>
    -- Neither has a pool, so the same happens in both.
    rw [h.kept hpool']
    cases hinit : userQidPoolInit none dev ok with
    | error e => exact .inl ⟨e, rfl, rfl⟩
    | ok p => exact .inr (.inl ⟨p, p, rfl, rfl⟩)
  | some p' =>
    cases hpool : s.pool with
    | some p => exact .inr (.inl ⟨p, p', rfl, rfl⟩)
    | none =>
      obtain ⟨p, hp⟩ := h.made dev hdev (by simp [hpool'])
      rw [hpool] at hp
      cases ok with
      | true => exact .inr (.inl ⟨p, p', hp, rfl⟩)
      | false =>
        -- It can fail to be made for lack of memory only.
        refine .inr (.inr ⟨rfl, rfl, ?_⟩)
        unfold userQidPoolInit at hp ⊢
        dsimp only at hp ⊢
        split_ifs at hp
        rw [if_neg ‹_›, if_neg ‹_›, if_neg ‹_›]
        rfl

/-- A batch succeeds or fails alike in two states that differ by the pool, unless one of them
    finds it exhausted or the first cannot make it. -/
theorem addBatch_agrees (h : PoolKept s s') (hdev : s.ndev = some ndev) (own : Owner) (g : QGroup)
    (rings : List (MapDesc × MapDesc)) (req : AddReq) (env : AddEnv) :
    (addBatch s' own g ndev rings req env).reply.Agrees
        (addBatch s own g ndev rings req env).reply ∨
      Exhausted s' req env (addBatch s' own g ndev rings req env).reply ∨
      Exhausted s req env (addBatch s own g ndev rings req env).reply ∨
      Unfounded s env (addBatch s own g ndev rings req env).reply := by
  unfold addBatch
  rcases h.init hdev env.kcallocOk with ⟨e, hinit, hinit'⟩ | ⟨p, p', hinit, hinit'⟩ |
    ⟨hnone, hok, hinit⟩
  · rw [hinit, hinit']
    exact .inl rfl
  · rw [hinit, hinit']
    dsimp only
    rcases halloc' : p'.alloc req.pairs.length with ⟨q', ids'⟩
    rcases halloc : p.alloc req.pairs.length with ⟨q, ids⟩
    cases ids' with
    | none => exact .inr (.inl ⟨rfl, ndev, p', q', h.ndev.trans hdev, hinit', halloc'⟩)
    | some =>
      cases ids with
      | none => exact .inr (.inr (.inl ⟨rfl, ndev, p, q, hdev, hinit, halloc⟩))
      | some =>
        -- Both got as many ids as there are pairs.
        have hlen := UserQidPool.allocLoop_length halloc
        have hlen' := UserQidPool.allocLoop_length halloc'
        left
        rw [addPairs_reply, addPairs_reply, List.length_zip, List.length_zip, hlen, hlen']
        split
        · exact Reply.agrees_refl _
        split
        · show (List.map _ _).length = (List.map _ _).length
          rw [List.length_map, List.length_map, hlen, hlen']
        · exact Reply.agrees_refl _
  · rw [hinit]
    exact .inr (.inr (.inr ⟨rfl, hnone, hok⟩))

/-- The same of `NVM_ADD_USER_QUEUE`, if the descriptor has the same groups and maps. -/
theorem add_agrees (howner : s'.findOwner fd = s.findOwner fd) (h : PoolKept s s') (req : AddReq)
    (hmaps : s'.maps.filter (fun m => m.link = .group fd req.groupId) =
      s.maps.filter (fun m => m.link = .group fd req.groupId)) (env : AddEnv) :
    (nvmAddUserQueue s' fd req env).reply.Agrees (nvmAddUserQueue s fd req env).reply ∨
      Exhausted s' req env (nvmAddUserQueue s' fd req env).reply ∨
      Exhausted s req env (nvmAddUserQueue s fd req env).reply ∨
      Unfounded s env (nvmAddUserQueue s fd req env).reply := by
  rw [nvmAddUserQueue_eq, nvmAddUserQueue_eq, howner, h.ndev, hmaps]
  cases hchecks : addChecks (s.findOwner fd) s.ndev
      (s.maps.filter (fun m => m.link = .group fd req.groupId)) req env with
  | error => exact .inl rfl
  | ok x =>
    obtain ⟨own, g, ndev, rings⟩ := x
    refine addBatch_agrees h ?_ own g rings req env
    -- The device that the checks hand on is the controller's.
    unfold addChecks at hchecks
    split at hchecks
    · cases hchecks
    split_ifs at hchecks
    split at hchecks
    · cases hchecks
    next hdev =>
      split at hchecks
      · cases hchecks
      split_ifs at hchecks
      split at hchecks
      · cases hchecks
      · cases hchecks
        exact hdev

/-! ### Two descriptors -/

/-- An ioctl of a closed descriptor fails as its function does. -/
theorem Driver.reply_add (d : Driver) (c fd task : Nat) (req : AddReq) (env : AddEnv) :
    (d.result (.ioctl c fd task (.addUserQueue req env))).reply =
      (nvmAddUserQueue (d.view c) fd req env).reply := by
  rcases d.ioctl_cases c fd task _ with ⟨hresult, -, hown⟩ | ⟨own, rfl, hown⟩
  · have hview : (d.view c).findOwner fd = none := hown
    rw [hresult, nvmAddUserQueue_eq, hview]
    rfl
  · rw [d.result_ioctl hown task]
    rfl

theorem Driver.reply_destroy (d : Driver) (c fd task groupId : Nat) (copyIn : Bool) :
    (d.result (.ioctl c fd task (.destroyQueueGroup groupId copyIn))).reply =
      (nvmDestroyQueueGroup (d.view c) fd groupId copyIn).reply := by
  rcases d.ioctl_cases c fd task _ with ⟨hresult, -, hown⟩ | ⟨own, rfl, hown⟩
  · have hview : (d.view c).findOwner fd = none := hown
    unfold nvmDestroyQueueGroup
    rw [hresult, hview]
  · rw [d.result_ioctl hown task]
    rfl

/-- The maps of a descriptor's group are among those registered through it. -/
theorem Regs.groupMaps_eq (hr : Regs d) (fd groupId : Nat) :
    d.groupMaps fd groupId = (d.regs.filter (fun r => r.fd = fd)).filter
      (fun r => r.desc.link = .group fd groupId) := by
  rw [List.filter_filter]
  refine List.filter_congr fun r hmem => ?_
  by_cases hlink : r.desc.link = .group fd groupId
  · have hplaced := hr.placed r hmem
    rw [MapDesc.Placed, hlink] at hplaced
    simp [hplaced.1]
  · simp [hlink]

theorem Untouched.groupMaps {d' : Driver} (h : Untouched c fd d d') (hr : Regs d) (hr' : Regs d')
    (groupId : Nat) :
    (d'.view c).maps.filter (fun m => m.link = .group fd groupId) =
      (d.view c).maps.filter (fun m => m.link = .group fd groupId) := by
  rw [view_groupMaps, view_groupMaps, hr.groupMaps_eq, hr'.groupMaps_eq, h.maps]

/-- Whatever one descriptor does with groups, queues and maps, another one of the controller
    keeps its groups, their queues and its maps; no command is sent for an id that it holds;
    it can destroy the same groups; and queues that it adds are made or not as if nothing
    had happened, unless the pool is exhausted in one of the two cases, or was not there
    and could not be made. -/
theorem descriptors_apart (before : List Request) (c fd other : Nat) (hne : fd ≠ other)
    (calls : List (Nat × Call)) (hcalls : ∀ x ∈ calls, x.2.onGroups = true)
    (hgrant : Along Driver.step (fun d _ => GrantsBelow d) Driver.init
      (before ++ callsOn c fd calls)) :
    let d := run Driver.step Driver.init before
    let d' := run Driver.step d (callsOn c fd calls)
    (d'.ctrls c).findOwner other = (d.ctrls c).findOwner other ∧
      d'.regs.filter (fun r => r.fd = other) = d.regs.filter (fun r => r.fd = other) ∧
      Along Driver.step (KeepsOff c other) d (callsOn c fd calls) ∧
      (∀ task groupId copyIn,
        (d'.result (.ioctl c other task (.destroyQueueGroup groupId copyIn))).reply =
          (d.result (.ioctl c other task (.destroyQueueGroup groupId copyIn))).reply) ∧
      ∀ task req env, let alone := (d.result (.ioctl c other task (.addUserQueue req env))).reply
        let after := (d'.result (.ioctl c other task (.addUserQueue req env))).reply
        after.Agrees alone ∨ Exhausted (d'.ctrls c) req env after ∨
          Exhausted (d.ctrls c) req env alone ∨ Unfounded (d.ctrls c) env alone := by
  intro d d'
  obtain ⟨hbefore, hafter⟩ := (along_append _ _ _).mp hgrant
  have hs : Sound d := sound_driver_run before sound_init hbefore
  have hs' : Sound d' := sound_driver_run _ hs hafter
  have huntouched : Untouched c other d d' := untouched_run hs.regs hne hcalls
  have howner : (d'.view c).findOwner other = (d.view c).findOwner other := huntouched.owner
  refine ⟨huntouched.owner, huntouched.maps, keepsOff_run hs hne hcalls hafter,
    fun task groupId copyIn => ?_, fun _ req env => ?_⟩
  · -- What is returned is for the descriptor's own groups to say.
    rw [Driver.reply_destroy, Driver.reply_destroy]
    unfold nvmDestroyQueueGroup
    rw [howner]
    split
    · rfl
    split
    · rfl
    split
    · rfl
    split
    · rfl
    · rfl
  · -- The two states that the function runs in differ by the pool, as far as it looks.
    have hkept : PoolKept (d.view c) (d'.view c) :=
      ⟨huntouched.pool.ndev, huntouched.pool.kept, huntouched.pool.made⟩
    rw [Driver.reply_add, Driver.reply_add]
    exact add_agrees howner hkept req (huntouched.groupMaps hs.regs hs'.regs req.groupId) env

/-- Adding one queue to a group whose rings are at 4096 and 8192. -/
def addOne (groupId : Nat) (kcallocOk : Bool) : Call :=
  .addUserQueue ⟨groupId, 0, [], [⟨4096, 8192⟩]⟩
    ⟨true, true, kcallocOk, fun _ => 0, fun _ => 0, true⟩

/-- Controller 0 grants one queue more than `last`, of which the kernel takes two.
    Descriptors 1 and 4 have a group each, with two pages as its rings. -/
def twoFiles (last : Nat) : List Request :=
  [.devOpen 0 10 true, .ioctl 0 1 10 (.setKernelIoqCap 2 true), .deviceBind 0 ⟨0, ⟨8, 0, 0⟩,
      ⟨true, 1024, 1, ⟨0, 0, ⟨0, last, last⟩, true, fun _ => true, false, fun _ => plainPass⟩,
        true⟩⟩,
    .devOpen 0 11 true,
    .ioctl 0 1 10 (.createQueueGroup 0 [] true true none true),
    .ioctl 0 1 10 (.mapHost ⟨4096, 1, some .ringSq, 0, 0, []⟩ ⟨true, .ok 40960, true⟩),
    .ioctl 0 1 10 (.mapHost ⟨8192, 1, some .ringCq, 0, 0, []⟩ ⟨true, .ok 81920, true⟩),
    .ioctl 0 4 11 (.createQueueGroup 0 [] true true none true),
    .ioctl 0 4 11 (.mapHost ⟨4096, 2, some .ringSq, 0, 0, []⟩ ⟨true, .ok 122880, true⟩),
    .ioctl 0 4 11 (.mapHost ⟨8192, 2, some .ringCq, 0, 0, []⟩ ⟨true, .ok 163840, true⟩)]

/-- Descriptor 1 adds a queue, destroys its group and asks for that of descriptor 4, which
    can still destroy it. -/
theorem descriptors_apart_twoFiles : (run Driver.step Driver.init (twoFiles 7 ++ callsOn 0 1
      [(10, addOne 1 true), (10, .destroyQueueGroup 1 true),
        (10, .destroyQueueGroup 2 true)])).regs.length = 2 ∧
    ((run Driver.step (run Driver.step Driver.init (twoFiles 7)) (callsOn 0 1
      [(10, addOne 1 true), (10, .destroyQueueGroup 1 true),
        (10, .destroyQueueGroup 2 true)])).result
      (.ioctl 0 4 11 (.destroyQueueGroup 2 true))).reply = .ret 0 := by
  refine ⟨by decide, ?_⟩
  have hgrant : Along Driver.step (fun d _ => GrantsBelow d) Driver.init (twoFiles 7 ++
      callsOn 0 1 [(10, addOne 1 true), (10, .destroyQueueGroup 1 true),
        (10, .destroyQueueGroup 2 true)]) :=
    grantsBelow_of_one 0 (by decide) (by decide)
  have hreply := (descriptors_apart (twoFiles 7) 0 1 4 (by decide) _ (by decide) hgrant).2.2.2.1
    11 2 true
  exact hreply.trans (by decide)

/-- The pool has one id, and descriptor 1 has it. If it destroys its group, descriptor 4 can
    add a queue, and otherwise it cannot. Or there is no memory for the pool: then
    descriptor 4 can add a queue only if descriptor 1 added one before. -/
theorem pool_is_shared :
    (let d := run Driver.step Driver.init (twoFiles 2 ++ callsOn 0 1 [(10, addOne 1 true)])
      let d' := run Driver.step d (callsOn 0 1 [(10, .destroyQueueGroup 1 true)])
      (d.result (.ioctl 0 4 11 (addOne 2 true))).reply = .ret eagain ∧
        (d'.result (.ioctl 0 4 11 (addOne 2 true))).reply = .queues [(3, 4120, 4124)]) ∧
    (let d := run Driver.step Driver.init (twoFiles 7)
      let d' := run Driver.step d (callsOn 0 1 [(10, addOne 1 true)])
      (d.result (.ioctl 0 4 11 (addOne 2 false))).reply = .ret enomem ∧
        (d'.result (.ioctl 0 4 11 (addOne 2 false))).reply = .queues [(4, 4128, 4132)]) := by
  decide

end Geminifs.Snvme
