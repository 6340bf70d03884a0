import Geminifs.Theory.Snvme.Registry

/-!
# Events and Functions

The same thing is told twice in the model of the module. The functions of a
controller return the maps they leave and the commands they send; the events of
a request are what an observer sees, map by map and command by command, with the
identity of each map. Here the two are compared, so that what is proved about
events is about the functions.

The commands agree for every request. The maps agree as long as each has an
identity of its own: an event releases a map by its identity, where the functions
unlink the first that they find or all that belong to a group or a task. A probe
or a reset looks at the maps of its own controller only and changes none.

## Main definitions

* `Event.sentCmd`: The command of an event.
* `Agrees`: Events that show what a function returned.

## Theorems

* `events_agree`: What an observer sees is what the functions return.
* `run_agrees`: The two agree in every run.
-/

namespace Geminifs.Snvme

open Runs

/-! ### Commands -/

/-- The command of an event, if it is one. -/
def Event.sentCmd : Event → Option AdminCmd
  | .sent _ cmd _ _ => some cmd
  | _ => none

variable (c : Nat) (cmds : List AdminCmd) (env : AddEnv) (s : State)

theorem deleteEvents_cmds : (deleteEvents c cmds).filterMap Event.sentCmd = cmds := by
  induction cmds with
  | nil => rfl
  | cons cmd cmds ih =>
    exact congrArg (cmd :: ·) ih

theorem unmapped_cmds (rs : List Registered) :
    (rs.map Event.unmapped).filterMap Event.sentCmd = [] := by
  rw [List.filterMap_eq_nil_iff]
  intro e he
  rcases List.mem_map.mp he with ⟨r, -, rfl⟩
  rfl

/-- Pair by pair, each command stays in its place. -/
theorem addEvents_cmds (i : Nat) (rings : List (Registered × Registered)) (cmds : List AdminCmd) :
    (addEvents c env i rings cmds).filterMap Event.sentCmd = cmds := by
  fun_induction addEvents c env i rings cmds with
  | case1 i sq cq rings qid prp1 size => rfl
  | case2 i sq cq rings qid prp1 size cmd cmds ih =>
    -- A completion queue that fails is followed by deletions only, and so is a submission queue.
    refine congrArg (AdminCmd.createCq qid prp1 size :: ·) ?_
    split
    · exact deleteEvents_cmds c (cmd :: cmds)
    · refine congrArg (cmd :: ·) ?_
      split
      · exact deleteEvents_cmds c cmds
      · exact ih
  | case3 => exact deleteEvents_cmds c _

/-- An addition of queues sends commands and does nothing else. -/
theorem addEvents_isSent (i : Nat) (rings : List (Registered × Registered)) (cmds : List AdminCmd) :
    ∀ e ∈ addEvents c env i rings cmds, e.isSent = true := by
  fun_induction addEvents c env i rings cmds with
  | case1 => exact List.forall_mem_singleton.mpr rfl
  | case2 _ _ _ _ _ _ _ _ _ ih =>
    refine List.forall_mem_cons.mpr ⟨rfl, ?_⟩
    split
    · exact deleteEvents_isSent c _
    · refine List.forall_mem_cons.mpr ⟨rfl, ?_⟩
      split
      · exact deleteEvents_isSent c _
      · exact ih
  | case3 => exact deleteEvents_isSent c _

theorem dropEvents_cmds (d : Driver) (c fd : Nat) (g : QGroup) :
    (d.dropEvents c fd g).filterMap Event.sentCmd =
      if (d.ctrls c).ndev.isSome then g.qids.reverse.flatMap deletePair else [] := by
  rw [Driver.dropEvents, List.filterMap_append, deleteEvents_cmds, unmapped_cmds, List.append_nil,
    destroyQgroup_eq]

/-- The pool that a group leaves to the next does not matter for the commands. -/
theorem closeEvents_cmds (d : Driver) (c : Nat) (own : Owner) :
    (d.closeEvents c own).filterMap Event.sentCmd = if (d.ctrls c).ndev.isSome then
        (own.groups.flatMap (fun g => g.qids.reverse)).flatMap deletePair
      else [] := by
  rw [Driver.closeEvents, List.filterMap_append, unmapped_cmds, List.append_nil]
  induction own.groups with
  | nil => cases (d.ctrls c).ndev <;> rfl
  | cons _ _ ih =>
    rw [List.flatMap_cons, List.filterMap_append, ih, dropEvents_cmds, List.flatMap_cons,
      List.flatMap_append]
    split <;> rfl

/-! ### Functions that keep the maps -/

variable {d : Driver} (fd : Nat)

theorem nvmCreateQueueGroup_silent (flags : Nat) (reserved : List Nat) (env : CreateGroupEnv) :
    (nvmCreateQueueGroup s fd flags reserved env).cmds = [] ∧
      (nvmCreateQueueGroup s fd flags reserved env).state.maps = s.maps := by
  unfold nvmCreateQueueGroup
  cases s.findOwner fd with
  | none => exact ⟨rfl, rfl⟩
  | some =>
    dsimp only
    iterate 5
      split
      · exact ⟨rfl, rfl⟩
    cases env.ida with
    | error => exact ⟨rfl, rfl⟩
    | ok newId =>
      dsimp only
      split
      · exact ⟨rfl, rfl⟩
      · -- A group that could not be returned is destroyed while it has no queues.
        refine ⟨?_, rfl⟩
        cases s.ndev <;> rfl

theorem nvmAddUserQueue_maps (req : AddReq) (env : AddEnv) :
    (nvmAddUserQueue s fd req env).state.maps = s.maps := by
  cases nvmAddUserQueue_outcome s fd req env with
  | refused rc _ heq | exhausted ndev p p' nr _ _ _ heq =>
    rw [heq]
    rfl
  | reached _ _ _ _ _ _ _ _ _ _ _ heq =>
    rw [heq]
    unfold addPairs
    dsimp only
    split
    · rfl
    split <;> rfl

theorem nvmSetIoqNum_maps (req : SetupReq) (copyIn : Bool) :
    (nvmSetIoqNum s req copyIn).1.maps = s.maps := by
  unfold nvmSetIoqNum
  iterate 7
    split
    · rfl
  rfl

/-! ### Releasing maps -/

section Maps

variable {d : Driver}

/-- Releasing some maps by their identity keeps the others. -/
theorem Regs.without_desc (hr : Regs d) {us : List Registered} {p : MapDesc → Bool}
    (hheld : ∀ u ∈ us, u ∈ d.regs) (hp : ∀ r ∈ d.regs, r ∈ us ↔ p r.desc = false) :
    (without us d.regs).map Registered.desc = (d.regs.map Registered.desc).filter p := by
  rw [hr.without_eq hheld, List.filter_map]
  refine congrArg _ (List.filter_congr fun r hmem => ?_)
  rw [Bool.eq_iff_iff, decide_eq_true_eq, Function.comp_apply, hp r hmem, Bool.not_eq_false]

/-- The map that an ioctl finds is the one that it unlinks. -/
theorem Regs.unmapEvents_desc (hr : Regs d) (list : MapList) (task vaddr : Nat) (copyIn : Bool) :
    (run onRegs d.regs (d.unmapEvents list task vaddr copyIn)).map Registered.desc =
      if copyIn then (d.regs.map Registered.desc).eraseP (mapFind list task vaddr)
      else d.regs.map Registered.desc := by
  rw [Driver.unmapEvents]
  cases copyIn with
  | false => rfl
  | true =>
    rw [if_pos rfl, run_onRegs_unmapped, List.eraseP_map]
    refine congrArg _ ?_
    cases hfind : d.regs.find? (fun r => mapFind list task vaddr r.desc) with
    | none =>
      rw [List.eraseP_of_forall_not]
      · exact without_nil d.regs
      · exact fun r hmem => List.find?_eq_none.mp hfind r hmem
    | some r =>
      rcases find_split d.regs hfind with ⟨before, after, hsplit, -, herase⟩
      have hheld := List.forall_mem_singleton.mpr (List.mem_of_find?_eq_some hfind)
      have hnodup := hr.id_nodup.of_map
      rw [hsplit, List.nodup_middle, List.nodup_cons] at hnodup
      -- The map stands there once, so the filter takes out this one place.
      refine ((hr.without_eq hheld).trans ?_).trans herase.symm
      rw [hsplit, List.filter_append, List.filter_cons_of_neg (by simp), ← List.filter_append,
        List.filter_eq_self]
      intro x hx
      simpa using ne_of_mem_of_not_mem hx hnodup.1

theorem Regs.closeEvents_desc (hr : Regs d) (c : Nat) (own : Owner) :
    (run onRegs d.regs (d.closeEvents c own)).map Registered.desc =
      ((d.regs.map Registered.desc).filter (fun m =>
        own.groups.all (fun g => m.link ≠ .group own.fd g.groupId) && m.link ≠ .data own.fd)).filter
          (fun m => ¬ (m.owner = own.task ∧ m.groupId = 0)) := by
  rw [run_onRegs_closeEvents, List.filter_filter]
  refine hr.without_desc (fun u hu => (mem_closed.mp hu).1) fun r hmem => ?_
  rw [mem_closed, and_iff_right hmem, ← Bool.not_eq_true, Bool.and_eq_true, Bool.and_eq_true,
    List.all_eq_true]
  simp only [decide_eq_true_eq]
  -- A map is released for one of three reasons, and the two filters ask for each of them.
  constructor
  · rintro (⟨g, hg, hlink⟩ | hdata | hlegacy) ⟨hleft, hall, hno⟩
    · exact hall g hg hlink
    · exact hno hdata
    · exact hleft hlegacy
  · intro hnot
    by_contra hkept
    rw [not_or, not_or] at hkept
    exact hnot ⟨hkept.2.2, fun g hg hlink => hkept.1 ⟨g, hg, hlink⟩, hkept.2.1⟩

end Maps

/-! ### Requests -/

/-- What an observer sees of a request is what its function returned: the
    commands in their order, and the maps. -/
structure Agrees (d : Driver) (es : List Event) (r : Result) : Prop where
  cmds : es.filterMap Event.sentCmd = r.cmds
  maps : (run onRegs d.regs es).map Registered.desc = r.state.maps

theorem agrees_nil {r : Result} (hcmds : r.cmds = [])
    (hmaps : r.state.maps = d.regs.map Registered.desc) : Agrees d [] r :=
  ⟨hcmds.symm, hmaps.symm⟩

section Ioctls

variable {d : Driver} {c : Nat} {own : Owner}

theorem agrees_map {r : State × Int} (hext : Extends own (d.view c) r.1) :
    Agrees d (d.mapEvents c own.fd (quiet r)) (quiet r) := by
  refine ⟨List.filterMap_eq_nil_iff.mpr fun e he => ?_, ?_⟩
  · rcases List.mem_map.mp he with ⟨m, -, rfl⟩
    rfl
  · -- What the function put behind the maps there were is registered.
    have hlen : (d.view c).maps.length = d.regs.length := List.length_map _
    rw [Driver.mapEvents, run_onRegs_registered, List.map_append, List.map_map]
    rcases hext with hsame | ⟨m, hnew, -⟩
    · rw [quiet, hsame, ← hlen, List.drop_length, List.map_nil, List.append_nil]
      rfl
    · rw [quiet, hnew, ← hlen, List.drop_left]
      rfl

theorem agrees_unmap (hr : Regs d) (list : MapList) (counts : Bool) (task vaddr : Nat)
    (copyIn : Bool) :
    Agrees d (d.unmapEvents list task vaddr copyIn)
      (quiet (unmapMemory list counts (d.view c) task vaddr copyIn)) := by
  refine ⟨?_, ?_⟩
  · rw [Driver.unmapEvents]
    split
    · exact unmapped_cmds _
    · rfl
  · rw [hr.unmapEvents_desc list task vaddr copyIn, quiet]
    unfold unmapMemory
    cases copyIn with
    | false => rfl
    | true =>
      simp only [not_true_eq_false, if_false, if_true]
      split
      next hfind =>
        refine List.eraseP_of_forall_not fun m hm => ?_
        exact List.find?_eq_none.mp hfind m hm
      · rfl

theorem agrees_destroyQueueGroup (hr : Regs d) (hown : (d.ctrls c).findOwner own.fd = some own)
    (groupId : Nat) (copyIn : Bool) :
    Agrees d
      (match own.findQgroup groupId with
      | some g => if copyIn then d.dropEvents c own.fd g else []
      | none => [])
      (nvmDestroyQueueGroup (d.view c) own.fd groupId copyIn) := by
  have hview : (d.view c).findOwner own.fd = some own := hown
  unfold nvmDestroyQueueGroup
  rw [hview]
  dsimp only
  cases copyIn with
  | false =>
    cases own.findQgroup groupId <;> exact agrees_nil rfl rfl
  | true =>
    by_cases hzero : groupId = 0
    · -- There is no group with this id, whatever the list holds.
      rw [Owner.findQgroup, if_pos hzero, if_pos hzero]
      exact agrees_nil rfl rfl
    · rw [if_neg hzero]
      cases own.findQgroup groupId with
      | none => exact agrees_nil rfl rfl
      | some g =>
        refine ⟨(dropEvents_cmds d c own.fd g).trans ?_, ?_⟩
        · exact congrArg Prod.snd
            (destroyQgroup_eq g (d.ctrls c).pool (d.ctrls c).ndev.isSome).symm
        · -- The maps of a group go with it.
          refine (congrArg _ (run_onRegs_dropGroup d c own.fd g d.regs)).trans ?_
          refine hr.without_desc (fun u hu => (mem_groupMaps.mp hu).1) fun r hmem => ?_
          rw [mem_groupMaps, decide_eq_false_iff_not, not_not]
          exact and_iff_right hmem

/-- The rings that the functions find are those that the events name, so an
    addition for which there are none sends nothing. -/
theorem agrees_addUserQueue (req : AddReq) (env : AddEnv) : Agrees d
      (match req.pairs.mapM (fun pr =>
        findRegs pr none none (d.groupMaps own.fd req.groupId)) with
      | some rings => addEvents c env 0 rings (nvmAddUserQueue (d.view c) own.fd req env).cmds
      | none => [])
      (nvmAddUserQueue (d.view c) own.fd req env) := by
  have hmaps := nvmAddUserQueue_maps (d.view c) own.fd req env
  cases hregs : req.pairs.mapM (fun pr =>
      findRegs pr none none (d.groupMaps own.fd req.groupId)) with
  | some rings =>
    -- Commands change no map, on either side.
    refine ⟨addEvents_cmds c env 0 rings _, ?_⟩
    rw [run_onRegs_sent (addEvents_isSent c env 0 rings _)]
    exact hmaps.symm
  | none =>
    refine agrees_nil ?_ hmaps
    cases nvmAddUserQueue_outcome (d.view c) own.fd req env with
    | refused rc _ heq | exhausted ndev p p' nr _ _ _ heq =>
      rw [heq]
      rfl
    | reached _ _ _ _ _ _ rings _ _ hrings =>
      -- The controller found rings, so the search by identity would have found them.
      rw [view_groupMaps, ← mapM_findRegs, hregs] at hrings
      cases hrings

theorem agrees_ioctl (hr : Regs d) (hown : (d.ctrls c).findOwner own.fd = some own) (task : Nat)
    (call : Call) :
    Agrees d (d.callEvents c own task (exec (d.view c) (call.op d own.fd task)) call)
      (exec (d.view c) (call.op d own.fd task)) := by
  cases call with
  | mapHost =>
    exact agrees_map (extends_of_outcome hown (nvmMapHostMemory_outcome _ _ _ _ _))
  | mapDevice =>
    exact agrees_map (extends_of_outcome hown (nvmMapDeviceMemory_outcome _ _ _ _ _))
  | mapDeviceQueue =>
    exact agrees_map (extends_of_outcome hown (nvmMapDeviceQueueMemory_outcome _ _ _ _ _))
  | unmapHost vaddr ok => exact agrees_unmap hr .host true task vaddr ok
  | unmapDevice vaddr ok => exact agrees_unmap hr .device false task vaddr ok
  | unmapDeviceQueue vaddr ok => exact agrees_unmap hr .deviceQueue true task vaddr ok
  | createQueueGroup flags reserved copyIn kzallocOk idaError copyOut =>
    -- Also the group that is destroyed again has sent nothing.
    have hsilent := nvmCreateQueueGroup_silent (d.view c) own.fd flags reserved
      ⟨copyIn, kzallocOk, d.idaAnswer idaError, copyOut⟩
    exact agrees_nil hsilent.1 hsilent.2
  | destroyQueueGroup groupId ok => exact agrees_destroyQueueGroup hr hown groupId ok
  | addUserQueue req env => exact agrees_addUserQueue req env
  | setIoqNum req ok => exact agrees_nil rfl (nvmSetIoqNum_maps (d.view c) req ok)
  | setKernelIoqCap =>
    refine agrees_nil rfl ?_
    show (nvmSetKernelIoqCap _ _ _).1.maps = _
    rw [nvmSetKernelIoqCap]
    split <;> rfl
  | setShareReg =>
    refine agrees_nil rfl ?_
    show (nvmSetShareReg _ _ _).1.maps = _
    rw [nvmSetShareReg]
    split <;> rfl
  | clearIoqNum => exact agrees_nil rfl rfl

end Ioctls

/-- What an observer sees of a request is what its function returned. -/
theorem events_agree (hr : Regs d) {req : Request} (hreq : req.restarts req.ctrl = false) :
    Agrees d (d.events req) (d.result req) := by
  cases req with
  | devOpen c task ok =>
    have hresult : d.result (.devOpen c task ok) = snvmDevOpen (d.view c) d.next task ok := rfl
    rw [hresult, snvmDevOpen]
    split
    · exact agrees_nil rfl rfl
    split <;> exact agrees_nil rfl rfl
  | devRelease c fd =>
    have hresult : d.result (.devRelease c fd) = snvmDevRelease (d.view c) fd := rfl
    have hview : (d.view c).findOwner fd = (d.ctrls c).findOwner fd := rfl
    rw [hresult, Driver.events, snvmDevRelease, hview]
    cases hown : (d.ctrls c).findOwner fd with
    | none => exact agrees_nil rfl rfl
    | some own =>
      have hfd := findOwner_fd hown
      subst hfd
      refine ⟨?_, hr.closeEvents_desc c own⟩
      -- The pool is passed on from group to group, which the commands do not show.
      have hgroups := destroyGroups_eq (d.ctrls c).ndev.isSome own.groups (d.ctrls c).pool []
      exact (closeEvents_cmds d c own).trans (congrArg Prod.snd hgroups).symm
  | ioctl c fd task call =>
    rcases d.ioctl_cases c fd task call with ⟨hresult, hevents, -⟩ | ⟨own, rfl, hown⟩
    · rw [hevents, hresult]
      exact agrees_nil rfl rfl
    · rw [d.events_ioctl hown, d.result_ioctl hown]
      exact agrees_ioctl hr hown task call
  | deviceBind | deviceReset | deviceUnbind =>
    exact absurd hreq (by simp [Request.restarts, Request.ctrl])

/-- In every run, what an observer sees of the next request is what its function returned:
    the commands, and the maps that it leaves to the module. A request that restarts a
    controller leaves the module's maps as they are. -/
theorem run_agrees (reqs : List Request) (req : Request) :
    let d := run Driver.step Driver.init reqs
    (d.events req).filterMap Event.sentCmd = (d.result req).cmds ∧
      (d.step req).regs.map Registered.desc =
        if req.restarts req.ctrl then d.regs.map Registered.desc
        else (d.result req).state.maps := by
  intro d
  have hr : Regs d := (registry_run reqs names_init regs_init).2
  split
  next hreq => cases req <;> first | exact ⟨rfl, rfl⟩ | cases hreq
  next hreq =>
    have hagree := events_agree hr (Bool.eq_false_iff.mpr hreq)
    exact ⟨hagree.cmds, hagree.maps⟩

end Geminifs.Snvme
