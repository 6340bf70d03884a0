import Geminifs.Theory.Snvme.Adding

/-!
# What Requests Do to the Module

One inductive type says everything a request can do, with its events: which
maps it registers and releases, which commands it sends, and how it changes the
files and groups of its controller. `Driver.move` puts every request under one
of its cases.

## Main definitions

* `Still`: The files and groups are as they were.
* `Batch`: A batch of queues that reaches the controller.
* `Move`: What a request does.

## Theorems

* `addUserQueue_cases`, `addUserQueue_queues`: How an addition of queues goes.
* `Driver.move`: Every request does one of these things.
-/

namespace Geminifs.Snvme

open Runs

/-- At most one map was put behind those there were. -/
def Extends (own : Owner) (s s' : State) : Prop :=
  s'.maps = s.maps ∨ ∃ m, s'.maps = s.maps ++ [m] ∧ FreshMap own m

theorem Extends.refl (own : Owner) (s : State) : Extends own s s := .inl rfl

theorem extends_of_outcome {own : Owner} {s s' : State} (hown : s.findOwner own.fd = some own)
    (h : MapOutcome s own.fd s') : Extends own s s' := by
  cases h with
  | same => exact .refl own s
  | plain _ m hown' hm =>
    rw [Option.some.inj (hown'.symm.trans hown)] at hm
    exact .inr ⟨m, rfl, hm⟩
  | ring m _ _ hm => exact .inr ⟨m, rfl, hm own⟩

/-! ### Moves -/

/-- The files and groups of the controller and its device are as they were, and
    so are the group ids in use. -/
structure Still (d : Driver) (req : Request) : Prop where
  owners : (d.result req).state.owners = (d.ctrls req.ctrl).owners
  ndev : (d.result req).state.ndev = (d.ctrls req.ctrl).ndev
  ida : d.idaAfter req = d.groupIda

/-- A batch of queues that reaches the controller: its ids are allocated, and
    each pair has rings of fitting kinds among the maps of the group. -/
structure Batch (d : Driver) (c : Nat) (own : Owner) (g : QGroup) (pairs : List QueuePair)
    (ndev : NvmeDev) (p p' : UserQidPool) (qids : List Nat) (items : List Item) : Prop where
  alloc : Allocation (d.view c) own g pairs ndev p p' qids
  ids : items.map Prod.fst = qids
  sq : ∀ x ∈ items, SqRing (d.groupMaps own.fd g.groupId) x.2.1
  cq : ∀ x ∈ items, CqRing (d.groupMaps own.fd g.groupId) x.2.2

/-- What a request does to the files and groups of its controller and to the
    group ids in use, and its events. -/
inductive Move (d : Driver) (req : Request) : Prop where
  | idle (hstill : Still d req) (hevents : d.events req = [])
  | registered (own : Owner) (m : MapDesc) (hstill : Still d req)
      (hown : (d.ctrls req.ctrl).findOwner own.fd = some own) (hm : FreshMap own m)
      (hevents : d.events req = [.registered ⟨d.next, req.ctrl, own.fd, m⟩])
  | unmapped (r : Registered) (hstill : Still d req) (hreq : req.unmaps = true) (hr : r ∈ d.regs)
      (hevents : d.events req = [.unmapped r])
  | restarted (hreq : req.restarts req.ctrl = true)
      (howners : (d.result req).state.owners = (d.ctrls req.ctrl).owners)
      (hida : d.idaAfter req = d.groupIda) (hevents : d.events req = [.restarted req.ctrl])
  | opened (task : Nat)
      (howners : (d.result req).state.owners = (d.ctrls req.ctrl).owners ++ [⟨d.next, task, [], 0⟩])
      (hndev : (d.result req).state.ndev = (d.ctrls req.ctrl).ndev)
      (hida : d.idaAfter req = d.groupIda) (hevents : d.events req = [])
  | grouped (own : Owner) (groupId : Nat)
      (hown : (d.ctrls req.ctrl).findOwner own.fd = some own) (hfree : groupId ∉ d.groupIda)
      (hpos : groupId ≠ 0)
      (howners : (d.result req).state.owners =
        ((d.ctrls req.ctrl).updateOwner own.fd (Owner.addGroup groupId)).owners)
      (hndev : (d.result req).state.ndev = (d.ctrls req.ctrl).ndev)
      (hida : d.idaAfter req = groupId :: d.groupIda) (hevents : d.events req = [])
  | dropped (own : Owner) (g : QGroup) (hown : (d.ctrls req.ctrl).findOwner own.fd = some own)
      (hgroup : own.groups.find? (fun x => x.groupId == g.groupId) = some g)
      (howners : (d.result req).state.owners =
        ((d.ctrls req.ctrl).updateOwner own.fd (Owner.dropGroup g.groupId)).owners)
      (hndev : (d.result req).state.ndev = (d.ctrls req.ctrl).ndev)
      (hida : d.idaAfter req = d.groupIda.filter (· ≠ g.groupId))
      (hevents : d.events req = d.dropEvents req.ctrl own.fd g)
  | released (own : Owner) (hown : (d.ctrls req.ctrl).findOwner own.fd = some own)
      (howners : (d.result req).state.owners =
        (d.ctrls req.ctrl).owners.eraseP (fun o => o.fd == own.fd))
      (hndev : (d.result req).state.ndev = (d.ctrls req.ctrl).ndev)
      (hida : d.idaAfter req = d.groupIda.filter (fun k => own.groups.all (fun g => g.groupId ≠ k)))
      (hevents : d.events req = d.closeEvents req.ctrl own)
  | committed (own : Owner) (g : QGroup) (pairs : List QueuePair) (ndev : NvmeDev)
      (p p' : UserQidPool) (qids : List Nat) (items : List Item)
      (h : Batch d req.ctrl own g pairs ndev p p' qids items)
      (howners : (d.result req).state.owners =
        ((d.ctrls req.ctrl).updateOwner own.fd (Owner.putGroup (g.commit qids pairs))).owners)
      (hndev : (d.result req).state.ndev = (d.ctrls req.ctrl).ndev)
      (hida : d.idaAfter req = d.groupIda)
      (hevents : Sending req.ctrl (qsize ndev) items true (d.events req))
  | failed (own : Owner) (g : QGroup) (pairs : List QueuePair) (ndev : NvmeDev)
      (p p' : UserQidPool) (qids : List Nat) (items : List Item)
      (h : Batch d req.ctrl own g pairs ndev p p' qids items)
      (howners : (d.result req).state.owners = (d.ctrls req.ctrl).owners ∨
        (d.result req).state.owners =
          ((d.ctrls req.ctrl).updateOwner own.fd (Owner.putGroup (g.unwind qids pairs))).owners)
      (hndev : (d.result req).state.ndev = (d.ctrls req.ctrl).ndev)
      (hida : d.idaAfter req = d.groupIda)
      (hevents : Sending req.ctrl (qsize ndev) items false (d.events req))

/-- The id the allocator gives is at least 1 and was free. -/
theorem idaSimpleGet_some {ids : List Nat} {id : Nat} (h : idaSimpleGet ids = some id) :
    id ∉ ids ∧ id ≠ 0 := by
  have hfree := List.find?_some h
  have hmem := List.mem_of_find?_eq_some h
  rcases List.mem_map.mp hmem with ⟨k, -, rfl⟩
  exact ⟨of_decide_eq_true hfree, Nat.succ_ne_zero k⟩

theorem idaAnswer_ok {d : Driver} {idaError : Option Int} {id : Nat}
    (h : d.idaAnswer idaError = .ok id) : id ∉ d.groupIda ∧ id ≠ 0 := by
  cases idaError with
  | some => cases h
  | none =>
    rw [Driver.idaAnswer] at h
    split at h
    next k hk =>
      rw [← Except.ok.inj h]
      exact idaSimpleGet_some hk
    · cases h

section Ioctls

variable {d : Driver} {c : Nat} {own : Owner} (hown : (d.ctrls c).findOwner own.fd = some own)
  (task : Nat)

include hown

theorem Driver.result_ioctl (call : Call) :
    d.result (.ioctl c own.fd task call) = exec (d.view c) (call.op d own.fd task) := by
  rw [Driver.result, hown]
  rfl

theorem Driver.events_ioctl (call : Call) :
    d.events (.ioctl c own.fd task call) =
      d.callEvents c own task (exec (d.view c) (call.op d own.fd task)) call := by
  rw [← d.result_ioctl hown, Driver.events, hown]

omit hown

/-- An ioctl of a descriptor that is not open does nothing. -/
theorem Driver.ioctl_cases (d : Driver) (c fd task : Nat) (call : Call) :
    (d.result (.ioctl c fd task call) = (d.view c).refuse enodev ∧
      d.events (.ioctl c fd task call) = [] ∧ (d.ctrls c).findOwner fd = none) ∨
    ∃ own, own.fd = fd ∧ (d.ctrls c).findOwner own.fd = some own := by
  cases hown : (d.ctrls c).findOwner fd with
  | none =>
    refine .inl ⟨?_, ?_, rfl⟩
    · rw [Driver.result, hown]
      rfl
    · rw [Driver.events, hown]
  | some own =>
    obtain rfl := findOwner_fd hown
    exact .inr ⟨own, rfl, hown⟩

variable {req : Request}

theorem still_of_refuse {rc : Int} (hresult : d.result req = (d.view req.ctrl).refuse rc)
    (hida : d.idaAfter req = d.groupIda) : Still d req :=
  ⟨by rw [hresult]; rfl, by rw [hresult]; rfl, hida⟩

/-- An ioctl that registers a map, or fails to. -/
theorem move_map (hown : (d.ctrls req.ctrl).findOwner own.fd = some own) (hstill : Still d req)
    (hext : Extends own (d.view req.ctrl) (d.result req).state)
    (hevents : d.events req = d.mapEvents req.ctrl own.fd (d.result req)) : Move d req := by
  rw [Driver.mapEvents] at hevents
  have hlen : (d.view req.ctrl).maps.length = d.regs.length := List.length_map _
  rcases hext with hsame | ⟨m, hnew, hm⟩
  · refine .idle hstill ?_
    rw [hevents, hsame, ← hlen, List.drop_length]
    rfl
  · refine .registered own m hstill hown hm ?_
    rw [hevents, hnew, ← hlen, List.drop_left]
    rfl

/-- An ioctl that releases the map it finds, if it finds one. -/
theorem move_unmap {list : MapList} {task vaddr : Nat} {copyIn : Bool} (hstill : Still d req)
    (hreq : req.unmaps = true) (hevents : d.events req = d.unmapEvents list task vaddr copyIn) :
    Move d req := by
  rw [Driver.unmapEvents] at hevents
  split at hevents
  · cases hfind : d.regs.find? (fun r => mapFind list task vaddr r.desc) with
    | none =>
      rw [hfind] at hevents
      exact .idle hstill hevents
    | some r =>
      rw [hfind] at hevents
      exact .unmapped r hstill hreq (List.mem_of_find?_eq_some hfind) hevents
  · exact .idle hstill hevents

/-- How `NVM_CREATE_QUEUE_GROUP` goes. -/
def GroupOutcome (s : State) (own : Owner) (env : CreateGroupEnv) (r : Result) : Prop :=
  r.state.ndev = s.ndev ∧ ((∃ rc, r.reply = .ret rc ∧ r.state.owners = s.owners) ∨
      ∃ groupId maxQueues, env.ida = .ok groupId ∧ r.reply = .group groupId maxQueues ∧
        r.state.owners = (s.updateOwner own.fd (Owner.addGroup groupId)).owners)

theorem nvmCreateQueueGroup_outcome {s : State} (hown : s.findOwner own.fd = some own)
    (flags : Nat) (reserved : List Nat) (env : CreateGroupEnv) :
    GroupOutcome s own env (nvmCreateQueueGroup s own.fd flags reserved env) := by
  unfold nvmCreateQueueGroup
  rw [hown]
  dsimp only
  iterate 5
    split
    · exact ⟨rfl, .inl ⟨_, rfl, rfl⟩⟩
  cases hida : env.ida with
  | error => exact ⟨rfl, .inl ⟨_, rfl, rfl⟩⟩
  | ok newId =>
    dsimp only
    split
    · exact ⟨rfl, .inr ⟨newId, _, hida, rfl, rfl⟩⟩
    · exact ⟨rfl, .inl ⟨_, rfl, rfl⟩⟩

include hown

theorem move_createQueueGroup (flags : Nat) (reserved : List Nat) (copyIn kzallocOk : Bool)
    (idaError : Option Int) (copyOut : Bool) : Move d (.ioctl c own.fd task
      (.createQueueGroup flags reserved copyIn kzallocOk idaError copyOut)) := by
  have hresult : d.result (.ioctl c own.fd task
      (.createQueueGroup flags reserved copyIn kzallocOk idaError copyOut)) =
        nvmCreateQueueGroup (d.view c) own.fd flags reserved
          ⟨copyIn, kzallocOk, d.idaAnswer idaError, copyOut⟩ := d.result_ioctl hown task _
  have hevents : d.events (.ioctl c own.fd task
      (.createQueueGroup flags reserved copyIn kzallocOk idaError copyOut)) = [] := by
    rw [d.events_ioctl hown]
    rfl
  rcases nvmCreateQueueGroup_outcome (s := d.view c) hown flags reserved
    ⟨copyIn, kzallocOk, d.idaAnswer idaError, copyOut⟩ with
    ⟨hndev, ⟨_, hreply, howners⟩ | ⟨groupId, _, hida, hreply, howners⟩⟩
  · refine .idle ⟨?_, ?_, ?_⟩ hevents
    · rw [hresult]
      exact howners
    · rw [hresult]
      exact hndev
    · rw [Driver.idaAfter, hresult, hreply]
  · -- The id is the one the allocator gave, so it was free.
    have hfree := idaAnswer_ok hida
    refine .grouped own groupId hown hfree.1 hfree.2 ?_ ?_ ?_ hevents
    · rw [hresult]
      exact howners
    · rw [hresult]
      exact hndev
    · rw [Driver.idaAfter, hresult, hreply]

theorem move_destroyQueueGroup (groupId : Nat) (copyIn : Bool) :
    Move d (.ioctl c own.fd task (.destroyQueueGroup groupId copyIn)) := by
  have hresult : d.result (.ioctl c own.fd task (.destroyQueueGroup groupId copyIn)) =
      nvmDestroyQueueGroup (d.view c) own.fd groupId copyIn := d.result_ioctl hown task _
  have hevents := d.events_ioctl hown task (.destroyQueueGroup groupId copyIn)
  rw [Driver.callEvents] at hevents
  have hview : (d.view c).findOwner own.fd = some own := hown
  unfold nvmDestroyQueueGroup at hresult
  rw [hview] at hresult
  dsimp only at hresult
  cases hgroup : own.findQgroup groupId with
  | none =>
    rw [hgroup] at hresult hevents
    have hida : d.idaAfter (.ioctl c own.fd task (.destroyQueueGroup groupId copyIn)) =
        d.groupIda := by
      rw [Driver.idaAfter, hown]
      simp [hgroup]
    -- Whichever check fails, nothing happens.
    refine .idle ?_ hevents
    split at hresult
    · exact still_of_refuse hresult hida
    split at hresult
    · exact still_of_refuse hresult hida
    · exact still_of_refuse hresult hida
  | some g =>
    rw [hgroup] at hresult hevents
    cases copyIn with
    | false =>
      refine .idle (still_of_refuse hresult ?_) hevents
      rw [Driver.idaAfter, hown]
      simp
    | true =>
      have hid := findQgroup_eq_some hgroup
      -- No group is found under 0, so the check for it has passed.
      have hpos : ¬ groupId = 0 := by
        rintro rfl
        cases hgroup
      rw [if_neg hpos] at hresult
      refine .dropped own g hown hid.2 ?_ ?_ ?_ hevents
      · rw [hresult]
        rfl
      · rw [hresult]
        rfl
      · rw [Driver.idaAfter, hown, hid.1]
        simp [hgroup]

omit hown

/-- The maps that the functions of a controller find linked to a group. -/
theorem view_groupMaps (d : Driver) (c fd groupId : Nat) :
    (d.view c).maps.filter (fun m => m.link = .group fd groupId) =
      (d.groupMaps fd groupId).map Registered.desc := List.filter_map

/-- How `NVM_ADD_USER_QUEUE` on an open file goes: it is rejected with an error
    before anything is sent, or its batch reaches the controller. -/
inductive AddReport (d : Driver) (c : Nat) (own : Owner) (req : Request) (add : AddReq)
    (env : AddEnv) : Prop where
  | rejected (rc : Int) (hrc : rc < 0) (hstill : Still d req) (hevents : d.events req = [])
      (hreply : (d.result req).reply = .ret rc)
  | reached (g : QGroup) (ndev : NvmeDev) (p p' : UserQidPool) (qids : List Nat)
      (items : List Item) (h : Batch d c own g add.pairs ndev p p' qids items)
      (hndev : (d.result req).state.ndev = (d.ctrls c).ndev)
      (hend : BatchEnd c (d.view c) own g ndev add.pairs env qids items (d.result req)
        (d.events req))

include hown

/-- The same with the rings: the items of the batch are its ids and, in the order of
    the pairs, the rings that were found for them. -/
theorem addUserQueue_cases {req : AddReq} {env : AddEnv} {r : Request}
    (hr : r = .ioctl c own.fd task (.addUserQueue req env)) :
    (∃ rc, rc < 0 ∧ Still d r ∧ d.events r = [] ∧ (d.result r).reply = .ret rc) ∨
    ∃ g ndev p p' qids rings, own.findQgroup req.groupId = some g ∧
      req.pairs.mapM (fun pr => findRegs pr none none (d.groupMaps own.fd req.groupId)) =
        some rings ∧ qids.length = rings.length ∧
      Batch d c own g req.pairs ndev p p' qids (qids.zip rings) ∧
      (d.result r).state.ndev = (d.ctrls c).ndev ∧
      BatchEnd c (d.view c) own g ndev req.pairs env qids (qids.zip rings) (d.result r)
        (d.events r) := by
  have hresult : d.result r = nvmAddUserQueue (d.view c) own.fd req env :=
    hr ▸ d.result_ioctl hown task _
  have hevents : d.events r = d.callEvents c own task
      (nvmAddUserQueue (d.view c) own.fd req env) (.addUserQueue req env) :=
    hr ▸ d.events_ioctl hown task _
  rw [Driver.callEvents] at hevents
  have hsilent : (nvmAddUserQueue (d.view c) own.fd req env).cmds = [] → d.events r = [] := by
    intro hcmds
    rw [hevents, hcmds]
    split
    next rings _ => cases rings <;> rfl
    · rfl
  subst hr
  cases nvmAddUserQueue_outcome (d.view c) own.fd req env with
  | refused rc hrc heq =>
    refine .inl ⟨rc, hrc, still_of_refuse (hresult.trans heq) rfl, hsilent ?_, ?_⟩
    · rw [heq]
      rfl
    · rw [hresult, heq]
      rfl
  | exhausted _ _ _ _ _ _ _ heq =>
    refine .inl ⟨eagain, by decide, ⟨?_, ?_, rfl⟩, hsilent ?_, ?_⟩
    · rw [hresult, heq]
      rfl
    · rw [hresult, heq]
      rfl
    · rw [heq]
      rfl
    · rw [hresult, heq]
      rfl
  | reached own' g ndev p p' qids rings hfd hgroup hrings halloc heq =>
    have hsame : own' = own := by
      have hfound := halloc.owner
      rw [hfd] at hfound
      exact Option.some.inj (hfound.symm.trans hown)
    subst hsame
    -- The rings that were found, with their identity.
    rw [view_groupMaps, ← mapM_findRegs] at hrings
    rcases Option.map_eq_some_iff.mp hrings with ⟨regs, hregs, rfl⟩
    rw [hregs] at hevents
    have hfit := forall_of_mapM (fun _ x hx => findRegs_induct
      (P := SqRing (d.groupMaps own'.fd req.groupId))
      (Q := CqRing (d.groupMaps own'.fd req.groupId)) (fun r hr h => ⟨hr, h.2⟩)
      (fun r hr h => ⟨hr, h.2⟩) (fun r h => absurd h (by simp)) (fun r h => absurd h (by simp)) hx)
      hregs
    have hlen : qids.length = regs.length := by
      have hall := UserQidPool.allocLoop_length halloc.alloc
      rw [List.length_nil] at hall
      omega
    have hid := (findQgroup_eq_some hgroup).1
    have hbatch : Batch d c own' g req.pairs ndev p p' qids (qids.zip regs) := by
      refine ⟨halloc, List.map_fst_zip (by omega), fun x hx => ?_, fun x hx => ?_⟩
      · rw [hid]
        exact (hfit.2 x.2 (List.of_mem_zip hx).2).1
      · rw [hid]
        exact (hfit.2 x.2 (List.of_mem_zip hx).2).2
    refine .inr ⟨g, ndev, p, p', qids, regs, hgroup, hregs, hlen, hbatch, ?_, ?_⟩
    · rw [hresult]
      exact (ndev_effect rfl (exec_effect (d.view c) (.addUserQueue own'.fd req env)) :)
    · rw [hevents, hresult]
      exact addPairs_ends c (d.view c) own' g ndev p' req env hlen heq

theorem addUserQueue_report (req : AddReq) (env : AddEnv) :
    AddReport d c own (.ioctl c own.fd task (.addUserQueue req env)) req env := by
  rcases addUserQueue_cases hown task rfl with ⟨rc, hrc, hstill, hevents, hreply⟩ |
    ⟨g, ndev, p, p', qids, _, -, -, -, hbatch, hndev, hend⟩
  · exact .rejected rc hrc hstill hevents hreply
  · exact .reached g ndev p p' qids _ hbatch hndev hend

omit hown in
/-- An addition of queues that returns them: its batch was committed. -/
theorem addUserQueue_queues {fd task : Nat} {req : AddReq} {env : AddEnv}
    {out : List (Nat × Nat × Nat)}
    (hok : (d.result (.ioctl c fd task (.addUserQueue req env))).reply = .queues out) :
    ∃ own g ndev p p' qids rings, own.fd = fd ∧ own.findQgroup req.groupId = some g ∧
      req.pairs.mapM (fun pr => findRegs pr none none (d.groupMaps fd req.groupId)) = some rings ∧
      qids.length = rings.length ∧
      Batch d c own g req.pairs ndev p p' qids (qids.zip rings) ∧
      (d.result (.ioctl c fd task (.addUserQueue req env))).state.owners =
        ((d.view c).updateOwner own.fd (Owner.putGroup (g.commit qids req.pairs))).owners ∧
      d.events (.ioctl c fd task (.addUserQueue req env)) =
        (qids.zip rings).flatMap (madeEvents c (qsize ndev)) ∧
      out = qids.map (doorbells ndev) := by
  rcases d.ioctl_cases c fd task _ with ⟨hresult, -⟩ | ⟨own, rfl, hown⟩
  · rw [hresult] at hok
    cases hok
  · rcases addUserQueue_cases hown task rfl with ⟨rc, -, -, -, hreply⟩ |
      ⟨g, ndev, p, p', qids, rings, hgroup, hrings, hlen, hb, -, hend⟩
    · exact absurd (hreply.symm.trans hok) (by simp)
    · cases hend with
      | failed _ _ _ hreply =>
        exact absurd (hreply.symm.trans hok) (by simp)
      | committed howners hevents hreply =>
        have hsent : ∀ {es}, Sending c (qsize ndev) (qids.zip rings) true es →
            es = (qids.zip rings).flatMap (madeEvents c (qsize ndev)) := fun h => by
          cases h
          rfl
        exact ⟨own, g, ndev, p, p', qids, rings, rfl, hgroup, hrings, hlen, hb, howners,
          hsent hevents, Reply.queues.inj (hok.symm.trans hreply)⟩

theorem move_addUserQueue (req : AddReq) (env : AddEnv) :
    Move d (.ioctl c own.fd task (.addUserQueue req env)) := by
  cases addUserQueue_report hown task req env with
  | rejected _ _ hstill hevents => exact .idle hstill hevents
  | reached g ndev p p' qids items hbatch hndev hend =>
    cases hend with
    | committed howners hevents =>
      exact .committed own g req.pairs ndev p p' qids items hbatch howners hndev rfl hevents
    | failed _ howners hevents =>
      exact .failed own g req.pairs ndev p p' qids items hbatch howners hndev rfl hevents

/-- Every ioctl of an open file. -/
theorem move_ioctl (call : Call) : Move d (.ioctl c own.fd task call) := by
  have hresult := d.result_ioctl hown task call
  have hevents := d.events_ioctl hown task call
  rw [← hresult] at hevents
  have hstill : Framed (d.view c) (exec (d.view c) (call.op d own.fd task)).state →
      d.idaAfter (.ioctl c own.fd task call) = d.groupIda →
      Still d (.ioctl c own.fd task call) := fun hframe hida => by
    rw [← hresult] at hframe
    exact ⟨hframe.owners, hframe.ndev, hida⟩
  have hmap : MapOutcome (d.view c) own.fd (exec (d.view c) (call.op d own.fd task)).state →
      d.idaAfter (.ioctl c own.fd task call) = d.groupIda →
      d.events (.ioctl c own.fd task call) =
        d.mapEvents c own.fd (d.result (.ioctl c own.fd task call)) →
      Move d (.ioctl c own.fd task call) := fun h hida hevents => by
    refine move_map hown (hstill h.framed hida) ?_ hevents
    rw [hresult]
    exact extends_of_outcome hown h
  -- The ioctls without events keep the frame; the others have a lemma each.
  cases call with
  | mapHost =>
    exact hmap (nvmMapHostMemory_outcome _ _ _ _ _) rfl hevents
  | mapDevice =>
    exact hmap (nvmMapDeviceMemory_outcome _ _ _ _ _) rfl hevents
  | mapDeviceQueue =>
    exact hmap (nvmMapDeviceQueueMemory_outcome _ _ _ _ _) rfl hevents
  | unmapHost | unmapDevice | unmapDeviceQueue =>
    exact move_unmap (hstill (unmapMemory_framed _ _ _ _ _ _) rfl) rfl hevents
  | createQueueGroup flags reserved copyIn kzallocOk idaError copyOut =>
    exact move_createQueueGroup hown task flags reserved copyIn kzallocOk idaError copyOut
  | destroyQueueGroup groupId ok => exact move_destroyQueueGroup hown task groupId ok
  | addUserQueue req env => exact move_addUserQueue hown task req env
  | setIoqNum => exact .idle (hstill (nvmSetIoqNum_framed _ _ _) rfl) hevents
  | setKernelIoqCap =>
    exact .idle (hstill (nvmSetKernelIoqCap_framed _ _ _) rfl) hevents
  | setShareReg => exact .idle (hstill (nvmSetShareReg_framed _ _ _) rfl) hevents
  | clearIoqNum => exact .idle (hstill ⟨rfl, rfl, rfl⟩ rfl) hevents

end Ioctls

/-- Every request does one of the things that `Move` lists. -/
theorem Driver.move (d : Driver) (req : Request) : Move d req := by
  cases req with
  | devOpen c task ok =>
    have hresult : d.result (.devOpen c task ok) = snvmDevOpen (d.view c) d.next task ok := rfl
    unfold snvmDevOpen at hresult
    split at hresult
    · exact .idle (still_of_refuse hresult rfl) rfl
    split at hresult
    · exact .idle (still_of_refuse hresult rfl) rfl
    · refine .opened task ?_ ?_ rfl rfl
      · rw [hresult]
        rfl
      · rw [hresult]
        rfl
  | devRelease c fd =>
    have hresult : d.result (.devRelease c fd) = snvmDevRelease (d.view c) fd := rfl
    unfold snvmDevRelease at hresult
    have hview : (d.view c).findOwner fd = (d.ctrls c).findOwner fd := rfl
    rw [hview] at hresult
    cases hown : (d.ctrls c).findOwner fd with
    | none =>
      rw [hown] at hresult
      refine .idle (still_of_refuse hresult ?_) ?_
      · rw [Driver.idaAfter, hown]
      · rw [Driver.events, hown]
    | some own =>
      have hfd := findOwner_fd hown
      subst hfd
      rw [hown] at hresult
      refine .released own hown ?_ ?_ ?_ ?_
      · rw [hresult]
        rfl
      · rw [hresult]
        rfl
      · rw [Driver.idaAfter, hown]
      · rw [Driver.events, hown]
        rfl
  | ioctl c fd task call =>
    rcases d.ioctl_cases c fd task call with ⟨hresult, hevents, hown⟩ | ⟨own, rfl, hown⟩
    · refine .idle (still_of_refuse hresult ?_) hevents
      cases call with
      | createQueueGroup =>
        rw [Driver.idaAfter, hresult]
        rfl
      | destroyQueueGroup => rw [Driver.idaAfter, hown]
      | _ => rfl
    · exact move_ioctl hown task call
  | deviceBind c env =>
    refine .restarted (decide_eq_true rfl) ?_ rfl rfl
    show (snvmDeviceBind (d.ownView c) env).1.owners = _
    rw [snvmDeviceBind]
    split <;> rfl
  | deviceReset => exact .restarted (decide_eq_true rfl) rfl rfl rfl
  | deviceUnbind c =>
    refine .restarted (decide_eq_true rfl) ?_ rfl rfl
    show (snvmDeviceUnbind (d.ownView c)).1.owners = _
    unfold snvmDeviceUnbind
    split <;> rfl

end Geminifs.Snvme
