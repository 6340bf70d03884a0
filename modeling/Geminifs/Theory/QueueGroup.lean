import Geminifs.Core.QueueGroup
import Geminifs.Theory.Snvme.Protocol

/-!
# Queue Groups and What the Controller Has

A queue group of the GPU against the queues of the controller. The constructor of
a group is followed from its first ioctl to the last; up to `NVM_ADD_USER_QUEUE`
no command is sent, so what the controller was told is what that call sent.

The call can end in three ways for the library. An error is an error. If all
commands are answered with 0, the pairs exist and their ids and doorbells are
returned. But if the first other answer is positive, which is how a status of the
controller reaches the module, the module takes everything back and returns that
number, and the library, which looks for negative numbers, reports success.

## Main definitions

* `Honest`: The first answer of the controller that is not 0, if any, is an error
  of the module.
* `Ready`: A session in which nothing has been sent yet.
* `Added`: The three ways.
* `Real`: All pairs exist, and what is returned are their ids and doorbells.
* `Completed`: A constructor that completed.
* `SizesAgree`: A pair of the GPU has the sizes of the controller's queues.

## Theorems

* `added`: `nvm_add_user_queue` ends in one of the three ways.
* `newQueueGroup_ok`: What the constructor did if it completed.
* `success_is_real_iff`: Success is real exactly if the controller's answers are
  honest.
* `queue_sizes_agree_iff`: The sizes agree exactly if also the reported depth is
  not above the requested one.
-/

namespace Geminifs.LibNvm

open Snvme Runs

variable {s : Session} {c : NvmCtrl}

variable {ndev : Option NvmeDev} {queueDepth groupId numQueues blockSize : Nat} {env : InitEnv}
  {s' : Session} {g : QueueGroup}

/-! ### Sessions -/

/-- The module is in order, the controller's device is known, and no command was
    sent. -/
structure Ready (c : NvmCtrl) (ndev : Option NvmeDev) (s : Session) : Prop where
  sound : Sound s.driver
  grants : GrantsBelow s.driver
  ndev : (s.driver.ctrls c.ctrl).ndev = ndev
  quiet : ∀ key, sentTo key s.events = []

/-- An ioctl keeps the module in order. -/
theorem Ready.ioctl (h : Ready c ndev s) (call : Call)
    (hquiet : ∀ key, sentTo key (s.driver.events (.ioctl c.ctrl c.fd c.task call)) = []) :
    Ready c ndev (s.ioctl c call).1 := by
  have hdev : ∀ k, ((s.ioctl c call).1.driver.ctrls k).ndev = (s.driver.ctrls k).ndev := fun k =>
    have hbound : Request.restarts k (.ioctl c.ctrl c.fd c.task call) = false := rfl
    step_ndev hbound
  refine ⟨sound_step _ h.sound h.grants, fun k => ?_, (hdev c.ctrl).trans h.ndev, fun key => ?_⟩
  · rw [GrantBelow, hdev k]
    exact h.grants k
  · rw [Session.ioctl, sentTo_append, h.quiet key, hquiet key]
    rfl

/-- An ioctl of the handle, by whether its file is open. -/
theorem events_call (s : Session) (c : NvmCtrl) (call : Call) :
    s.driver.events (.ioctl c.ctrl c.fd c.task call) = [] ∨ ∃ own,
      s.driver.events (.ioctl c.ctrl c.fd c.task call) = s.driver.callEvents c.ctrl own c.task
        (s.driver.result (.ioctl c.ctrl c.fd c.task call)) call := by
  rw [Driver.events]
  cases (s.driver.ctrls c.ctrl).findOwner c.fd with
  | none => exact .inl rfl
  | some own => exact .inr ⟨own, rfl⟩

section

variable (h : Ready c ndev s)

include h

/-- Making a group sends nothing. -/
theorem Ready.nvmCreateGroup (env : GroupEnv) : Ready c ndev (nvmCreateGroup s c env).1 := by
  have hready := h.ioctl
    (.createQueueGroup 0 [0, 0, 0, 0, 0] env.copyIn env.kzallocOk env.idaError env.copyOut)
    (fun key => by
      rcases events_call s c (.createQueueGroup 0 [0, 0, 0, 0, 0] env.copyIn env.kzallocOk
        env.idaError env.copyOut) with heq | ⟨own, heq⟩ <;> rw [heq] <;> rfl)
  unfold LibNvm.nvmCreateGroup
  dsimp only
  split <;> exact hready

/-- Registering a ring sends nothing. -/
theorem Ready.nvmDmaMapRingDevice (groupId vaddr size : Nat) (isCq : Bool)
    (env : RingEnv) : Ready c ndev (nvmDmaMapRingDevice s c groupId vaddr size isCq env).1 := by
  have hready : ∀ req : MapReq, Ready c ndev (s.ioctl c (.mapDevice req env.map)).1 := by
    intro req
    refine h.ioctl _ fun key => ?_
    rcases events_call s c (.mapDevice req env.map) with heq | ⟨_, heq⟩
    · rw [heq]
      rfl
    · rw [heq]
      show sentTo key (s.driver.mapEvents _ _ _) = []
      rw [Driver.mapEvents, sentTo, List.filterMap_map]
      exact List.filterMap_eq_nil_iff.mpr fun _ _ => rfl
  -- The library checks its arguments before the ioctl, and its answer after it.
  unfold LibNvm.nvmDmaMapRingDevice
  dsimp only
  iterate 3
    split
    · exact h
  split <;> exact hready _

theorem Ready.createRingDma (size groupId : Nat) (isCq : Bool) (env : DmaEnv) :
    Ready c ndev (createRingDma s c size groupId isCq env).1 := by
  unfold LibNvm.createRingDma
  split
  · exact h
  · dsimp only
    split
    · exact h.nvmDmaMapRingDevice _ _ _ _ _
    · split <;> exact h.nvmDmaMapRingDevice _ _ _ _ _

theorem Ready.newQueuePair (qpId queueDepth groupId : Nat) (env : PairEnv) :
    Ready c ndev (newQueuePair s c qpId queueDepth groupId env).1 := by
  unfold LibNvm.newQueuePair
  iterate 2
    split
    · exact h
  dsimp only
  split
  · exact h.createRingDma _ _ _ _
  · split <;> exact (h.createRingDma _ _ _ _).createRingDma _ _ _ _

end

theorem Ready.newQueuePairs (queueDepth groupId : Nat) (env : Nat → PairEnv) (i n : Nat)
    (qps : List GpuQueuePair) (h : Ready c ndev s) :
    Ready c ndev (newQueuePairs c queueDepth groupId env i n s qps).1 := by
  induction n generalizing i s qps with
  | zero => exact h
  | succ _ ih =>
    have hpair := h.newQueuePair i queueDepth groupId (env i)
    rw [LibNvm.newQueuePairs]
    split
    · exact hpair
    · exact ih _ _ hpair

/-! ### Pairs -/

/-- A pair as its constructor leaves it: its sizes are the lesser of the two
    depths, and its rings have room for them. -/
structure Built (c : NvmCtrl) (queueDepth : Nat) (qp : GpuQueuePair) : Prop where
  sqQs : qp.sqQs = u32 (min queueDepth c.qDepth)
  cqQs : qp.cqQs = u32 (min queueDepth c.qDepth)
  sqRoom : min queueDepth c.qDepth * sizeofCmd ≤ qp.sqMem.nPages * gpuPageSize
  cqRoom : min queueDepth c.qDepth * sizeofCpl ≤ qp.cqMem.nPages * gpuPageSize

variable {i : Nat} (size : Nat)

theorem le_nvmPageAlign : size ≤ nvmPageAlign size gpuPageSize := by
  rw [nvmPageAlign, gpuPageSize]
  omega

/-- A ring has room for what it was asked to hold. -/
theorem createRingDma_room {size : Nat} {isCq : Bool} {env : DmaEnv} {mem : RingMem}
    (h : (createRingDma s c size groupId isCq env).2 = .ok mem) :
    size ≤ mem.nPages * gpuPageSize := by
  unfold createRingDma at h
  split at h
  · cases h
  · dsimp only at h
    split at h
    · cases h
    next mem' hmap =>
      split at h
      · rw [← Except.ok.inj h]
        -- The number of pages is computed from the size before the memory is registered.
        unfold nvmDmaMapRingDevice at hmap
        dsimp only at hmap
        iterate 4
          split at hmap
          · cases hmap
        rw [← Except.ok.inj hmap]
        show size ≤ nvmPageAlign size gpuPageSize / gpuPageSize * gpuPageSize
        rw [nvmPageAlign, gpuPageSize]
        omega
      · cases h

theorem newQueuePair_built {qpId : Nat} {env : PairEnv} {qp : GpuQueuePair}
    (h : (newQueuePair s c qpId queueDepth groupId env).2 = .ok qp) :
    c.qDepth ≠ 0 ∧ Built c queueDepth qp := by
  unfold newQueuePair at h
  split_ifs at h with _ hdepth
  dsimp only at h
  split at h
  · cases h
  next sqMem hsq =>
    split at h
    · cases h
    next cqMem hcq =>
      -- Both rings are rounded up to pages twice, which can only add room.
      rw [← Except.ok.inj h]
      exact ⟨hdepth, rfl, rfl, Nat.le_trans (le_nvmPageAlign _) (createRingDma_room hsq),
        Nat.le_trans (le_nvmPageAlign _) (createRingDma_room hcq)⟩

/-- The loop builds as many pairs as it is asked for. -/
theorem newQueuePairs_built {env : Nat → PairEnv} {n : Nat} {qps qps' : List GpuQueuePair}
    (hqps : ∀ qp ∈ qps, c.qDepth ≠ 0 ∧ Built c queueDepth qp)
    (h : (newQueuePairs c queueDepth groupId env i n s qps).2 = .ok qps') :
    qps'.length = qps.length + n ∧ ∀ qp ∈ qps', c.qDepth ≠ 0 ∧ Built c queueDepth qp := by
  induction n generalizing i s qps with
  | zero =>
    rw [← Except.ok.inj h]
    exact ⟨rfl, hqps⟩
  | succ _ ih =>
    rw [newQueuePairs] at h
    split at h
    · cases h
    next qp hqp =>
      -- The pair that was just built joins those before it.
      have hrest := ih (List.forall_mem_append.mpr
        ⟨hqps, List.forall_mem_singleton.mpr (newQueuePair_built hqp)⟩) h
      refine ⟨?_, hrest.2⟩
      rw [hrest.1, List.length_append, List.length_singleton]
      omega

variable {out : List (Nat × Nat × Nat)}

/-- At the end every pair gets what the module returned under its number. -/
theorem finishPairs_ok {env : Nat → FinishEnv}
    {qps done : List GpuQueuePair} (h : finishPairs env out i qps = .ok done) :
    done = (qps.zipIdx i).map (fun x => x.1.place (out.getD x.2 (0, 0, 0))) := by
  induction qps generalizing i done with
  | nil =>
    rw [← Except.ok.inj h]
    rfl
  | cons _ _ ih =>
    rw [finishPairs] at h
    split_ifs at h
    split at h
    · cases h
    next rest hrest =>
      rw [← Except.ok.inj h, ih hrest]
      rfl

/-! ### Adding queues -/

/-- The first answer of the controller that is not 0, if there is one, is
    negative: an error of the module and not a status of the controller. -/
def Honest (env : AddEnv) (nr : Nat) : Prop := ∀ rc, firstRefusal env 0 nr = some rc → rc < 0

/-- Every pair that was asked for has its two queues, which this call made, and
    what is returned are their ids and doorbells. -/
def Real (c : NvmCtrl) (ndev : Option NvmeDev) (nr : Nat) (es : List Event)
    (out : List (Nat × Nat × Nat)) : Prop :=
  ∃ dev ∈ ndev, ∃ qids : List Nat, qids.length = nr ∧ qids.Nodup ∧
    out = qids.map (doorbells dev) ∧ ∀ q ∈ qids, letters (c.ctrl, q) es = made

/-- How `nvm_add_user_queue` ends: with an error, with all pairs made, or with
    none although it reports success. -/
inductive Added (s : Session) (c : NvmCtrl) (req : AddReq) (out : List (Nat × Nat × Nat))
    (env : AddEnv) : Session × Int × List (Nat × Nat × Nat) → Prop where
  | error {s' : Session} {status : Int} {out' : List (Nat × Nat × Nat)} (h : status ≠ 0) :
      Added s c req out env (s', status, out')
  | real {s' : Session} (ndev : NvmeDev) (qids : List Nat)
      (hdev : (s.driver.ctrls c.ctrl).ndev = some ndev) (hlen : qids.length = req.pairs.length)
      (hnodup : qids.Nodup) (hshort : ∀ q ∈ qids, q < 65536)
      (hanswers : firstRefusal env 0 req.pairs.length = none)
      (hmade : ∀ q ∈ qids, ∃ x, sentTo (c.ctrl, q) s'.events =
        sentTo (c.ctrl, q) s.events ++ madeSent (qsize ndev) x) :
      Added s c req out env (s', 0, qids.map (doorbells ndev))
  | phantom {s' : Session} (rc : Int) (hrc : 0 < rc)
      (hanswers : firstRefusal env 0 req.pairs.length = some rc)
      (hnone : ∀ key, ∃ w, sentTo key s'.events = sentTo key s.events ++ w ∧
        w.map Sent.letter ≠ made) :
      Added s c req out env (s', 0, out)

theorem added (h : Ready c ndev s) (req : AddReq) (out : List (Nat × Nat × Nat)) (env : AddEnv) :
    Added s c req out env (nvmAddUserQueue s c req out env) := by
  unfold nvmAddUserQueue Session.ioctl
  dsimp only
  rcases s.driver.ioctl_cases c.ctrl c.fd c.task _ with ⟨hresult, -⟩ | ⟨own, hfd, hown⟩
  · rw [hresult]
    exact .error (by decide)
  · have hreport := addUserQueue_report hown c.task req env
    rw [hfd] at hreport
    cases hreport with
    | rejected _ hrc _ _ hreply =>
      rw [hreply, errno, if_pos hrc]
      exact .error (by omega)
    | reached _ dev _ _ qids _ hbatch _ hend =>
      rcases hbatch.fresh h.sound h.grants with ⟨hnodup, hlen, -⟩
      have hids := hbatch.ids_nodup h.sound h.grants
      cases hend with
      | committed _ hevents hreply hanswers =>
        rw [hreply]
        rw [hlen] at hanswers
        refine .real dev qids hbatch.alloc.dev hlen hnodup (hbatch.ids_short h.sound h.grants)
          hanswers (fun q hq => ?_)
        rw [← hbatch.ids] at hq
        rcases hevents.made_of_mem hids hq with ⟨x, hsent⟩
        exact ⟨x, by rw [sentTo_append, hsent]⟩
      | failed rc _ hevents hreply hanswers =>
        rw [hreply, errno]
        rw [hlen] at hanswers
        by_cases hrc : rc < 0
        · rw [if_pos hrc]
          exact .error (by omega)
        · -- A result that is not negative is no error to the library.
          rw [if_neg hrc]
          have hrefusal : firstRefusal env 0 req.pairs.length = some rc := by
            rcases hanswers with hanswers | ⟨-, rfl⟩
            · exact hanswers
            · exact absurd (by decide) hrc
          have hne := firstRefusal_ne_zero hrefusal
          exact .phantom rc (by omega) hrefusal fun key =>
            ⟨_, sentTo_append _ _ _, hevents.letters_ne_made hids key⟩

/-! ### The constructor -/

/-- What `init_` did with its group if it completed: as many pairs as the limits
    allow were built before anything was sent, `nvm_add_user_queue` reported success
    for all of them, and each pair got what was returned under its number. -/
structure Completed (c : NvmCtrl) (ndev : Option NvmeDev) (groupId maxQ numQueues queueDepth : Nat)
    (env : InitEnv) (s₁ s' : Session) (qps : List GpuQueuePair) (out : List (Nat × Nat × Nat))
    (done : List GpuQueuePair) : Prop where
  ready : Ready c ndev s₁
  length : qps.length = min (min maxQ (qpoolRoom c)) numQueues
  nonempty : qps ≠ []
  built : ∀ qp ∈ qps, c.qDepth ≠ 0 ∧ Built c queueDepth qp
  added : nvmAddUserQueue s₁ c ⟨groupId, 0, [0, 0, 0, 0, 0],
    qps.map (fun qp => ⟨qp.sqMem.vaddr, qp.cqMem.vaddr⟩)⟩
    (List.replicate nvmMaxQueuesPerGroup (0, 0, 0)) env.add = (s', 0, out)
  placed : done = (qps.zipIdx 0).map (fun x => x.1.place (out.getD x.2 (0, 0, 0)))

theorem buildPairs_ok {maxQ : Nat} {done : List GpuQueuePair} (h : Ready c ndev s)
    (hnum : numQueues ≠ 0)
    (hok : buildPairs s c groupId maxQ numQueues queueDepth env = (s', .ok done)) :
    ∃ s₁ qps out, Completed c ndev groupId maxQ numQueues queueDepth env s₁ s' qps out done := by
  have hready := h.newQueuePairs queueDepth groupId env.pairs 0 (min (min maxQ (qpoolRoom c))
    numQueues) []
  unfold buildPairs at hok
  dsimp only at hok
  split at hok
  · cases hok
  next hcap =>
    iterate 2
      split at hok
      · cases hok
    split at hok
    · cases hok
    next qps hqps =>
      -- Up to here nothing was sent.
      have hbuilt := newQueuePairs_built (fun _ hqp => absurd hqp List.not_mem_nil) hqps
      split at hok
      · cases hok
      · split at hok
        · cases hok
        next hstatus =>
          split at hok
          · cases hok
          · have hlen := hbuilt.1
            rw [List.length_nil, Nat.zero_add] at hlen
            refine ⟨_, qps, _, hready, hlen, fun hnil => ?_, hbuilt.2, ?_,
              finishPairs_ok (congrArg Prod.snd hok)⟩
            · -- Neither the capacity nor the number asked for is 0, so there is a pair.
              rw [hnil, List.length_nil] at hlen
              omega
            · exact Prod.ext (Prod.mk.inj hok).1 (Prod.ext (not_not.mp hstatus) rfl)

/-- A run after which the controllers are in order leaves a session ready. -/
theorem ready_of_granted {reqs : List Request} (h : Granted reqs) (c : NvmCtrl) :
    Ready c ((run Driver.step Driver.init reqs).ctrls c.ctrl).ndev
      ⟨run Driver.step Driver.init reqs, []⟩ :=
  ⟨sound_driver_run reqs sound_init h.1, h.2, rfl, fun _ => rfl⟩

/-- A pair has the id that was returned under its number. -/
theorem place_no {qids : List Nat} (dev : NvmeDev) (hshort : ∀ q ∈ qids, q < 65536)
    (qp : GpuQueuePair) (hi : i < qids.length) :
    (qp.place ((qids.map (doorbells dev)).getD i (0, 0, 0))).no = qids[i] := by
  rw [List.getD_eq_getElem?_getD, List.getElem?_map, List.getElem?_eq_getElem hi]
  exact Nat.mod_eq_of_lt (hshort _ (List.getElem_mem hi))

/-- Where the library reports success, it is real if and only if the answers were
    honest. -/
theorem Added.real_iff {req : AddReq} {env : AddEnv}
    {r : Session × Int × List (Nat × Nat × Nat)} (hready : Ready c ndev s)
    (h : Added s c req out env r) (hstatus : r.2.1 = 0) :
    Real c ndev req.pairs.length r.1.events r.2.2 ↔ Honest env req.pairs.length := by
  cases h with
  | error hne => exact absurd hstatus hne
  | real dev qids hdev hlen hnodup _ hanswers hmade =>
    rw [hready.ndev] at hdev
    refine iff_of_true ⟨dev, hdev, qids, hlen, hnodup, rfl, fun q hq => ?_⟩
      fun rc hrc => absurd (hanswers.symm.trans hrc) nofun
    rcases hmade q hq with ⟨x, hx⟩
    rw [letters, hx, hready.quiet]
    rfl
  | phantom rc _ hanswers hnone =>
    refine iff_of_false ?_ fun hhonest => ?_
    · -- There is a pair, and it has no queues.
      rintro ⟨_, -, qids, hlen, -, -, hmade⟩
      cases qids with
      | nil =>
        rw [← hlen] at hanswers
        cases hanswers
      | cons q =>
        rcases hnone (c.ctrl, q) with ⟨w, hw, hne⟩
        have hq := hmade q List.mem_cons_self
        rw [letters, hw, hready.quiet] at hq
        exact hne hq
    · have hneg := hhonest rc hanswers
      omega

section

variable (h : Ready c ndev s)
  (hok : newQueueGroup s (some c) blockSize numQueues queueDepth env = (s', .ok g))

include h hok

theorem newQueueGroup_ok :
    ∃ maxQ s₁ qps out, (nvmCreateGroup s c env.group).2 = .ok (g.groupId, maxQ) ∧
      Completed c ndev g.groupId maxQ numQueues queueDepth env s₁ s' qps out g.qps := by
  have hready := h.nvmCreateGroup env.group
  unfold newQueueGroup QueueGroup.init at hok
  dsimp only at hok
  split at hok
  · cases hok
  · split at hok
    · cases hok
    next hnum =>
      iterate 2
        split at hok
        · cases hok
      cases hcreate : (nvmCreateGroup s c env.group).2 with
      | error =>
        rw [hcreate] at hok
        cases hok
      | ok r =>
        rw [hcreate] at hok
        dsimp only at hok
        -- A group without an id or without room is given up.
        by_cases hbogus : r.1 = 0 ∨ r.2 = 0
        · rw [if_pos hbogus] at hok
          cases hok
        · rw [if_neg hbogus] at hok
          split at hok
          · cases hok
          next qps hqps =>
            have hg : ⟨r.1, qps⟩ = g := Except.ok.inj (congrArg Prod.snd hok)
            subst hg
            rcases buildPairs_ok hready hnum (Prod.ext (Prod.mk.inj hok).1 hqps) with
              ⟨s₁, built, out, hdone⟩
            exact ⟨r.2, s₁, built, out, rfl, hdone⟩

/-- What the constructor hands to the GPU, by how `nvm_add_user_queue` ended: all
    pairs have queues, with the size of the device, or none has and all have
    id 0. -/
theorem newQueueGroup_cases : g.qps ≠ [] ∧ (∀ qp ∈ g.qps, c.qDepth ≠ 0 ∧ Built c queueDepth qp) ∧
      ((Honest env.add g.qps.length ∧ ∃ dev ∈ ndev, ∀ qp ∈ g.qps, ∃ x,
          sentTo (c.ctrl, qp.no) s'.events = madeSent (qsize dev) x) ∨
        (¬ Honest env.add g.qps.length ∧
          ∀ qp ∈ g.qps, letters (c.ctrl, qp.no) s'.events ≠ made)) := by
  rcases newQueueGroup_ok h hok with
    ⟨_, _, qps, out, -, hready, -, hne, hbuilt, hadd, hqps⟩
  have hlen : g.qps.length = qps.length := by
    rw [hqps, List.length_map, List.length_zipIdx]
  -- Only ids and doorbells are put in at the end; sizes and rings stay.
  have hplaced : ∀ qp ∈ g.qps, ∃ x ∈ qps.zipIdx 0, qp = x.1.place (out.getD x.2 (0, 0, 0)) := by
    intro qp hqp
    rw [hqps] at hqp
    rcases List.mem_map.mp hqp with ⟨x, hx, rfl⟩
    exact ⟨x, hx, rfl⟩
  have hout := added hready ⟨g.groupId, 0, [0, 0, 0, 0, 0],
    qps.map (fun qp => ⟨qp.sqMem.vaddr, qp.cqMem.vaddr⟩)⟩
    (List.replicate nvmMaxQueuesPerGroup (0, 0, 0)) env.add
  rw [hadd] at hout
  refine ⟨fun hnil => hne ?_, fun qp hqp => ?_, ?_⟩
  · rw [hnil] at hlen
    exact List.length_eq_zero_iff.mp hlen.symm
  · rcases hplaced qp hqp with ⟨x, hx, rfl⟩
    rcases hbuilt x.1 (List.fst_mem_of_mem_zipIdx hx) with ⟨hdepth, hb⟩
    exact ⟨hdepth, hb.sqQs, hb.cqQs, hb.sqRoom, hb.cqRoom⟩
  · rw [hlen]
    cases hout with
    | error hstatus => exact absurd rfl hstatus
    | real dev qids hdev hcount _ hshort hanswers hmade =>
      rw [List.length_map] at hcount hanswers
      rw [hready.ndev] at hdev
      refine .inl ⟨fun rc hrc => absurd (hanswers.symm.trans hrc) nofun, dev, hdev,
        fun qp hqp => ?_⟩
      rcases hplaced qp hqp with ⟨x, hx, rfl⟩
      have hx : x.2 < qids.length := by
        have hlt := List.snd_lt_of_mem_zipIdx hx
        omega
      rcases hmade qids[x.2] (List.getElem_mem hx) with ⟨y, hy⟩
      rw [place_no dev hshort x.1 hx, hy, hready.quiet]
      exact ⟨y, rfl⟩
    | phantom rc _ hanswers hnone =>
      rw [List.length_map] at hanswers
      refine .inr ⟨fun hhonest => ?_, fun qp hqp => ?_⟩
      · have hneg := hhonest rc hanswers
        omega
      · rcases hplaced qp hqp with ⟨x, -, rfl⟩
        -- The array that the pair reads was never written, and its id is 0.
        rcases hnone (c.ctrl, (x.1.place
          ((List.replicate nvmMaxQueuesPerGroup (0, 0, 0)).getD x.2 (0, 0, 0))).no) with
          ⟨w, hw, hne⟩
        rw [letters, hw, hready.quiet]
        exact hne

/-- A constructor that completes has pairs with queues if and only if the answers
    were honest. -/
theorem newQueueGroup_real_iff :
    (∀ qp ∈ g.qps, letters (c.ctrl, qp.no) s'.events = made) ↔ Honest env.add g.qps.length := by
  rcases newQueueGroup_cases h hok with ⟨hne, -, ⟨hhonest, _, -, hmade⟩ | ⟨hnot, hnone⟩⟩
  · refine iff_of_true (fun qp hqp => ?_) hhonest
    rcases hmade qp hqp with ⟨x, hx⟩
    rw [letters, hx]
    rfl
  · refine iff_of_false (fun hall => ?_) hnot
    rcases List.exists_mem_of_ne_nil _ hne with ⟨qp, hqp⟩
    exact hnone qp hqp (hall qp hqp)

end

/-- After any run, for every request and all answers: if `nvm_add_user_queue`
    returns 0, its success is real if and only if the first answer that is not 0
    is no status of the controller; and if the constructor of a queue group
    completes, all its pairs exist under the same condition. -/
theorem success_is_real_iff (reqs : List Request) (hgrant : Granted reqs) (c : NvmCtrl) :
    (∀ req out env, (nvmAddUserQueue ⟨run Driver.step Driver.init reqs, []⟩ c req out env).2.1 = 0 →
        (Real c ((run Driver.step Driver.init reqs).ctrls c.ctrl).ndev req.pairs.length
          (nvmAddUserQueue ⟨run Driver.step Driver.init reqs, []⟩ c req out env).1.events
          (nvmAddUserQueue ⟨run Driver.step Driver.init reqs, []⟩ c req out env).2.2 ↔
        Honest env req.pairs.length)) ∧
    ∀ blockSize numQueues queueDepth env s' g,
      newQueueGroup ⟨run Driver.step Driver.init reqs, []⟩ (some c) blockSize numQueues queueDepth
        env = (s', .ok g) →
        ((∀ qp ∈ g.qps, letters (c.ctrl, qp.no) s'.events = made) ↔
          Honest env.add g.qps.length) := by
  have hready := ready_of_granted hgrant c
  refine ⟨fun req out env hstatus => ?_, fun _ _ _ env _ g hok => ?_⟩
  · exact (added hready req out env).real_iff hready hstatus
  · exact newQueueGroup_real_iff hready hok

/-- The handle of a process on controller 0, as it is once the controller is
    bound with eight queues of depth 1024. -/
def plainCtrl : NvmCtrl := ⟨0, 1, 10, 4096, nvmCtrlMemMinsize, 1, 1024, 3, 8⟩

/-- The ring that `cudaMalloc` gives at an address. -/
def plainDma (ptr : Nat) : DmaEnv := ⟨.ok ptr, ⟨none, ⟨true, .ok ptr, true⟩⟩, true⟩

/-- Everything succeeds, but the controller may refuse submission queues. -/
def plainInit (sqRet : Int) : InitEnv where
  group := ⟨true, true, none, true⟩
  mallocOk := true
  cudaMallocOk := true
  pairs := fun i => ⟨plainDma (2 * i * 65536), plainDma ((2 * i + 1) * 65536)⟩
  add := ⟨true, true, true, fun _ => 0, fun _ => sqRet, true⟩
  setDeviceOk := true
  finish := fun _ => ⟨true, true, true, true⟩
  destroyCopyIn := true

/-- The controller is bound and its device file is open. -/
def bound : List Request := ringsInUse.take 3

theorem granted_bound : Granted bound := granted_of_one 0 (by decide) (by decide)

/-- The answers of a controller that refuses nothing. -/
theorem honest_plainInit (nr : Nat) : Honest (plainInit 0).add nr := by
  have hnone : ∀ i, firstRefusal (plainInit 0).add i nr = none := by
    induction nr with
    | zero => exact fun _ => rfl
    | succ _ ih => exact fun i => ih (i + 1)
  intro _ hrc
  exact absurd ((hnone 0).symm.trans hrc) nofun

theorem success_is_real_iff_twoQueues :
    ∃ s' g, newQueueGroup ⟨run Driver.step Driver.init bound, []⟩ (some plainCtrl) 512 2 1024
        (plainInit 0) = (s', .ok g) ∧
      g.qps.map GpuQueuePair.no = [3, 4] ∧ ∀ qp ∈ g.qps, letters (0, qp.no) s'.events = made :=
  ⟨_, _, rfl, rfl, ((success_is_real_iff bound granted_bound plainCtrl).2 512 2 1024 (plainInit 0)
    _ _ rfl).mpr (honest_plainInit _)⟩

/-- The controller refuses a submission queue with the status 257, an invalid
    queue identifier, and the constructor completes all the same, with a pair that
    has id 0 and no doorbells. -/
theorem constructor_hands_out_nothing :
    (newQueueGroup ⟨run Driver.step Driver.init bound, []⟩ (some plainCtrl) 512 1 1024
        (plainInit 257)).2 =
      .ok ⟨1, [⟨0, 1024, 1024, ⟨65536, 1⟩, ⟨131072, 1⟩, 0, 0, 0⟩]⟩ ∧
    letters (0, 0) (newQueueGroup ⟨run Driver.step Driver.init bound, []⟩ (some plainCtrl) 512 1
      1024 (plainInit 257)).1.events = [] :=
  ⟨rfl, rfl⟩

/-! ### Sizes -/

/-- A pair of the GPU has queues on the controller, with as many entries as its own
    sizes say, and with room for them in its rings. -/
def SizesAgree (c : Nat) (es : List Event) (qp : GpuQueuePair) : Prop :=
  letters (c, qp.no) es = made ∧
    (∀ prp1 size ring ok, .sent c (.createCq qp.no prp1 size) ring ok ∈ es →
      qp.cqQs = size + 1 ∧ (size + 1) * sizeofCpl ≤ qp.cqMem.nPages * gpuPageSize) ∧
    ∀ prp1 size ring ok, .sent c (.createSq qp.no prp1 size) ring ok ∈ es →
      qp.sqQs = size + 1 ∧ (size + 1) * sizeofCmd ≤ qp.sqMem.nPages * gpuPageSize

/-- For a pair that has its queues, it is the depths alone that matter. -/
theorem sizesAgree_iff {k : Nat} {dev : NvmeDev} {x : Item} {es : List Event} {qp : GpuQueuePair}
    (hsent : sentTo (k, qp.no) es = madeSent (qsize dev) x) (hb : Built c queueDepth qp)
    (hdepth : c.qDepth = u16 dev.qDepth) (hpos : c.qDepth ≠ 0) :
    SizesAgree k es qp ↔ c.qDepth ≤ queueDepth := by
  -- A command asks for as many entries as are reported, since that is not 0.
  have hsize : qsize dev + 1 = c.qDepth := by
    rw [hdepth, u16] at hpos ⊢
    rw [qsize, u16]
    omega
  have hshort : c.qDepth < 65536 := by
    rw [hdepth, u16]
    omega
  -- The two commands, and that there are no others.
  have honly : ∀ {cmd ring ok}, .sent k cmd ring ok ∈ es → cmd.qid = qp.no →
      ⟨cmd, ring, ok⟩ ∈ madeSent (qsize dev) x := fun he hq => by
    rw [← hsent]
    exact mem_sentTo.mpr ⟨he, hq⟩
  have hthere : ∀ y ∈ madeSent (qsize dev) x, .sent k y.cmd y.ring y.ok ∈ es ∧
      y.cmd.qid = qp.no := fun y hy => by
    rw [← hsent] at hy
    exact mem_sentTo.mp hy
  constructor
  · rintro ⟨-, hcq, -⟩
    rcases hthere _ List.mem_cons_self with ⟨he, hq⟩
    rw [show x.1 = qp.no from hq] at he
    have hqs := (hcq _ _ _ _ he).1
    rw [hb.cqQs, u32] at hqs
    omega
  · intro _
    have hmin : min queueDepth c.qDepth = qsize dev + 1 := by omega
    have hsqRoom := hb.sqRoom
    have hcqRoom := hb.cqRoom
    have hqs : u32 (min queueDepth c.qDepth) = qsize dev + 1 := by
      rw [u32]
      omega
    rw [hmin] at hsqRoom hcqRoom
    refine ⟨by rw [letters, hsent]; rfl, fun prp1 size ring ok he => ?_, fun _ _ _ _ he => ?_⟩
    · have hcmd := honly he rfl
      simp only [madeSent, List.mem_cons, List.not_mem_nil, or_false, Sent.mk.injEq,
        AdminCmd.createCq.injEq, reduceCtorEq, false_and] at hcmd
      rw [hcmd.1.2.2, hb.cqQs]
      exact ⟨hqs, hcqRoom⟩
    · have hcmd := honly he rfl
      simp only [madeSent, List.mem_cons, List.not_mem_nil, or_false, Sent.mk.injEq,
        AdminCmd.createSq.injEq, reduceCtorEq, false_and, false_or] at hcmd
      rw [hcmd.1.2.2, hb.sqQs]
      exact ⟨hqs, hsqRoom⟩

/-- After any run, for every controller and every requested depth: if the
    constructor of a queue group completes, its sizes agree with those of the
    controller's queues if and only if the reported depth is not above the
    requested one and the answers of the controller were honest. -/
theorem queue_sizes_agree_iff (reqs : List Request) (hgrant : Granted reqs) (c : NvmCtrl)
    (ndev : NvmeDev) (userStartQid barLen blockSize numQueues queueDepth : Nat) (env : InitEnv)
    (s' : Session) (g : QueueGroup)
    (hdev : ((run Driver.step Driver.init reqs).ctrls c.ctrl).ndev = some ndev)
    (hok : newQueueGroup ⟨run Driver.step Driver.init reqs, []⟩
      (some (c.apply (nvmGetDevInfo ndev userStartQid barLen))) blockSize numQueues queueDepth env =
        (s', .ok g)) :
    (∀ qp ∈ g.qps, SizesAgree c.ctrl s'.events qp) ↔
      (nvmGetDevInfo ndev userStartQid barLen).qDepth ≤ queueDepth ∧
        Honest env.add g.qps.length := by
  have hready := ready_of_granted hgrant (c.apply (nvmGetDevInfo ndev userStartQid barLen))
  have hctrl : (c.apply (nvmGetDevInfo ndev userStartQid barLen)).ctrl = c.ctrl := rfl
  rw [hctrl, hdev] at hready
  rcases newQueueGroup_cases hready hok with ⟨hne, hbuilt, hcases⟩
  have hdepth : (c.apply (nvmGetDevInfo ndev userStartQid barLen)).qDepth = u16 ndev.qDepth := rfl
  rcases hcases with ⟨hhonest, dev, hsame, hmade⟩ | ⟨hnot, hnone⟩
  · -- The device that answered is the one that was reported.
    have heq : ndev = dev := Option.some.inj hsame
    subst heq
    have hone : ∀ qp ∈ g.qps, (SizesAgree c.ctrl s'.events qp ↔ _) := fun qp hqp => by
      rcases hmade qp hqp with ⟨x, hx⟩
      exact sizesAgree_iff hx (hbuilt qp hqp).2 hdepth (hbuilt qp hqp).1
    constructor
    · -- There is at least one pair to read the condition off.
      intro hall
      rcases List.exists_mem_of_ne_nil _ hne with ⟨qp, hqp⟩
      exact ⟨(hone qp hqp).mp (hall qp hqp), hhonest⟩
    · exact fun h qp hqp => (hone qp hqp).mpr h.1
  · refine iff_of_false (fun hall => ?_) fun h => hnot h.2
    rcases List.exists_mem_of_ne_nil _ hne with ⟨qp, hqp⟩
    exact hnone qp hqp (hall qp hqp).1

theorem queue_sizes_agree_iff_fullDepth :
    ∃ ndev s' g, ((run Driver.step Driver.init bound).ctrls 0).ndev = some ndev ∧
      newQueueGroup ⟨run Driver.step Driver.init bound, []⟩
        (some (plainCtrl.apply (nvmGetDevInfo ndev 0 16384))) 512 2 1024 (plainInit 0) =
          (s', .ok g) ∧
      ∀ qp ∈ g.qps, SizesAgree 0 s'.events qp :=
  ⟨_, _, _, rfl, rfl, (queue_sizes_agree_iff bound granted_bound plainCtrl _ 0 16384 512 2 1024
    (plainInit 0) _ _ rfl rfl).mpr ⟨by decide, honest_plainInit _⟩⟩

/-- With a depth of 64 on a controller of depth 1024, the GPU wraps around after 64
    entries and the controller after 1024. -/
theorem queue_sizes_differ :
    ∃ s' qp, newQueueGroup ⟨run Driver.step Driver.init bound, []⟩ (some plainCtrl) 512 1 64
        (plainInit 0) = (s', .ok ⟨1, [qp]⟩) ∧
      qp.no = 3 ∧ qp.sqQs = 64 ∧ qp.cqQs = 64 ∧
      (sentTo (0, 3) s'.events).map Sent.cmd = [.createCq 3 65536 1023, .createSq 3 0 1023] :=
  ⟨_, _, rfl, rfl, rfl, rfl, rfl⟩

end Geminifs.LibNvm
