import Geminifs.Theory.QueueGroup

/-!
# The Array of Queues on the GPU

The constructor of a queue group builds its pairs in one array, passes their rings
to the module in a second one, gets ids and doorbells in a third, and copies the
pairs to the GPU in a fourth. Nothing but the index says which entry belongs to
which, so it is shown here that the index is right all the way to the commands
that the controller got.

## Main definitions

* `Published`: The array is what the module made.
* `InOrder`: Commands go through a ring in order.

## Theorems

* `nvmAddUserQueue_queues`: Success with honest answers is a committed batch.
* `map_place`: The ids and doorbells of the pairs are those returned.
* `queue_array_published`: A constructor that completes publishes its queues.
* `queue_in_range_iff`: When the queues that are chosen were made.
* `ring_in_order_iff`: When a pair fills its ring in order.
-/

namespace Geminifs.LibNvm

open Snvme Runs

variable {s s' : Session} {c : NvmCtrl}

/-- The pairs of a group on the GPU, in a session: there are as many as all limits
    allow; under each index are the id and the doorbells of the queue pair that the
    module made with the rings found under the same index, and nothing was sent
    before these commands; and the ids are distinct and in the controller's pool. -/
structure Published (c : NvmCtrl) (maxQ numQueues : Nat) (s' : Session) (g : QueueGroup)
    (ndev : NvmeDev) (qids : List Nat) (rings : List (Registered × Registered)) : Prop where
  nonempty : 1 ≤ g.qps.length
  requested : g.qps.length ≤ numQueues
  limit : g.qps.length ≤ maxQ
  room : g.qps.length ≤ qpoolRoom c
  entries : g.qps.map (fun qp => (qp.no, qp.sqDb, qp.cqDb)) = qids.map (doorbells ndev)
  found : (g.qps.map (fun qp => (⟨qp.sqMem.vaddr, qp.cqMem.vaddr⟩ : QueuePair))).mapM (fun pr =>
    findRegs pr none none (s'.driver.groupMaps c.fd g.groupId)) = some rings
  made : ∃ es, (∀ key, sentTo key es = []) ∧
    s'.events = es ++ (qids.zip rings).flatMap (madeEvents c.ctrl (qsize ndev))
  nodup : qids.Nodup
  pool : ∀ q ∈ qids, ∃ p, (s'.driver.ctrls c.ctrl).pool = some p ∧ p.Covers q

/-- With honest answers, the ioctl returns an error or the queues. -/
theorem reply_of_honest {ndev : Option NvmeDev} (hready : Ready c ndev s) {req : AddReq}
    {env : AddEnv} (hhonest : Honest env req.pairs.length) :
    (∃ rc < 0, (s.ioctl c (.addUserQueue req env)).2 = .ret rc) ∨
      ∃ out, (s.ioctl c (.addUserQueue req env)).2 = .queues out := by
  unfold Session.ioctl
  rcases s.driver.ioctl_cases c.ctrl c.fd c.task _ with ⟨hresult, -⟩ | ⟨own, hfd, hown⟩
  · rw [hresult]
    exact .inl ⟨enodev, by decide, rfl⟩
  · rw [← hfd]
    cases addUserQueue_report hown c.task req env with
    | rejected rc hrc _ _ hreply => exact .inl ⟨rc, hrc, hreply⟩
    | reached _ _ _ _ _ _ hbatch _ hend =>
      cases hend with
      | committed _ _ hreply => exact .inr ⟨_, hreply⟩
      | failed rc _ _ hreply hanswers =>
        rw [(hbatch.fresh hready.sound hready.grants).2.1] at hanswers
        rcases hanswers with hrefused | ⟨-, rfl⟩
        · exact .inl ⟨rc, hhonest rc hrefused, hreply⟩
        · exact .inl ⟨efault, by decide, hreply⟩

/-- If the library reports success and the answers were honest, queues were
    returned. -/
theorem nvmAddUserQueue_queues {ndev : Option NvmeDev} (hready : Ready c ndev s) {req : AddReq}
    {out out' : List (Nat × Nat × Nat)} {env : AddEnv} (hhonest : Honest env req.pairs.length)
    (h : nvmAddUserQueue s c req out env = (s', 0, out')) :
    s' = (s.ioctl c (.addUserQueue req env)).1 ∧
      (s.ioctl c (.addUserQueue req env)).2 = .queues out' := by
  unfold nvmAddUserQueue at h
  rcases reply_of_honest hready hhonest with ⟨_, hrc, hreply⟩ | ⟨_, hreply⟩
  · simp only [hreply, errno, if_pos hrc, Prod.mk.injEq] at h
    omega
  · simp only [hreply, errno, Prod.mk.injEq] at h
    rw [hreply, h.1, h.2.2]
    exact ⟨rfl, rfl⟩

/-- Every pair gets the id and the doorbells under its index. -/
theorem map_place {qps : List GpuQueuePair} {qids : List Nat} (ndev : NvmeDev)
    (hlen : qids.length = qps.length) (hshort : ∀ q ∈ qids, q < 65536) :
    ((qps.zipIdx 0).map fun x => x.1.place ((qids.map (doorbells ndev)).getD x.2 (0, 0, 0))).map
      (fun qp => (qp.no, qp.sqDb, qp.cqDb)) = qids.map (doorbells ndev) := by
  refine List.ext_getElem (by simp [hlen]) fun i _ hi' => ?_
  rw [List.length_map] at hi'
  have hno : u16 qids[i] = qids[i] := Nat.mod_eq_of_lt (hshort _ (List.getElem_mem hi'))
  simp [GpuQueuePair.place, doorbells, List.getElem?_eq_getElem hi', hno]

/-- After any run, for all requested numbers and depths: if the constructor of a
    queue group completes and the controller's answers were honest, so that
    `NVM_ADD_USER_QUEUE` returned 0, its queues are published. -/
theorem queue_array_published (reqs : List Request) (hgrant : Granted reqs) (c : NvmCtrl)
    (blockSize numQueues queueDepth : Nat) (env : InitEnv) (s' : Session) (g : QueueGroup)
    (hok : newQueueGroup ⟨run Driver.step Driver.init reqs, []⟩ (some c) blockSize numQueues
      queueDepth env = (s', .ok g))
    (hhonest : Honest env.add g.qps.length) :
    ∃ maxQ ndev qids rings, (nvmCreateGroup ⟨run Driver.step Driver.init reqs, []⟩ c env.group).2 =
        .ok (g.groupId, maxQ) ∧
      ((run Driver.step Driver.init reqs).ctrls c.ctrl).ndev = some ndev ∧
      Published c maxQ numQueues s' g ndev qids rings := by
  rcases newQueueGroup_ok (ready_of_granted hgrant c) hok with ⟨maxQ, s₁, qps, _, hcreate, hdone⟩
  have hready := hdone.ready
  have hlen : g.qps.length = qps.length := by
    rw [hdone.placed, List.length_map, List.length_zipIdx]
  have hmax := hdone.length
  have hpos := List.length_pos_iff.mpr hdone.nonempty
  rcases nvmAddUserQueue_queues hready (by rwa [List.length_map, ← hlen]) hdone.added with
    ⟨rfl, hreply⟩
  rcases addUserQueue_queues hreply with
    ⟨own, gr, ndev, p, _, qids, rings, -, -, hrings, -, hb, howners, hevents, rfl⟩
  have hcount : qids.length = qps.length := by
    rw [(hb.fresh hready.sound hready.grants).2.1, List.length_map]
  have hdev : (s₁.driver.ctrls c.ctrl).ndev = some ndev := hb.alloc.dev
  refine ⟨maxQ, ndev, qids, rings, hcreate, hready.ndev.symm.trans hdev, by omega, by omega,
    by omega, by omega, ?_, ?_, ⟨s₁.events, hready.quiet, congrArg (s₁.events ++ ·) hevents⟩,
    (hb.fresh hready.sound hready.grants).1, fun q hq => ?_⟩
  · rw [hdone.placed]
    exact map_place ndev hcount (hb.ids_short hready.sound hready.grants)
  · -- The rings of the pairs are not touched at the end, and adding queues leaves the maps.
    have hregs : (s₁.ioctl c (.addUserQueue _ env.add)).1.driver.regs = s₁.driver.regs :=
      (congrArg (run onRegs s₁.driver.regs) hevents).trans
        (run_onRegs_sent (madeEvents_isSent c.ctrl _ _) _)
    have hmem : g.qps.map (fun qp => (⟨qp.sqMem.vaddr, qp.cqMem.vaddr⟩ : QueuePair)) =
        qps.map (fun qp => ⟨qp.sqMem.vaddr, qp.cqMem.vaddr⟩) := by
      rw [hdone.placed, List.map_map]
      nth_rewrite 2 [← List.zipIdx_map_fst 0 qps]
      rw [List.map_map]
      rfl
    rw [hmem, Driver.groupMaps, hregs]
    exact hrings
  · -- The ids are those of slots now.
    refine ((sound_step _ hready.sound hready.grants).books c.ctrl).covers ?_
    rw [State.qids_eq_slots]
    have hperm := hb.slots_commit hready.sound hready.grants
      ((congrArg State.owners (step_ctrls_self s₁.driver _)).trans howners)
    exact List.mem_map.mpr ⟨((own.fd, gr.groupId), q),
      hperm.symm.subset (List.mem_append_left _ (List.mem_map_of_mem hq)), rfl⟩

/-- Two queues on a controller that is bound with eight. -/
theorem queue_array_published_twoQueues :
    ∃ s' g, newQueueGroup ⟨run Driver.step Driver.init bound, []⟩ (some plainCtrl) 512 2 1024
        (plainInit 0) = (s', .ok g) ∧ ∃ maxQ ndev qids rings,
      Published plainCtrl maxQ 2 s' g ndev qids rings := by
  refine ⟨_, _, rfl, ?_⟩
  rcases queue_array_published bound granted_bound plainCtrl 512 2 1024 (plainInit 0) _ _ rfl
    (honest_plainInit _) with ⟨maxQ, ndev, qids, rings, -, -, h⟩
  exact ⟨maxQ, ndev, qids, rings, h⟩

/-! ### The queues of a controller -/

/-- As many pairs are made as the limits allow, all of them cut to 16 bits. -/
theorem initQueues_length {numQueues queueDepth groupId maxQ : Nat} {env : InitEnv}
    {done : List GpuQueuePair} (hgroup : (nvmCreateGroup s c env.group).2 = .ok (groupId, maxQ))
    (hok : initQueues s c numQueues queueDepth env = (s', some (.ok done))) :
    done.length = min (u16 (min maxQ (qpoolRoom c))) (u16 numQueues) := by
  unfold initQueues at hok
  simp only [hgroup] at hok
  iterate 3
    split at hok
    · cases hok
  split at hok
  · cases hok
  next qps hqps =>
    have hlen := (newQueuePairs_built (fun _ hqp => absurd hqp List.not_mem_nil) hqps).1
    iterate 2
      split at hok
      · cases hok
    split at hok
    next hfinish =>
      cases hok
      rw [finishPairs_ok hfinish, List.length_map, List.length_zipIdx, hlen, List.length_nil,
        Nat.zero_add]
    · split at hok <;> cases hok

/-- There are as many pairs as the helper was told, and it chooses one of them, exactly if the
    number is within the limits of the controller and the group. -/
theorem queue_in_range_iff (s : Session) (c : NvmCtrl) (numQueues queueDepth : Nat)
    (env : InitEnv) (s' : Session) (qps : List GpuQueuePair) (groupId maxQ : Nat)
    (hgroup : (nvmCreateGroup s c env.group).2 = .ok (groupId, maxQ))
    (hok : initQueues s c numQueues queueDepth env = (s', some (.ok qps))) :
    (u32 numQueues ≤ qps.length ∧ ∀ blockDim threadIdx, ∃ i < qps.length,
      acquireQueue numQueues blockDim threadIdx = some (i : Int)) ↔
    u32 numQueues ≠ 0 ∧ u32 numQueues ≤ u16 (min maxQ (qpoolRoom c)) := by
  have hlen := initQueues_length hgroup hok
  unfold acquireQueue
  constructor
  · rintro ⟨hle, hall⟩
    obtain ⟨i, -, hi⟩ := hall 0 0
    split_ifs at hi with hzero
    exact ⟨hzero, by omega⟩
  · rintro ⟨hzero, hle⟩
    have hshort : u32 numQueues ≤ qps.length ∧ qps.length < 65536 := by
      unfold u32 u16 at *
      omega
    refine ⟨hshort.1, fun blockDim threadIdx => ?_⟩
    have hlt := Nat.mod_lt (u32 (blockDim * 32 + threadIdx)) (Nat.pos_of_ne_zero hzero)
    refine ⟨_, Nat.lt_of_lt_of_le hlt hshort.1, ?_⟩
    rw [if_neg hzero, Int.bmod_eq_of_le] <;> omega

theorem queue_in_range_iff_two : ∃ s' qps,
    initQueues ⟨run Driver.step Driver.init bound, []⟩ plainCtrl 2 64 (plainInit 0) =
        (s', some (.ok qps)) ∧ u32 2 ≤ qps.length := by
  refine ⟨_, _, rfl, ?_⟩
  exact ((queue_in_range_iff ⟨run Driver.step Driver.init bound, []⟩ plainCtrl 2 64 (plainInit 0)
    _ _ 1 16 rfl rfl).mpr ⟨by decide, by decide⟩).1

/-- With two ids left, two pairs are made of three, and the third thread chooses the third. -/
theorem queue_out_of_range : ∃ s' qps,
    initQueues ⟨run Driver.step Driver.init bound, []⟩ { plainCtrl with maxUserQid := 4 } 3 64
        (plainInit 0) = (s', some (.ok qps)) ∧ qps.length = 2 ∧ acquireQueue 3 3 2 = some 2 :=
  ⟨_, _, rfl, rfl, rfl⟩

/-! ### The ring of a pair -/

/-- The tickets of a queue pair go through the slots of its ring in order, lap by lap, until
    the counter wraps around. -/
structure InOrder (qp : GpuQueuePair) : Prop where
  slot : ∀ t < 2 ^ 32, (qp.sqSlot t).1 = t % qp.sqQs
  lap : ∀ t, t + 1 < 2 ^ 32 →
    (qp.sqSlot (t + 1)).2 = (qp.sqSlot t).2 + if (qp.sqSlot (t + 1)).1 = 0 then 2 else 0
  apart : ∀ t < 2 ^ 32, ∀ t' < 2 ^ 32, qp.sqSlot t = qp.sqSlot t' → t = t'

/-- If the size is a power of two, the mask and the shift are the remainder and the quotient. -/
theorem sqSlot_two_pow {qp : GpuQueuePair} {k : Nat} (h : qp.sqQs = 2 ^ k) (t : Nat) :
    qp.sqSlot t = (t % 2 ^ k, t / 2 ^ k * 2) := by
  unfold GpuQueuePair.sqSlot getId
  rw [h, Nat.and_two_pow_sub_one_eq_mod, Nat.log2_two_pow, Nat.shiftRight_eq_div_pow]

theorem inOrder_iff {qp : GpuQueuePair} (hpos : 0 < qp.sqQs) (hlt : qp.sqQs < 2 ^ 32) :
    InOrder qp ↔ ∃ k, qp.sqQs = 2 ^ k := by
  constructor
  · intro h
    -- The first ticket of the second lap.
    have hback := h.slot qp.sqQs hlt
    rw [Nat.mod_self] at hback
    exact (Nat.and_sub_one_eq_zero_iff_isPowerOfTwo (Nat.ne_of_gt hpos)).mp hback
  · rintro ⟨k, hk⟩
    refine ⟨fun t _ => ?_, fun t _ => ?_, fun t _ t' _ heq => ?_⟩
    · rw [sqSlot_two_pow hk, hk]
    · simp only [sqSlot_two_pow hk, Nat.succ_div, Nat.dvd_iff_mod_eq_zero]
      split <;> omega
    · simp only [sqSlot_two_pow hk, Prod.mk.injEq] at heq
      rw [← Nat.div_add_mod t (2 ^ k), ← Nat.div_add_mod t' (2 ^ k), heq.1,
        Nat.eq_of_mul_eq_mul_right (by decide) heq.2]

/-- A queue pair that is built goes through its ring in order exactly if its depth is a power
    of two. -/
theorem ring_in_order_iff (s : Session) (c : NvmCtrl) (qpId queueDepth groupId : Nat)
    (env : PairEnv) (qp : GpuQueuePair) (hctrl : c.qDepth < 2 ^ 16) (hdepth : 1 ≤ queueDepth)
    (hok : (newQueuePair s c qpId queueDepth groupId env).2 = .ok qp) :
    InOrder qp ↔ ∃ k, min queueDepth c.qDepth = 2 ^ k := by
  obtain ⟨hzero, hbuilt⟩ := newQueuePair_built hok
  have hsize : qp.sqQs = min queueDepth c.qDepth := by
    rw [hbuilt.sqQs, u32]
    omega
  rw [inOrder_iff, hsize] <;> omega

/-- A session with a group. -/
def grouped : Session :=
  (nvmCreateGroup ⟨run Driver.step Driver.init bound, []⟩ plainCtrl (plainInit 0).group).1

theorem ring_in_order_iff_64 : ∃ qp,
    (newQueuePair grouped plainCtrl 0 64 1 ((plainInit 0).pairs 0)).2 = .ok qp ∧ InOrder qp :=
  ⟨_, rfl, (ring_in_order_iff grouped plainCtrl 0 64 1 ((plainInit 0).pairs 0) _ (by decide)
    (by decide) rfl).mpr ⟨6, rfl⟩⟩

/-- With three entries, the first two tickets get the same slot on the same lap. -/
theorem tickets_share_slot : ∃ qp,
    (newQueuePair grouped plainCtrl 0 3 1 ((plainInit 0).pairs 0)).2 = .ok qp ∧
      qp.sqSlot 0 = qp.sqSlot 1 :=
  ⟨_, rfl, rfl⟩

end Geminifs.LibNvm
