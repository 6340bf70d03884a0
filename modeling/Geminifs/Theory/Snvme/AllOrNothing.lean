import Geminifs.Theory.Snvme.Hardware
import Geminifs.Theory.Snvme.Isolation

/-!
# Adding Queues, All or Nothing

An `NVM_ADD_USER_QUEUE` that does not return 0 leaves no trace: the live slots and
the counter of every group are what they were, the same ids are marked in the pool,
and the controllers have the same queues with the same rings. The dead slots behind
the counter may have been written, and the pool may have been made.

The slots and the pool are followed through the one function. For the queues it
takes a fact about whole runs: an id that the pool gives away has no queue, because
every queue that exists is in a live slot. This needs nothing about rings, so it
holds in runs that unmap rings in use too.

## Main definitions

* `QGroup.liveSlots`, `State.groupView`: The live slots of a group, and what is kept
  of it.
* `Reply.rc`: The number that an ioctl returns.

## Theorems

* `nvmAddUserQueue_failed`: Slots and pool after a failure.
* `slotted_step`: The queues that exist are in live slots.
* `add_all_or_nothing`: The whole of it, after any run.
-/

namespace Geminifs.Snvme

open Runs

/-- The live slots of a group, each with its place. -/
def QGroup.liveSlots (g : QGroup) : List (Nat × UserQueue) :=
  ((List.range nvmMaxQueuesPerGroup).filter fun i => (g.queues i).alive).map fun i =>
    (i, g.queues i)

/-- The counter and the live slots of a group of a descriptor, if it has one of that
    id. -/
def State.groupView (s : State) (fd groupId : Nat) : Option (Nat × List (Nat × UserQueue)) :=
  ((s.findOwner fd).bind (·.findQgroup groupId)).map fun g => (g.curQueues, g.liveSlots)

/-- The number that an ioctl returns. -/
def Reply.rc : Reply → Int
  | .ret rc => rc
  | .group .. => 0
  | .queues _ => 0

variable {s s' : State} {own : Owner} {g : QGroup} {pairs : List QueuePair} {qids : List Nat}

/-! ### Slots -/

theorem groupView_of_owners (h : s'.owners = s.owners) (fd groupId : Nat) :
    s'.groupView fd groupId = s.groupView fd groupId := by
  rw [State.groupView, findOwner_of_owners h]
  rfl

/-- The slots that a batch wrote and took back were dead before. -/
theorem QGroup.Filled.liveSlots_unwind (h : g.Filled) (hlen : qids.length = pairs.length) :
    (g.unwind qids pairs).liveSlots = g.liveSlots := by
  have hfilled : (g.unwind qids pairs).Filled := (h.unwind hlen).1
  have hsame : ∀ i, i < nvmMaxQueuesPerGroup →
      ((g.unwind qids pairs).queues i).alive = (g.queues i).alive := by
    intro i hi
    rw [Bool.eq_iff_iff, hfilled.alive i hi, h.alive i hi]
    rfl
  rw [QGroup.liveSlots, List.filter_congr fun i hi => hsame i (List.mem_range.mp hi)]
  refine List.map_congr_left fun i hi => ?_
  rcases List.mem_filter.mp hi with ⟨hlt, halive⟩
  -- A live slot lies before the counter, where nothing was written.
  have hbefore := (h.alive i (List.mem_range.mp hlt)).mp halive
  have hslot : (g.unwind qids pairs).queues i = g.queues i := by
    show writeSlots _ _ _ i = _
    rw [writeSlots_apply, if_pos hbefore]
  rw [hslot]

/-- A group is put in the place of another that looks the same. -/
theorem groupView_putGroup (g' : QGroup) (hown : s.findOwner own.fd = some own) {id : Nat}
    (hgroup : own.findQgroup id = some g) (hid : g'.groupId = g.groupId)
    (hcur : g'.curQueues = g.curQueues) (hlive : g'.liveSlots = g.liveSlots)
    (howners : s'.owners = (s.updateOwner own.fd (Owner.putGroup g')).owners) (fd groupId : Nat) :
    s'.groupView fd groupId = s.groupView fd groupId := by
  have hput := qgroup_putGroup hown hgroup howners hid fd groupId
  rw [State.groupView, State.groupView, ← State.qgroup, ← State.qgroup, hput]
  split
  next heq =>
    rw [heq.1, heq.2, State.qgroup, hown, Option.bind_some, hgroup, Option.map_some, Option.map_some,
      hcur, hlive]
  · rfl

/-! ### The function -/

/-- A failure leaves the live slots and the counters of all groups, and the marks of
    the pool. -/
theorem nvmAddUserQueue_failed (hb : Books s) (hgrant : GrantBelow s) (fd : Nat) (req : AddReq)
    (env : AddEnv) (hfailed : (nvmAddUserQueue s fd req env).reply.rc ≠ 0) :
    (∀ fd' groupId, (nvmAddUserQueue s fd req env).state.groupView fd' groupId =
      s.groupView fd' groupId) ∧
    ∀ q, (nvmAddUserQueue s fd req env).state.inUse q = s.inUse q := by
  cases nvmAddUserQueue_outcome s fd req env with
  | refused rc hrc heq =>
    rw [heq]
    exact ⟨fun _ _ => rfl, fun _ => rfl⟩
  | exhausted ndev p p' nr hdev hinit halloc heq =>
    rw [heq]
    rcases hinit with ⟨_, hinit⟩
    have hp := hb.pool_init (fun _ => hgrant) hdev hinit
    refine ⟨groupView_of_owners rfl, fun q => ?_⟩
    rw [inUse_of_pool rfl, (UserQidPool.alloc_none hp.1 halloc).2, hp.2]
  | reached own g ndev p p' qids rings hfd hgroup hrings h heq =>
    rcases h.taken hb (fun _ => hgrant) with ⟨-, hsame, htaken, hlen⟩
    have hfilled := hb.filled_owner h.owner g (List.mem_of_find?_eq_some h.group)
    have hfreed : ∀ q, (p'.freeAll qids).inUse q = s.inUse q := fun q => by
      rw [htaken.inUse_freeAll, hsame]
    rw [heq] at hfailed ⊢
    unfold addPairs at hfailed ⊢
    dsimp only at hfailed ⊢
    split
    · exact ⟨groupView_of_owners rfl, hfreed⟩
    next hmade =>
      rw [hmade] at hfailed
      split
      next hcopy =>
        -- All queues were made and the answer copied, so this returns 0.
        rw [if_pos hcopy] at hfailed
        exact absurd rfl hfailed
      · exact ⟨groupView_putGroup (g.unwind qids req.pairs) h.owner hgroup rfl rfl
          (hfilled.liveSlots_unwind hlen) rfl, hfreed⟩

/-! ### Queues and slots -/

variable {d : Driver} {hw hw' : Hw} {req : Request}

theorem slotted_empty (d : Driver) : Slotted d Hw.empty :=
  ⟨fun _ hne => absurd rfl hne, fun _ hne => absurd rfl hne⟩

/-- A request changes its own controller only, so the queues of the others are where
    they were; those of its own have to be in slots afterwards. -/
theorem Slotted.step (h : Slotted d hw) (hother : ∀ key, key.1 ≠ req.ctrl → hw' key = hw key)
    (hself : ∀ key, key.1 = req.ctrl → hw' key ≠ HwQueue.none →
      (d.result req).state.ndev.isSome ∧ ∃ gk, (gk, key.2) ∈ (d.result req).state.slots) :
    Slotted (d.step req) hw' := by
  refine ⟨fun key hne => ?_, fun key hne => ?_⟩
  · by_cases hc : key.1 = req.ctrl
    · rw [hc, step_ctrls_self]
      exact (hself key hc hne).1
    · rw [hother key hc] at hne
      rw [step_ctrls_ne d hc]
      exact h.bound key hne
  · by_cases hc : key.1 = req.ctrl
    · rw [hc, step_ctrls_self]
      exact (hself key hc hne).2
    · rw [hother key hc] at hne
      rw [step_ctrls_ne d hc]
      exact h.slot key hne

/-- The same where the queues stay and no slot is lost. -/
theorem Slotted.step_of_perm (h : Slotted d hw) (hhw : hw' = hw)
    (hndev : (d.result req).state.ndev = (d.ctrls req.ctrl).ndev)
    (hslots : (d.result req).state.slots.Perm (d.ctrls req.ctrl).slots) :
    Slotted (d.step req) hw' := by
  subst hhw
  refine h.step (fun _ _ => rfl) fun key hc hne => ?_
  have hbound := h.bound key hne
  rcases h.slot key hne with ⟨gk, hslot⟩
  rw [hc] at hbound hslot
  exact ⟨by rw [hndev]; exact hbound, gk, hslots.symm.subset hslot⟩

/-- Groups are destroyed: the slots that are lost had their queues deleted. -/
theorem Slotted.destroyed {lost : List ((Nat × Nat) × Nat)} (h : Slotted d hw) (fd : Nat)
    (gs : List QGroup)
    (hhw : hw' = run Hw.apply hw (gs.flatMap (d.dropEvents req.ctrl fd)))
    (hndev : (d.result req).state.ndev = (d.ctrls req.ctrl).ndev)
    (hperm : (lost ++ (d.result req).state.slots).Perm (d.ctrls req.ctrl).slots)
    (hlost : ∀ x ∈ lost, ∃ g ∈ gs, x.2 ∈ g.qids) : Slotted (d.step req) hw' := by
  have hgone := run_apply_dropEvents d req.ctrl fd gs hw
  rw [← hhw] at hgone
  refine h.step (fun key hc => by rw [hgone, if_neg fun hx => hc hx.1]) fun key hc hne => ?_
  have hold : hw' key = hw key := by
    rw [hgone] at hne ⊢
    split at hne
    · exact absurd rfl hne
    next hno => rw [if_neg hno]
  rw [hold] at hne
  have hbound := h.bound key hne
  rcases h.slot key hne with ⟨gk, hslot⟩
  rw [hc] at hbound hslot
  refine ⟨by rw [hndev]; exact hbound, gk, ?_⟩
  rcases List.mem_append.mp (hperm.symm.subset hslot) with hin | hleft
  · rcases hlost _ hin with ⟨g, hg, hq⟩
    have hdead := hgone key
    rw [if_pos ⟨hc, hbound, g, hg, hq⟩, hold] at hdead
    exact absurd hdead hne
  · exact hleft

/-- Every request keeps queues in slots. -/
theorem slotted_step (h : Slotted d hw) (hs : Sound d) (hgrant : GrantsBelow d) (req : Request) :
    Slotted (d.step req) (run Hw.apply hw (d.events req)) := by
  cases d.move req with
  | idle hstill hevents | registered own m hstill hown hm hevents
  | unmapped _ hstill _ _ hevents =>
    exact h.step_of_perm (by rw [hevents]; rfl) hstill.ndev (by rw [slots_of_owners hstill.owners])
  | restarted _ _ _ hevents =>
    rw [hevents]
    refine h.step (fun key hc => if_neg (Ne.symm hc)) fun key hc hne => absurd ?_ hne
    exact if_pos hc.symm
  | opened _ howners hndev _ hevents =>
    exact h.step_of_perm (by rw [hevents]; rfl) hndev (by rw [slots_opened howners])
  | grouped _ _ hown _ _ howners hndev _ hevents =>
    exact h.step_of_perm (by rw [hevents]; rfl) hndev (slots_grouped hown howners)
  | dropped own g hown hgroup howners hndev _ hevents =>
    refine h.destroyed own.fd [g] (by rw [hevents, List.flatMap_singleton]) hndev
      (slots_dropped hown hgroup howners) fun x hx => ?_
    rcases List.mem_map.mp hx with ⟨q, hq, rfl⟩
    exact ⟨g, List.mem_singleton.mpr rfl, hq⟩
  | released own hown howners hndev _ hevents =>
    refine h.destroyed own.fd own.groups ?_ hndev
      (slots_released hown howners) fun x hx => ?_
    · rw [hevents, Driver.closeEvents, run_append, run_apply_unmapped]
    · rcases List.mem_flatMap.mp hx with ⟨g, hg, hx⟩
      rcases List.mem_map.mp hx with ⟨q, hq, rfl⟩
      exact ⟨g, hg, hq⟩
  | committed own g _ ndev _ _ _ _ hb howners hndev _ hevents =>
    have hperm := hb.slots_commit hs hgrant howners
    have hdev : (d.ctrls req.ctrl).ndev = some ndev := hb.alloc.dev
    refine h.step (fun key hc => ?_) fun key hc hne => ⟨by rw [hndev, hdev]; rfl, ?_⟩
    · rcases h.made hs hgrant hb hevents key with ⟨x, -, rfl, -⟩ | heq
      · exact absurd rfl hc
      · exact heq
    · -- A queue of the batch is in the slot that it was given, another in the one it had.
      rcases h.made hs hgrant hb hevents key with ⟨x, hx, rfl, -⟩ | heq
      · exact ⟨(own.fd, g.groupId), hperm.symm.subset
          (List.mem_append_left _ (List.mem_map.mpr ⟨x.1, hb.mem_ids hx, rfl⟩))⟩
      · rw [heq] at hne
        rcases h.slot key hne with ⟨gk, hslot⟩
        rw [hc] at hslot
        exact ⟨gk, hperm.symm.subset (List.mem_append_right _ hslot)⟩
  | failed _ _ _ _ _ _ _ _ hb howners hndev _ hevents =>
    exact h.step_of_perm (h.failed hs hgrant hb hevents) hndev (hb.slots_failed hs hgrant howners)

/-! ### The ioctl -/

/-- A batch that does not return 0 leaves the queues of the controllers. -/
theorem Slotted.add_failed (h : Slotted d hw) (hs : Sound d) (hgrant : GrantsBelow d)
    {c fd task : Nat} {add : AddReq} {env : AddEnv}
    (hfailed : (d.result (.ioctl c fd task (.addUserQueue add env))).reply.rc ≠ 0) :
    run Hw.apply hw (d.events (.ioctl c fd task (.addUserQueue add env))) = hw := by
  rcases d.ioctl_cases c fd task _ with ⟨-, hevents, -⟩ | ⟨own, rfl, hown⟩
  · rw [hevents]
    rfl
  · cases addUserQueue_report hown task add env with
    | rejected rc hrc hstill hevents =>
      rw [hevents]
      rfl
    | reached g ndev p p' qids items hb hndev hend =>
      cases hend with
      | committed howners hevents hreply =>
        rw [hreply] at hfailed
        exact absurd rfl hfailed
      | failed rc howners hevents => exact h.failed hs hgrant hb hevents

/-- After any run, an `NVM_ADD_USER_QUEUE` that does not return 0 leaves the counter
    and the live slots of every group of every controller, the ids that are marked in
    the pools, and the queues of the controllers exactly as they were. -/
theorem add_all_or_nothing (reqs : List Request) (hgrant : Granted reqs) (c fd task : Nat)
    (add : AddReq) (env : AddEnv)
    (hfailed : ((run System.step System.init reqs).driver.result
      (.ioctl c fd task (.addUserQueue add env))).reply.rc ≠ 0) :
    let before := run System.step System.init reqs
    let after := before.step (.ioctl c fd task (.addUserQueue add env))
    (∀ c' fd' groupId, (after.driver.ctrls c').groupView fd' groupId =
      (before.driver.ctrls c').groupView fd' groupId) ∧
    (∀ c' q, (after.driver.ctrls c').inUse q = (before.driver.ctrls c').inUse q) ∧
    after.hw = before.hw := by
  intro before after
  have hgrants : GrantsBelow before.driver := by
    have hdriver : before.driver = run Driver.step Driver.init reqs :=
      run_image (f := System.driver) (fun _ _ => rfl) System.init reqs
    rw [hdriver]
    exact hgrant.2
  -- In every run the queues that exist are in live slots.
  obtain ⟨hsound, hslotted⟩ : Sound before.driver ∧ Slotted before.driver before.hw :=
    run_invariant (I := fun s : System => Sound s.driver ∧ Slotted s.driver s.hw)
      (fun _ req h hg => ⟨sound_step req h.1 hg, slotted_step h.2 h.1 hg req⟩)
      ⟨sound_init, slotted_empty _⟩
      (along_image (f := System.driver) (s := System.init) (fun _ _ => rfl) hgrant.1)
  have hself : ∀ c', c' = c → (∀ fd' groupId, (after.driver.ctrls c').groupView fd' groupId =
      (before.driver.ctrls c').groupView fd' groupId) ∧
      ∀ q, (after.driver.ctrls c').inUse q = (before.driver.ctrls c').inUse q := by
    rintro c' rfl
    have hctrl : after.driver.ctrls c' = (before.driver.result
        (.ioctl c' fd task (.addUserQueue add env))).state := step_ctrls_self _ _
    rw [hctrl]
    rcases before.driver.ioctl_cases c' fd task (.addUserQueue add env) with
      ⟨hresult, -⟩ | ⟨own, rfl, hown⟩
    · rw [hresult]
      exact ⟨fun _ _ => rfl, fun _ => rfl⟩
    · have hb : Books (before.driver.view c') := books_withMaps (hsound.books c') _
      rw [Driver.result_ioctl hown] at hfailed ⊢
      exact nvmAddUserQueue_failed hb (hgrants c') own.fd add env hfailed
  have hother : ∀ c', c' ≠ c → after.driver.ctrls c' = before.driver.ctrls c' :=
    fun c' hne => step_ctrls_ne _ hne
  refine ⟨fun c' => ?_, fun c' => ?_, hslotted.add_failed hsound hgrants hfailed⟩
  · by_cases hc : c' = c
    · exact (hself c' hc).1
    · rw [hother c' hc]
      exact fun _ _ => rfl
  · by_cases hc : c' = c
    · exact (hself c' hc).2
    · rw [hother c' hc]
      exact fun _ => rfl

/-- The queue of `ringsInUse` is there, and a second one cannot be made: the answer to
    its completion queue is an error. -/
theorem add_all_or_nothing_refused : ((run System.step System.init ringsInUse).driver.result
        (.ioctl 0 1 10 (.addUserQueue ⟨1, 0, [], [⟨4096, 8192⟩]⟩
          ⟨true, true, true, fun _ => -5, fun _ => 0, true⟩))).reply.rc = -5 ∧
      ((run System.step System.init ringsInUse).step
        (.ioctl 0 1 10 (.addUserQueue ⟨1, 0, [], [⟨4096, 8192⟩]⟩
          ⟨true, true, true, fun _ => -5, fun _ => 0, true⟩))).hw =
        (run System.step System.init ringsInUse).hw :=
  ⟨by decide, (add_all_or_nothing ringsInUse (granted_of_one 0 (by decide) (by decide)) 0 1 10 _ _
    (by decide)).2.2⟩

end Geminifs.Snvme
