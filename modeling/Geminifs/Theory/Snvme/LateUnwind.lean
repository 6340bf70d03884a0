import Geminifs.Core.Snvme.LateUnwind
import Geminifs.Theory.Snvme.Hardware
import Geminifs.Theory.Snvme.Isolation

/-!
# What the Late Unwind Takes Back

The second section of an `NVM_ADD_USER_QUEUE` takes the last slots of its group for
its own. They are, as long as nobody else was there: if a group was freed only
after all calls on it had come to their end, and no call was overtaken by a later
one on the same group, every unwind reverts exactly the queues of its own call.
Another call in between is enough to break it, and nothing keeps it out.

## Main definitions

* `Timely`: An unwind that comes before anybody else was at its group.
* `Exact`: An unwind that takes back its own queues and nothing else.
* `Tracked`: The slots of pending calls are theirs, in the order of the calls.

## Theorems

* `tracked_step`: A section keeps track of the pending calls.
* `late_unwind_exact`: Timely unwinds are exact, in all interleavings.
-/

namespace Geminifs.Snvme

open Runs

variable {fd : Nat} {w : Window} {p : Pending}

/-- If the section is an unwind, its group is still there and has no more queues
    than right after its call had committed its own. -/
def Timely (fd : Nat) (w : Window) : Section → Prop
  | .unwind i => ∀ p ∈ w.pending[i]?, p.freed = false ∧
      ∀ g ∈ w.state.qgroup fd p.groupId, g.curQueues = p.start + p.qids.length
  | _ => True

/-- The unwind of a call deletes the queues of that call, frees their ids, and leaves
    the other groups of the descriptor and the slots before its own as they are. -/
def Exact (fd : Nat) (s : State) (p : Pending) : Prop :=
  ∃ s' g, lateUnwind s fd p = some (s', p.qids.flatMap deletePair) ∧
    s'.pool = s.pool.map (·.freeAll p.qids) ∧
    (∀ groupId, groupId ≠ p.groupId → s'.qgroup fd groupId = s.qgroup fd groupId) ∧
    s.qgroup fd p.groupId = some g ∧
    s'.qgroup fd p.groupId = some (g.truncate p.start p.qids.length)

/-- The slots of a pending call are in its group, with its ids. -/
def Listed (fd : Nat) (s : State) (p : Pending) : Prop :=
  ∃ g, s.qgroup fd p.groupId = some g ∧ p.start + p.qids.length ≤ g.curQueues ∧
    ∀ i (hi : i < p.qids.length), (g.queues (p.start + i)).qid = p.qids[i]

/-- Pending calls have their slots, and those of a later call on the same group come
    after those of an earlier one. -/
structure Tracked (fd : Nat) (w : Window) : Prop where
  listed : ∀ p ∈ w.pending, p.freed = false → p.qids ≠ [] ∧ Listed fd w.state p
  ordered : w.pending.Pairwise fun p p' => p.groupId = p'.groupId → p.freed = false →
    p'.freed = false → p.start + p.qids.length ≤ p'.start

variable {s s' : State} {i groupId : Nat}

theorem listed_congr (h : s'.qgroup fd p.groupId = s.qgroup fd p.groupId) (hp : Listed fd s p) :
    Listed fd s' p := by
  rw [Listed, h]
  exact hp

/-! ### Adding -/

/-- What a first section does to the groups: nothing, or it commits a batch. -/
theorem add_commits (s : State) (fd : Nat) (req : AddReq) (env : AddEnv) :
    let r := nvmAddUserQueue s fd req { env with copyOut := true }
    (r.state.owners = s.owners ∧ ∀ out, r.reply ≠ .queues out) ∨
    ∃ own g qids ndev, s.findOwner fd = some own ∧ own.fd = fd ∧
      own.findQgroup req.groupId = some g ∧ qids.length = req.pairs.length ∧ qids ≠ [] ∧
      r.state.owners = (s.updateOwner fd (Owner.putGroup (g.commit qids req.pairs))).owners ∧
      r.reply = .queues (qids.map (doorbells ndev)) := by
  intro r
  cases nvmAddUserQueue_outcome s fd req { env with copyOut := true } with
  | refused rc hrc heq | exhausted ndev p p' nr hdev hinit halloc heq =>
    refine .inl ⟨congrArg (·.state.owners) heq, fun out h => ?_⟩
    exact absurd ((congrArg Result.reply heq).symm.trans h) (by simp [State.refuse])
  | reached own g ndev _ p' qids rings hfd hgroup _ h heq =>
    have hlen : qids.length = req.pairs.length :=
      (UserQidPool.allocLoop_length h.alloc).trans (Nat.zero_add _)
    have hown := h.owner
    rw [hfd] at hown
    unfold addPairs at heq
    dsimp only at heq
    split at heq
    · refine .inl ⟨congrArg (·.state.owners) heq, fun _ h => ?_⟩
      exact absurd ((congrArg Result.reply heq).symm.trans h) (by simp)
    · rw [hfd] at heq
      have hreply : r.reply = .queues (qids.map (doorbells ndev)) := congrArg Result.reply heq
      refine .inr ⟨own, g, qids, ndev, hown, hfd, hgroup, hlen, fun hnil => ?_,
        congrArg (·.state.owners) heq, hreply⟩
      -- A request without pairs is refused.
      rw [hnil] at hlen
      unfold r nvmAddUserQueue at hreply
      split at hreply
      · cases hreply
      · iterate 4
          split at hreply
          · cases hreply
        rw [if_pos (.inl hlen.symm)] at hreply
        cases hreply

/-- What comes before a batch stays. -/
theorem listed_commit {own : Owner} {g : QGroup} {qids : List Nat} {pairs : List QueuePair}
    (hown : s.findOwner own.fd = some own) (hgroup : own.findQgroup groupId = some g)
    (h : s'.owners = (s.updateOwner own.fd (Owner.putGroup (g.commit qids pairs))).owners)
    (hp : Listed own.fd s p) : Listed own.fd s' p := by
  have hput := qgroup_putGroup hown hgroup h rfl own.fd p.groupId
  by_cases hid : p.groupId = groupId
  · rcases hp with ⟨_, hg₁, hroom, hqids⟩
    rw [hid, State.qgroup, hown, Option.bind_some, hgroup] at hg₁
    obtain rfl := Option.some.inj hg₁
    rw [if_pos ⟨rfl, hid⟩] at hput
    refine ⟨_, hput, Nat.le_trans hroom (Nat.le_add_right _ _), fun i hi => ?_⟩
    show (writeSlots _ _ _ _).qid = _
    rw [writeSlots_apply, if_pos (by omega), hqids i hi]
  · rw [if_neg fun heq => hid heq.2] at hput
    exact listed_congr hput hp

theorem tracked_add (h : Tracked fd w) (req : AddReq) (env : AddEnv) :
    Tracked fd (w.add fd req env) := by
  have hcases := add_commits w.state fd req env
  rw [Window.add]
  rcases hcases with ⟨howners, hno⟩ | ⟨own, g, qids, ndev, hown, rfl, hgroup, hlen, hne, howners, hreply⟩
  · split
    next out hreply => exact absurd hreply (hno out)
    · exact ⟨fun p hp hfreed => ⟨(h.listed p hp hfreed).1, listed_congr
        (by rw [State.qgroup, findOwner_of_owners howners]; rfl) (h.listed p hp hfreed).2⟩, h.ordered⟩
  · have hkept : ∀ p ∈ w.pending, p.freed = false → p.qids ≠ [] ∧ Listed own.fd _ p :=
      fun p hp hfreed => ⟨(h.listed p hp hfreed).1,
        listed_commit hown hgroup howners (h.listed p hp hfreed).2⟩
    have hfound : w.state.qgroup own.fd req.groupId = some g := by
      rw [State.qgroup, hown, Option.bind_some, hgroup]
    rw [hreply]
    dsimp only
    split
    · exact ⟨hkept, h.ordered⟩
    · have hids : (qids.map (doorbells ndev)).map Prod.fst = qids := by
        rw [List.map_map]
        exact List.map_id qids
      rw [hfound, hids]
      refine ⟨fun p hp hfreed => ?_, List.pairwise_append.mpr ⟨h.ordered, List.pairwise_singleton _ _,
        fun p hp _ hp' => ?_⟩⟩
      · rcases List.mem_append.mp hp with hp | hp
        · exact hkept p hp hfreed
        · rw [List.mem_singleton.mp hp]
          have hput := qgroup_putGroup hown hgroup howners rfl own.fd req.groupId
          rw [if_pos ⟨rfl, rfl⟩] at hput
          refine ⟨hne, _, hput, Nat.le_refl _, fun i hi => ?_⟩
          -- The batch is where it was committed.
          rcases getElem?_slotsOf hlen true hi with ⟨_, huq, -, hqid⟩
          show (writeSlots _ _ _ (g.curQueues + i)).qid = qids[i]
          rw [writeSlots_apply, if_neg (by omega), Nat.add_sub_cancel_left, huq]
          exact hqid
      · -- The new slots come after all that were counted.
        rw [List.mem_singleton.mp hp']
        intro hid hfreed _
        rcases (h.listed p hp hfreed).2 with ⟨_, hg₁, hroom, -⟩
        rw [show p.groupId = req.groupId from hid, hfound] at hg₁
        rw [← Option.some.inj hg₁] at hroom
        exact hroom

/-! ### Destroying -/

/-- Calls whose group was freed need no tracking any more. -/
theorem tracked_freeGroup (h : Tracked fd w)
    (hsame : ∀ other, other ≠ groupId → s'.qgroup fd other = w.state.qgroup fd other) :
    Tracked fd ⟨s', freeGroup groupId w.pending⟩ := by
  refine ⟨fun p hp hfreed => ?_, List.pairwise_map.mpr (h.ordered.imp fun {p p'} hpp => ?_)⟩
  · rcases List.mem_map.mp hp with ⟨p₀, hp₀, rfl⟩
    split_ifs at hfreed with hne
    rw [if_neg hne]
    have hlisted := h.listed p₀ hp₀ hfreed
    exact ⟨hlisted.1, listed_congr (hsame _ hne) hlisted.2⟩
  · split <;> split
    · exact nofun
    · exact nofun
    · exact nofun
    · exact hpp

theorem tracked_destroy (h : Tracked fd w) (groupId : Nat) (copyIn : Bool) :
    Tracked fd (w.step fd (.destroy groupId copyIn)) := by
  -- A call that is refused frees nothing.
  have hrefused : ∀ rc ≠ 0, nvmDestroyQueueGroup w.state fd groupId copyIn = w.state.refuse rc →
      Tracked fd (w.step fd (.destroy groupId copyIn)) := by
    intro rc hrc heq
    have hreply : ¬ (w.state.refuse rc).reply = .ret 0 := fun h => hrc (Reply.ret.inj h)
    rw [Window.step, heq, if_neg hreply]
    exact h
  cases hown : w.state.findOwner fd with
  | none =>
    refine hrefused enodev (by decide) ?_
    rw [nvmDestroyQueueGroup, hown]
  | some =>
    obtain rfl := findOwner_fd hown
    rcases nvmDestroyQueueGroup_outcome hown groupId copyIn with
      ⟨rc, hrc, heq⟩ | ⟨g, -, rfl, hreply, howners, -⟩
    · exact hrefused rc hrc heq
    · rw [Window.step, if_pos hreply]
      refine tracked_freeGroup h fun _ hne => ?_
      -- A group that is dropped is not missed by the others.
      rw [State.qgroup, State.qgroup, findOwner_updateOwner_self hown howners fun _ => rfl, hown,
        Option.bind_some, Option.bind_some, Owner.findQgroup, Owner.findQgroup, Owner.dropGroup]
      rw [find_eraseP fun x hx => ?_]
      rw [beq_iff_eq.mp hx]
      exact beq_eq_false_iff_ne.mpr hne.symm

/-! ### Unwinding -/

/-- A timely unwind is exact. -/
theorem exact_of_timely (h : Tracked fd w) (hp : w.pending[i]? = some p)
    (ht : Timely fd w (.unwind i)) : Exact fd w.state p := by
  rcases ht p hp with ⟨hfreed, hcur⟩
  rcases (h.listed p (List.mem_of_getElem? hp) hfreed).2 with ⟨g, hg, -, hqids⟩
  rcases Option.bind_eq_some_iff.mp hg with ⟨own, hown, hgroup⟩
  obtain rfl := findOwner_fd hown
  -- The last slots are those of the call.
  have hfirst : g.curQueues - p.qids.length = p.start := by
    rw [hcur g hg, Nat.add_sub_cancel]
  have hids : (List.range p.qids.length).map (fun k => (g.queues (p.start + k)).qid) = p.qids := by
    refine List.ext_getElem (by simp) fun k _ hk' => ?_
    rw [List.getElem_map, List.getElem_range, hqids k hk']
  have hunwind : lateUnwind w.state own.fd p = some
      ({ w.state.updateOwner own.fd (Owner.putGroup (g.truncate p.start p.qids.length)) with
          pool := w.state.pool.map (·.freeAll p.qids) }, p.qids.flatMap deletePair) := by
    rw [lateUnwind, if_neg (by simp [hfreed]), hg, Option.map_some, hfirst]
    dsimp only
    rw [hids]
    rfl
  have hput := qgroup_putGroup hown hgroup (Eq.refl (w.state.updateOwner own.fd
    (Owner.putGroup (g.truncate p.start p.qids.length))).owners) rfl own.fd
  refine ⟨_, g, hunwind, rfl, fun groupId hne => ?_, hg, ?_⟩
  · exact (hput groupId).trans (if_neg fun heq => hne heq.2)
  · exact (hput p.groupId).trans (if_pos ⟨rfl, rfl⟩)

theorem tracked_unwind (h : Tracked fd w) (ht : Timely fd w (.unwind i)) :
    Tracked fd (w.step fd (.unwind i)) := by
  rw [Window.step]
  cases hp : w.pending[i]? with
  | none => exact h
  | some p =>
    rcases ht p hp with ⟨hfreed, hcur⟩
    rcases exact_of_timely h hp ht with ⟨s', g, hunwind, -, hother, hg, hself⟩
    dsimp only
    rw [hunwind]
    refine ⟨fun p' hp' hfreed' => ?_, h.ordered.sublist (List.eraseIdx_sublist _ _)⟩
    rcases List.mem_eraseIdx_iff_getElem?.mp hp' with ⟨j, hne, hj⟩
    have hlisted := h.listed p' (List.mem_of_getElem? hj) hfreed'
    refine ⟨hlisted.1, ?_⟩
    by_cases hid : p'.groupId = p.groupId
    · rcases hlisted.2 with ⟨g', hg', hroom, hqids⟩
      rw [hid, hg] at hg'
      obtain rfl := Option.some.inj hg'
      have hend := hcur g hg
      rcases List.getElem?_eq_some_iff.mp hp with ⟨hi, hpi⟩
      rcases List.getElem?_eq_some_iff.mp hj with ⟨hj, hpj⟩
      -- A later call on the group would have slots behind the last one.
      have hbefore : p'.start + p'.qids.length ≤ p.start := by
        have hpos := List.length_pos_iff.mpr hlisted.1
        rcases Nat.lt_or_gt_of_ne hne with hlt | hlt
        · have hord := List.pairwise_iff_getElem.mp h.ordered j i hj hi hlt
          rw [hpi, hpj] at hord
          exact hord hid hfreed' hfreed
        · have hord := List.pairwise_iff_getElem.mp h.ordered i j hi hj hlt
          rw [hpi, hpj] at hord
          have hafter := hord hid.symm hfreed hfreed'
          omega
      refine ⟨_, by rw [hid]; exact hself, hbefore, fun k hk => ?_⟩
      show (if _ then _ else g.queues _).qid = _
      rw [if_neg (by omega), hqids k hk]
    · exact listed_congr (hother _ hid) hlisted.2

theorem tracked_step (fd : Nat) (w : Window) (a : Section) (h : Tracked fd w)
    (ht : Timely fd w a) : Tracked fd (w.step fd a) := by
  cases a with
  | add req env => exact tracked_add h req env
  | unwind => exact tracked_unwind h ht
  | destroy groupId copyIn => exact tracked_destroy h groupId copyIn

/-- In every interleaving of `NVM_ADD_USER_QUEUE` and `NVM_DESTROY_QUEUE_GROUP` calls on
    a descriptor, from any state of the controller on: if all unwinds are timely,
    each of them is exact. -/
theorem late_unwind_exact (s : State) (fd : Nat) (acts : List Section)
    (htimely : Along (Window.step fd) (Timely fd) ⟨s, []⟩ acts) :
    Along (Window.step fd) (fun w a => ∀ i, a = .unwind i → ∀ p ∈ w.pending[i]?,
      Exact fd w.state p) ⟨s, []⟩ acts := by
  refine along_of_invariant (tracked_step fd) (fun w a h ht i ha p hp => ?_) ?_ htimely
  · rw [ha] at ht
    exact exact_of_timely h hp ht
  · exact ⟨nofun, .nil⟩

/-- A descriptor with one group and two ring pages. -/
def oneGroup : State := (run Driver.step Driver.init (ringsInUse.take 6)).view 0

/-- A call for one queue, and whether its answer can be copied out. -/
def addSection (copyOut : Bool) : Section :=
  .add ⟨1, 0, [], [⟨4096, 8192⟩]⟩ ⟨true, true, true, fun _ => 0, fun _ => 0, copyOut⟩

theorem late_unwind_exact_alone : let w := run (Window.step 1) ⟨oneGroup, []⟩ [addSection false]
    w.pending = [⟨1, 0, [3], false⟩] ∧ Exact 1 w.state ⟨1, 0, [3], false⟩ := by
  have hpending : (Window.step 1 ⟨oneGroup, []⟩ (addSection false)).pending =
      [⟨1, 0, [3], false⟩] := by decide
  have hcount : ((Window.step 1 ⟨oneGroup, []⟩ (addSection false)).state.qgroup 1 1).map
      QGroup.curQueues = some 1 := by decide
  have htimely : Along (Window.step 1) (Timely 1) ⟨oneGroup, []⟩ [addSection false, .unwind 0] := by
    refine ⟨trivial, fun p hp => ?_, trivial⟩
    obtain rfl := Option.some.inj hp
    refine ⟨rfl, fun g hg => ?_⟩
    rw [Option.mem_def.mp hg] at hcount
    exact Option.some.inj hcount
  refine ⟨hpending, (late_unwind_exact oneGroup 1 _ htimely).2.1 0 rfl _ ?_⟩
  rfl

/-- Another call commits a queue before the unwind, which deletes that queue instead of
    its own; and a group is destroyed before the unwind, which uses it all the same. -/
theorem late_unwind_overtaken :
    (let w := run (Window.step 1) ⟨oneGroup, []⟩ [addSection false, addSection true]
     w.pending = [⟨1, 0, [3], false⟩] ∧ (lateUnwind w.state 1 ⟨1, 0, [3], false⟩).map Prod.snd =
      some [.deleteSq 4, .deleteCq 4]) ∧
    (run (Window.step 1) ⟨oneGroup, []⟩ [addSection false, .destroy 1 true]).pending =
      [⟨1, 0, [3], true⟩] :=
  ⟨by decide, by decide⟩

end Geminifs.Snvme
