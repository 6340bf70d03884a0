import Mathlib.Data.List.Nodup
import Geminifs.Core.Snvme.Step

/-!
# The Queues of Groups

Which queue ids the groups of a controller hold, and what committing a batch to
a group and destroying groups do to them.

## Main definitions

* `QGroup.qids`, `Owner.qids`, `State.qids`: The ids of the live slots of a group,
  of a descriptor's groups, and of all.
* `QGroup.Filled`: The live slots of a group are its first ones.

## Theorems

* `destroyQgroup_eq`, `destroyGroups_eq`: What destroying groups frees and sends.
* `QGroup.Filled.commit`: A batch that is committed.
* `QGroup.Filled.unwind`: A batch that is taken back.
* `State.mem_qids`: A held id is in some live slot.
-/

namespace Geminifs.Snvme

/-- The queue ids in the live slots of a group. -/
def QGroup.qids (g : QGroup) : List Nat :=
  ((List.range nvmMaxQueuesPerGroup).filter (fun i => (g.queues i).alive)).map
    (fun i => (g.queues i).qid)

def Owner.qids (o : Owner) : List Nat := o.groups.flatMap QGroup.qids

/-- The queue ids in the live slots of all groups of all descriptors. -/
def State.qids (s : State) : List Nat := s.owners.flatMap Owner.qids

/-- A group keeps to its limit, and its live slots are its first ones. -/
structure QGroup.Filled (g : QGroup) : Prop where
  limit : g.maxQueues = nvmMaxQueuesPerGroup
  room : g.curQueues ≤ g.maxQueues
  alive : ∀ i, i < nvmMaxQueuesPerGroup → ((g.queues i).alive = true ↔ i < g.curQueues)

theorem State.mem_qids {s : State} {q : Nat} :
    q ∈ s.qids ↔ ∃ o ∈ s.owners, ∃ g ∈ o.groups, ∃ i, i < nvmMaxQueuesPerGroup ∧
      (g.queues i).alive = true ∧ (g.queues i).qid = q := by
  simp only [State.qids, Owner.qids, QGroup.qids, List.mem_flatMap, List.mem_map, List.mem_filter,
    List.mem_range, and_assoc]

/-- The loop of `destroy_qgroup_locked` over any slots: the live ones are freed,
    and deleted if the device is live, in order. -/
theorem destroySlots_eq (g : QGroup) (live : Bool) (is : List Nat) (pool : Option UserQidPool)
    (cmds : List AdminCmd) :
    is.foldl
      (fun acc i =>
        if (g.queues i).alive then
          (acc.1.map (fun p => p.free (g.queues i).qid),
            acc.2 ++ if live then deletePair (g.queues i).qid else [])
        else acc) (pool, cmds) =
      (pool.map (fun p =>
          p.freeAll ((is.filter (fun i => (g.queues i).alive)).map (fun i => (g.queues i).qid))),
        cmds ++ if live then
          ((is.filter (fun i => (g.queues i).alive)).map (fun i => (g.queues i).qid)).flatMap
            deletePair
        else []) := by
  induction is generalizing pool cmds with
  | nil => cases live <;> simp [UserQidPool.freeAll]
  | cons i is ih =>
    rw [List.foldl_cons]
    cases halive : (g.queues i).alive with
    | false =>
      rw [if_neg (by simp), ih, List.filter_cons_of_neg (by simp [halive])]
    | true =>
      rw [if_pos rfl, ih, List.filter_cons_of_pos (by simpa using halive), Option.map_map]
      refine Prod.ext rfl ?_
      cases live with
      | true | false => simp

/-- Destroying a group frees the ids of its live slots, the last one first, and
    deletes them if the device is live. -/
theorem destroyQgroup_eq (g : QGroup) (pool : Option UserQidPool) (live : Bool) :
    destroyQgroup g pool live = (pool.map (fun p => p.freeAll g.qids.reverse),
        if live then g.qids.reverse.flatMap deletePair else []) := by
  have hslots := destroySlots_eq g live (List.range nvmMaxQueuesPerGroup).reverse pool []
  rw [List.filter_reverse, List.map_reverse] at hslots
  exact hslots

/-- Destroying groups one after the other, as the release of a descriptor
    does. -/
theorem destroyGroups_eq (live : Bool) (gs : List QGroup) (pool : Option UserQidPool)
    (cmds : List AdminCmd) :
    gs.foldl
      (fun acc g =>
        ((destroyQgroup g acc.1 live).1, acc.2 ++ (destroyQgroup g acc.1 live).2)) (pool, cmds) =
      (pool.map (fun p => p.freeAll (gs.flatMap (fun g => g.qids.reverse))),
        cmds ++ if live then (gs.flatMap (fun g => g.qids.reverse)).flatMap deletePair else []) := by
  induction gs generalizing pool cmds with
  | nil => cases live <;> simp [UserQidPool.freeAll]
  | cons g gs ih =>
    rw [List.foldl_cons, ih, destroyQgroup_eq, Option.map_map]
    refine Prod.ext ?_ ?_
    · -- Freeing two lists in a row is freeing them joined.
      simp only [List.flatMap_cons, UserQidPool.freeAll, List.foldl_append]
      rfl
    · cases live with
      | true => simp only [if_true, List.append_assoc, List.flatMap_cons, List.flatMap_append]
      | false => simp

/-- Which slot an index reads after a batch was written. -/
theorem writeSlots_apply (uqs : List UserQueue) (queues : Nat → UserQueue) (start i : Nat) :
    writeSlots queues start uqs i =
      if i < start then queues i else (uqs[i - start]?).getD (queues i) := by
  induction uqs generalizing queues start with
  | nil => simp [writeSlots]
  | cons uq uqs ih =>
    rw [writeSlots, ih, Function.update_apply]
    by_cases hlt : i < start
    · rw [if_pos (by omega), if_pos hlt, if_neg (by omega)]
    · rw [if_neg hlt]
      by_cases heq : i = start
      · rw [if_pos (by omega), if_pos heq, heq, Nat.sub_self]
        rfl
      · rw [if_neg (by omega), if_neg heq, show i - start = i - (start + 1) + 1 by omega,
          List.getElem?_cons_succ]

theorem length_slotsOf {qids : List Nat} {pairs : List QueuePair} (h : qids.length = pairs.length)
    (alive : Bool) : (slotsOf qids pairs alive).length = qids.length := by
  rw [slotsOf, List.length_map, List.length_zip, h, Nat.min_self]

/-- The slots of a batch, by index. -/
theorem getElem?_slotsOf {qids : List Nat} {pairs : List QueuePair} (h : qids.length = pairs.length)
    (alive : Bool) {i : Nat} (hi : i < qids.length) :
    ∃ uq, (slotsOf qids pairs alive)[i]? = some uq ∧ uq.alive = alive ∧ uq.qid = qids[i] := by
  refine ⟨⟨qids[i], alive, pairs[i].sqVaddr, pairs[i].cqVaddr⟩, ?_, rfl, rfl⟩
  rw [slotsOf, List.getElem?_map, List.getElem?_eq_getElem (by rw [List.length_zip]; omega),
    List.getElem_zip]
  rfl

namespace QGroup

/-- The ids of a group whose live slots are its first ones. -/
theorem Filled.qids_eq {g : QGroup} (h : g.Filled) :
    g.qids = (List.range g.curQueues).map (fun i => (g.queues i).qid) := by
  have hroom := h.room
  rw [h.limit] at hroom
  rw [qids]
  -- Split the slots at the counter: those before it are live, the others not.
  obtain ⟨k, hk⟩ := Nat.exists_eq_add_of_le hroom
  rw [hk, List.range_add, List.filter_append, List.filter_eq_self.mpr, List.filter_eq_nil_iff.mpr,
    List.append_nil]
  · intro i hi
    rcases List.mem_map.mp hi with ⟨j, hj, rfl⟩
    rw [List.mem_range] at hj
    rw [h.alive (g.curQueues + j) (by omega)]
    omega
  · intro i hi
    rw [List.mem_range] at hi
    exact (h.alive i (by omega)).mpr hi

/-- A new group, with all slots zeroed. -/
theorem filled_new (groupId : Nat) :
    QGroup.Filled ⟨groupId, nvmMaxQueuesPerGroup, fun _ => default, 0⟩ where
  limit := rfl
  room := Nat.zero_le _
  alive := fun i _ => iff_of_false Bool.false_ne_true (Nat.not_lt_zero i)

variable {g : QGroup} {req : List QueuePair} {qids : List Nat}

/-- A batch that is committed: the slots behind the counter become live, and the
    group holds the batch's ids besides its own. -/
theorem Filled.commit (h : g.Filled) (hlen : qids.length = req.length)
    (hroom : g.curQueues + qids.length ≤ g.maxQueues) :
    let g' : QGroup :=
      { g with
        queues := writeSlots g.queues g.curQueues (slotsOf qids req true)
        curQueues := g.curQueues + qids.length }
    g'.Filled ∧ g'.qids = g.qids ++ qids := by
  intro g'
  have hold : ∀ i, i < g.curQueues → g'.queues i = g.queues i := fun i hi => by
    show writeSlots _ _ _ i = _
    rw [writeSlots_apply, if_pos hi]
  have hnew : ∀ i (hi : i < qids.length),
      (g'.queues (g.curQueues + i)).alive = true ∧ (g'.queues (g.curQueues + i)).qid = qids[i] := by
    intro i hi
    rcases getElem?_slotsOf hlen true hi with ⟨uq, huq, halive, hqid⟩
    have heq : g'.queues (g.curQueues + i) = uq := by
      show writeSlots _ _ _ _ = _
      rw [writeSlots_apply, if_neg (by omega), Nat.add_sub_cancel_left, huq, Option.getD_some]
    rw [heq]
    exact ⟨halive, hqid⟩
  have hfilled : g'.Filled := by
    refine ⟨h.limit, hroom, fun i hi => ?_⟩
    show _ ↔ i < g.curQueues + qids.length
    by_cases hlt : i < g.curQueues
    · rw [hold i hlt, h.alive i hi]
      omega
    · by_cases hin : i < g.curQueues + qids.length
      · obtain ⟨j, rfl⟩ := Nat.exists_eq_add_of_le (Nat.le_of_not_lt hlt)
        exact iff_of_true (hnew j (by omega)).1 hin
      · -- Behind the batch nothing was written.
        have hsame : g'.queues i = g.queues i := by
          show writeSlots _ _ _ i = _
          rw [writeSlots_apply, if_neg hlt, List.getElem?_eq_none, Option.getD_none]
          rw [length_slotsOf hlen]
          omega
        rw [hsame, h.alive i hi]
        omega
  refine ⟨hfilled, ?_⟩
  rw [hfilled.qids_eq, h.qids_eq]
  rw [List.range_add, List.map_append, List.map_map]
  congr 1
  · refine List.map_congr_left fun i hi => ?_
    rw [hold i (List.mem_range.mp hi)]
  · refine List.ext_getElem (by simp) fun i hi hi' => ?_
    rw [List.getElem_map, List.getElem_range]
    exact (hnew i hi').2

/-- A batch that is taken back: the slots written are dead, as they were. -/
theorem Filled.unwind (h : g.Filled) (hlen : qids.length = req.length) : let g' : QGroup :=
      { g with queues := writeSlots g.queues g.curQueues (slotsOf qids req false) }
    g'.Filled ∧ g'.qids = g.qids := by
  intro g'
  have hold : ∀ i, i < g.curQueues → g'.queues i = g.queues i := fun i hi => by
    show writeSlots _ _ _ i = _
    rw [writeSlots_apply, if_pos hi]
  have hfilled : g'.Filled := by
    refine ⟨h.limit, h.room, fun i hi => ?_⟩
    by_cases hlt : i < g.curQueues
    · rw [hold i hlt, h.alive i hi]
    · refine iff_of_false ?_ hlt
      show ¬ (writeSlots _ _ _ i).alive = true
      rw [writeSlots_apply, if_neg hlt]
      -- Behind the counter, a slot is one of the batch and dead, or was dead before.
      by_cases hin : i - g.curQueues < qids.length
      · rcases getElem?_slotsOf hlen false hin with ⟨uq, huq, halive, -⟩
        rw [huq, Option.getD_some, halive]
        simp
      · rw [List.getElem?_eq_none (by rw [length_slotsOf hlen]; omega), Option.getD_none,
          h.alive i hi]
        exact hlt
  refine ⟨hfilled, ?_⟩
  rw [hfilled.qids_eq, h.qids_eq]
  exact List.map_congr_left fun i hi => by rw [hold i (List.mem_range.mp hi)]

end QGroup

end Geminifs.Snvme
