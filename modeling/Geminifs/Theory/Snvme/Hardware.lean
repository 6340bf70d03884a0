import Geminifs.Theory.Snvme.Maps
import Geminifs.Theory.Snvme.Slots

/-!
# The Module and the Queues of the Controllers

A controller writes to the rings of its queues for as long as they exist, so a
map that serves as a ring has to stay registered until both queues of its pair
are deleted. The module does not record which maps those are; it relies on the
order in which a group is taken down, queues first.

`Served` is what ties the two sides together: a queue that a controller has is in
a live slot of some group, its rings are linked to that group, and they are
registered. Destroying a group and closing a descriptor keep it, and only release
maps that no queue uses. An `NVM_UNMAP_*` ioctl does not look for queues at all.

## Main definitions

* `sentTo`: The commands for one queue id of one controller.
* `Slotted`: The queues of the controllers are in slots.
* `Served`: Besides, their rings are registered.
* `ReleasedUnused`: A released map is no ring of any queue.
* `Spares`: An unmapping request does not name a ring in use.

## Theorems

* `Sending.sentTo_committed`, `Sending.sentTo_failed`: The commands of a batch for
  one queue.
* `served_step`: Every request keeps queues served, if it unmaps no ring in use.
* `rings_outlive_queues`: So does every run.
* `unmap_takes_ring`: A run in which a ring is unmapped under its queue.
-/

namespace Geminifs.Snvme

open Runs

variable {es : List Event} {size : Nat} {items : List Item} {r : Registered}

/-! ### Commands for one queue -/

/-- A command with the ring it names and whether it made a queue. -/
structure Sent where
  cmd : AdminCmd
  ring : Option Registered
  ok : Bool
  deriving DecidableEq, Repr

/-- The command, if the event is one for this controller and queue id. -/
def Event.to (key : Nat × Nat) : Event → Option Sent
  | .sent c cmd ring ok => if (c, cmd.qid) = key then some ⟨cmd, ring, ok⟩ else none
  | _ => none

/-- The commands for a queue id of a controller. -/
def sentTo (key : Nat × Nat) (es : List Event) : List Sent := es.filterMap (Event.to key)

def HwQueue.obey (h : HwQueue) (x : Sent) : HwQueue := h.command x.ring x.ok x.cmd

variable {c : Nat} (key : Nat × Nat)

theorem sentTo_append (es es' : List Event) :
    sentTo key (es ++ es') = sentTo key es ++ sentTo key es' := List.filterMap_append

theorem mem_sentTo {q : Nat} {x : Sent} :
    x ∈ sentTo (c, q) es ↔ .sent c x.cmd x.ring x.ok ∈ es ∧ x.cmd.qid = q := by
  rw [sentTo, List.mem_filterMap]
  constructor
  · rintro ⟨e, he, hx⟩
    cases e with
    | sent c' cmd =>
      by_cases hkey : (c', cmd.qid) = (c, q)
      · rw [Event.to, if_pos hkey] at hx
        cases hx
        rcases Prod.mk.inj hkey with ⟨rfl, rfl⟩
        exact ⟨he, rfl⟩
      · rw [Event.to, if_neg hkey] at hx
        cases hx
    | _ => cases hx
  · rintro ⟨he, rfl⟩
    exact ⟨_, he, if_pos rfl⟩

/-- What becomes of a queue id depends on the commands for it alone, unless its controller
    is restarted. -/
theorem run_apply_sentTo (h : ∀ c, .restarted c ∉ es) (hw : Hw) (key : Nat × Nat) :
    run Hw.apply hw es key = run HwQueue.obey (hw key) (sentTo key es) := by
  induction es generalizing hw with
  | nil => rfl
  | cons e _ ih =>
    rw [run, ih (fun c hc => h c (List.mem_cons_of_mem _ hc))]
    cases e with
    | sent c cmd ring ok =>
      -- The observer of one queue id skips a command for another one.
      show run HwQueue.obey ((hw key).apply key (.sent c cmd ring ok)) _ = _
      by_cases hkey : (c, cmd.qid) = key
      · rw [HwQueue.apply, if_pos hkey, sentTo, sentTo, List.filterMap_cons, Event.to, if_pos hkey]
        rfl
      · rw [HwQueue.apply, if_neg hkey, sentTo, sentTo, List.filterMap_cons, Event.to, if_neg hkey]
    | registered | unmapped => rfl
    | restarted c => exact absurd List.mem_cons_self (h c)

theorem run_apply_sent (h : ∀ e ∈ es, e.isSent = true) (hw : Hw) (key : Nat × Nat) :
    run Hw.apply hw es key = run HwQueue.obey (hw key) (sentTo key es) :=
  run_apply_sentTo (fun _ hc => absurd (h _ hc) Bool.false_ne_true) hw key

/-- Blocks of commands, each for a queue id of its own: one of them is all that
    the queue id gets. -/
theorem sentTo_blocks {α : Type} {l : List α} {id : α → Nat} {f : α → List Event}
    {w : α → List Sent} (hnodup : (l.map id).Nodup)
    (hf : ∀ x key, sentTo key (f x) = if (c, id x) = key then w x else []) (key : Nat × Nat) :
    (∃ x ∈ l, (c, id x) = key ∧ sentTo key (l.flatMap f) = w x) ∨
      ((∀ x ∈ l, (c, id x) ≠ key) ∧ sentTo key (l.flatMap f) = []) := by
  induction l with
  | nil => exact .inr ⟨nofun, rfl⟩
  | cons x _ ih =>
    rw [List.map_cons, List.nodup_cons] at hnodup
    rw [List.flatMap_cons, sentTo_append, hf]
    by_cases hx : (c, id x) = key
    · -- The others have other ids.
      rw [if_pos hx]
      refine .inl ⟨x, List.mem_cons_self, hx, ?_⟩
      rcases ih hnodup.2 with ⟨y, hy, hkey, -⟩ | ⟨-, hnil⟩
      · have hid : id x = id y := congrArg Prod.snd (hx.trans hkey.symm)
        rw [hid] at hnodup
        exact absurd (List.mem_map_of_mem hy) hnodup.1
      · rw [hnil, List.append_nil]
    · rw [if_neg hx]
      rcases ih hnodup.2 with ⟨y, hy, hrest⟩ | ⟨hne, hnil⟩
      · exact .inl ⟨y, List.mem_cons_of_mem _ hy, hrest⟩
      · exact .inr ⟨List.forall_mem_cons.mpr ⟨hx, hne⟩, hnil⟩

/-- The commands that make a pair. -/
def madeSent (size : Nat) (x : Item) : List Sent :=
  [⟨.createCq x.1 x.2.2.desc.addr size, some x.2.2, true⟩,
    ⟨.createSq x.1 x.2.1.desc.addr size, some x.2.1, true⟩]

/-- The commands that delete a pair. -/
def deletedSent (q : Nat) : List Sent := [⟨.deleteSq q, none, true⟩, ⟨.deleteCq q, none, true⟩]

theorem sentTo_madeEvents (c size : Nat) (x : Item) (key : Nat × Nat) :
    sentTo key (madeEvents c size x) = if (c, x.1) = key then madeSent size x else [] := by
  by_cases hkey : (c, x.1) = key
  · simp [sentTo, madeEvents, Item.createCq, Item.createSq, Event.to, AdminCmd.qid, hkey, madeSent]
  · simp [sentTo, madeEvents, Item.createCq, Item.createSq, Event.to, AdminCmd.qid, hkey]

theorem sentTo_deletePair (c q : Nat) (key : Nat × Nat) :
    sentTo key (deleteEvents c (deletePair q)) = if (c, q) = key then deletedSent q else [] := by
  by_cases hkey : (c, q) = key
  · simp [sentTo, deleteEvents, deletePair, Event.to, AdminCmd.qid, hkey, deletedSent]
  · simp [sentTo, deleteEvents, deletePair, Event.to, AdminCmd.qid, hkey]

theorem deleteEvents_flatMap (c : Nat) (ks : List Nat) : deleteEvents c (ks.flatMap deletePair) =
      ks.flatMap (fun q => deleteEvents c (deletePair q)) := List.map_flatMap

/-- The commands of a batch that is committed, for one queue. -/
theorem Sending.sentTo_committed (h : Sending c size items true es)
    (hnodup : (items.map Prod.fst).Nodup) (key : Nat × Nat) :
    (∃ x ∈ items, (c, x.1) = key ∧ Snvme.sentTo key es = madeSent size x) ∨
      ((∀ x ∈ items, (c, x.1) ≠ key) ∧ Snvme.sentTo key es = []) := by
  cases h
  exact sentTo_blocks hnodup (fun x key => sentTo_madeEvents c size x key) key

/-- Every id of a batch that is committed gets its two commands. -/
theorem Sending.made_of_mem {q : Nat} (h : Sending c size items true es)
    (hnodup : (items.map Prod.fst).Nodup) (hq : q ∈ items.map Prod.fst) :
    ∃ x, Snvme.sentTo (c, q) es = madeSent size x := by
  rcases h.sentTo_committed hnodup (c, q) with ⟨x, -, -, hsent⟩ | ⟨hne, -⟩
  · exact ⟨x, hsent⟩
  · rcases List.mem_map.mp hq with ⟨x, hx, rfl⟩
    exact absurd rfl (hne x hx)

/-- What a batch that failed has done to one queue. -/
inductive Undone (size : Nat) (x : Item) : List Sent → Prop where
  | cq : Undone size x [⟨.createCq x.1 x.2.2.desc.addr size, some x.2.2, false⟩]
  | sq : Undone size x [⟨.createCq x.1 x.2.2.desc.addr size, some x.2.2, true⟩,
      ⟨.createSq x.1 x.2.1.desc.addr size, some x.2.1, false⟩, ⟨.deleteCq x.1, none, true⟩]
  | made : Undone size x (madeSent size x ++ deletedSent x.1)

/-- The queue that stopped the loop, and no other. -/
theorem Stopped.sentTo {rest : List Item} {stop : List Event} (h : Stopped c size rest stop)
    (key : Nat × Nat) :
    (∃ x ∈ rest, (c, x.1) = key ∧ Undone size x (sentTo key stop)) ∨ sentTo key stop = [] := by
  cases h with
  | complete => exact .inr rfl
  | cq x =>
    by_cases hkey : (c, x.1) = key
    · -- Nothing was made, so there is nothing to take back.
      refine .inl ⟨x, List.mem_cons_self, hkey, ?_⟩
      simp only [Snvme.sentTo, Item.createCq, List.filterMap_cons, Event.to, AdminCmd.qid, hkey,
        if_true, List.filterMap_nil]
      exact .cq
    · exact .inr (by simp [Snvme.sentTo, Item.createCq, Event.to, AdminCmd.qid, hkey])
  | sq x =>
    by_cases hkey : (c, x.1) = key
    · -- Only the completion queue was made, and it is deleted on the spot.
      refine .inl ⟨x, List.mem_cons_self, hkey, ?_⟩
      simp only [Snvme.sentTo, Item.createCq, Item.createSq, List.filterMap_cons, Event.to,
        AdminCmd.qid, hkey, if_true, List.filterMap_nil]
      exact .sq
    · exact .inr (by
        simp [Snvme.sentTo, Item.createCq, Item.createSq, Event.to, AdminCmd.qid, hkey])

/-- The commands of a batch that failed, for one queue. -/
theorem Sending.sentTo_failed (h : Sending c size items false es)
    (hnodup : (items.map Prod.fst).Nodup) (key : Nat × Nat) :
    (∃ x ∈ items, (c, x.1) = key ∧ Undone size x (Snvme.sentTo key es)) ∨
      Snvme.sentTo key es = [] := by
  cases h with
  | failed made _ stop back hitems hstop hback =>
    rw [hitems, List.map_append, List.nodup_append'] at hnodup
    have hmade := sentTo_blocks hnodup.1 (fun x key => sentTo_madeEvents c size x key) key
    have hbackNodup : (back.map id).Nodup := by
      rw [List.map_id, hback.nodup_iff]
      exact hnodup.1
    have hdeleted := sentTo_blocks hbackNodup (fun q key => sentTo_deletePair c q key) key
    rw [sentTo_append, sentTo_append, deleteEvents_flatMap]
    rcases hmade with ⟨x, hx, hkey, hmade⟩ | ⟨hne, hmade⟩
    · -- The pair was made, so it did not stop the loop, and it is deleted.
      have hxid : x.1 ∈ made.map Prod.fst := List.mem_map_of_mem hx
      have hstopped : Snvme.sentTo key stop = [] := by
        rcases hstop.sentTo key with ⟨y, hy, hkey', -⟩ | hnil
        · have hid : x.1 = y.1 := congrArg Prod.snd (hkey.trans hkey'.symm)
          rw [hid] at hxid
          exact absurd (List.mem_map_of_mem hy) (hnodup.2.2 hxid)
        · exact hnil
      refine .inl ⟨x, by rw [hitems]; exact List.mem_append_left _ hx, hkey, ?_⟩
      rcases hdeleted with ⟨q, -, hq, hdeleted⟩ | ⟨hnone, -⟩
      · have hid : q = x.1 := congrArg Prod.snd (hq.trans hkey.symm)
        rw [hmade, hstopped, hdeleted, hid]
        exact .made
      · exact absurd hkey (hnone x.1 (hback.symm.subset hxid))
    · have hkept : Snvme.sentTo key (back.flatMap fun q => deleteEvents c (deletePair q)) = [] := by
        rcases hdeleted with ⟨q, hq, hkey, -⟩ | ⟨-, hnil⟩
        · rcases List.mem_map.mp (hback.subset hq) with ⟨y, hy, rfl⟩
          exact absurd hkey (hne y hy)
        · exact hnil
      rw [hmade, hkept, List.append_nil]
      rcases hstop.sentTo key with ⟨y, hy, hkey, hundone⟩ | hnil
      · exact .inl ⟨y, by rw [hitems]; exact List.mem_append_right _ hy, hkey, hundone⟩
      · exact .inr hnil

/-! ### Queues and slots -/

/-- A queue that a controller has is in a live slot, and the controller is
    bound. -/
structure Slotted (d : Driver) (hw : Hw) : Prop where
  bound : ∀ key, hw key ≠ HwQueue.none → (d.ctrls key.1).ndev.isSome
  slot : ∀ key, hw key ≠ HwQueue.none → ∃ gk, (gk, key.2) ∈ (d.ctrls key.1).slots

/-- A queue that a controller has is in a live slot of a group while the
    controller is bound, its rings are linked to the group, and they are
    registered. -/
structure Served (d : Driver) (hw : Hw) : Prop where
  bound : ∀ key, hw key ≠ HwQueue.none → (d.ctrls key.1).ndev.isSome
  slot : ∀ key, hw key ≠ HwQueue.none → ∃ gk, (gk, key.2) ∈ (d.ctrls key.1).slots ∧
    ∀ ring ∈ (hw key).rings, ring.desc.link = .group gk.1 gk.2
  pinned : ∀ key, ∀ ring ∈ (hw key).rings, ring ∈ d.regs

/-- A released map has no group in common with the ring of any queue. -/
def ReleasedApart (hw : Hw) (e : Event) : Prop :=
  ∀ r, e = .unmapped r → ∀ key, ∀ ring ∈ (hw key).rings, ring.desc.link ≠ r.desc.link

/-- A released map is no ring of any queue. -/
def ReleasedUnused (hw : Hw) (e : Event) : Prop :=
  ∀ r, e = .unmapped r → ∀ key, r ∉ (hw key).rings

variable {hw : Hw}

theorem ReleasedApart.unused {e : Event} (h : ReleasedApart hw e) :
    ReleasedUnused hw e := fun r he key hr => h r he key r hr rfl

variable {d : Driver}

theorem Served.slotted (h : Served d hw) : Slotted d hw where
  bound := h.bound
  slot key hne := by
    rcases h.slot key hne with ⟨gk, hslot, -⟩
    exact ⟨gk, hslot⟩

/-- What a queue has to have to be served. -/
def ServedAt (d : Driver) (key : Nat × Nat) (h : HwQueue) : Prop :=
  (d.ctrls key.1).ndev.isSome ∧ ∃ gk, (gk, key.2) ∈ (d.ctrls key.1).slots ∧
    ∀ ring ∈ h.rings, ring.desc.link = .group gk.1 gk.2 ∧ ring ∈ d.regs

theorem Served.at (h : Served d hw) {key : Nat × Nat}
    (hne : hw key ≠ HwQueue.none) : ServedAt d key (hw key) := by
  rcases h.slot key hne with ⟨gk, hslot, hlinks⟩
  exact ⟨h.bound key hne, gk, hslot, fun ring hring => ⟨hlinks ring hring, h.pinned key ring hring⟩⟩

theorem served_empty (d : Driver) : Served d Hw.empty where
  bound := fun _ h => absurd rfl h
  slot := fun _ h => absurd rfl h
  pinned := nofun

theorem ne_none_of_ring {h : HwQueue} {ring : Registered} (hring : ring ∈ h.rings) :
    h ≠ HwQueue.none := by
  rintro rfl
  cases hring

theorem served_of_forall
    (h : ∀ key, hw key ≠ HwQueue.none → ServedAt d key (hw key)) : Served d hw := by
  refine ⟨fun key hne => (h key hne).1, fun key hne => ?_, fun key ring hring => ?_⟩
  · rcases h key hne with ⟨-, gk, hslot, hrings⟩
    exact ⟨gk, hslot, fun ring hring => (hrings ring hring).1⟩
  · -- A queue with a ring exists.
    rcases h key (ne_none_of_ring hring) with ⟨-, _, -, hrings⟩
    exact (hrings ring hring).2

/-- A queue with a ring of a group is in a slot of that group. -/
theorem Served.held (h : Served d hw) (hn : Names d) {own : Owner}
    {g : QGroup} (hown : own ∈ (d.ctrls c).owners) (hg : g ∈ own.groups) {key : Nat × Nat}
    {ring : Registered} (hring : ring ∈ (hw key).rings)
    (hlink : ring.desc.link = .group own.fd g.groupId) :
    key.1 = c ∧ (d.ctrls c).ndev.isSome ∧ key.2 ∈ g.qids := by
  have hne := ne_none_of_ring hring
  rcases h.slot key hne with ⟨_, hslot, hlinks⟩
  rw [hlinks ring hring] at hlink
  rcases State.mem_slots.mp hslot with ⟨o, ho, -, g', hg', hid, hq⟩
  have hids : g'.groupId = g.groupId := hid.trans (MapLink.group.inj hlink).2
  rcases hn.unique ho hg' hown hg hids with ⟨hc, -, rfl⟩
  refine ⟨hc, ?_, hq⟩
  rw [← hc]
  exact h.bound key hne

/-- Deleting a pair leaves nothing, whatever there was. -/
theorem obey_deletedSent (h : HwQueue) (q : Nat) :
    run HwQueue.obey h (deletedSent q) = HwQueue.none := by
  rcases h with ⟨cq, _, _⟩
  cases cq <;> rfl

variable {x : Item}

/-- Deleting queues: whatever a queue id had is gone. -/
theorem obey_deletes (c : Nat) (ks : List Nat) (h : HwQueue) (key : Nat × Nat) :
    run HwQueue.obey h (sentTo key (deleteEvents c (ks.flatMap deletePair))) =
      if key.1 = c ∧ key.2 ∈ ks then HwQueue.none else h := by
  induction ks generalizing h with
  | nil =>
    rw [if_neg (by simp)]
    rfl
  | cons q ks ih =>
    rw [deleteEvents_flatMap, List.flatMap_cons, sentTo_append, ← deleteEvents_flatMap, run_append,
      ih, sentTo_deletePair]
    by_cases hkey : (c, q) = key
    · rw [if_pos hkey, obey_deletedSent, ← hkey, ite_self, if_pos ⟨rfl, List.mem_cons_self⟩]
    · rw [if_neg hkey]
      refine if_congr ?_ rfl rfl
      rw [List.mem_cons]
      exact ⟨fun h => ⟨h.1, .inr h.2⟩, fun h =>
        ⟨h.1, h.2.resolve_left fun hq => hkey (Prod.ext h.1.symm hq.symm)⟩⟩

/-- Releasing maps does not concern the controllers. -/
theorem run_apply_unmapped (us : List Registered) (hw : Hw) :
    run Hw.apply hw (us.map .unmapped) = hw := by
  induction us with
  | nil => rfl
  | cons _ _ ih => exact ih

theorem along_unmapped {P : Hw → Event → Prop} {us : List Registered}
    (h : ∀ u ∈ us, P hw (.unmapped u)) : Along Hw.apply P hw (us.map .unmapped) := by
  induction us with
  | nil => trivial
  | cons u _ ih =>
    exact ⟨h u List.mem_cons_self, ih (List.forall_mem_cons.mp h).2⟩

/-- Commands release nothing. -/
theorem along_sent (h : ∀ e ∈ es, e.isSent = true) (hw : Hw) :
    Along Hw.apply ReleasedApart hw es := by
  refine along_of_forall fun _ e he r heq => ?_
  have hsent := h e he
  rw [heq] at hsent
  exact absurd hsent Bool.false_ne_true

/-! ### Destroying groups -/

variable {d : Driver} {hw : Hw} {c : Nat} {own : Owner}

theorem sentTo_unmapped (key : Nat × Nat) (us : List Registered) :
    sentTo key (us.map .unmapped) = [] := by
  rw [sentTo, List.filterMap_map]
  exact List.filterMap_eq_nil_iff.mpr fun _ _ => rfl

/-- The commands for groups that are destroyed: none without a device, although the ids
    are freed all the same. -/
theorem sentTo_dropEvents (d : Driver) (c fd : Nat) (gs : List QGroup) (key : Nat × Nat) :
    sentTo key (gs.flatMap (d.dropEvents c fd)) = if (d.ctrls c).ndev.isSome then
        sentTo key (deleteEvents c ((gs.flatMap fun g => g.qids.reverse).flatMap deletePair))
      else [] := by
  induction gs with
  | nil => split <;> rfl
  | cons g _ ih =>
    rw [List.flatMap_cons, sentTo_append, ih, Driver.dropEvents, sentTo_append, sentTo_unmapped,
      List.append_nil, destroyQgroup_eq]
    split
    · rw [List.flatMap_cons, List.flatMap_append, deleteEvents, deleteEvents, deleteEvents,
        List.map_append, sentTo_append]
    · rfl

/-- The queues after groups were destroyed. -/
theorem run_apply_dropEvents (d : Driver) (c fd : Nat) (gs : List QGroup) (hw : Hw)
    (key : Nat × Nat) :
    run Hw.apply hw (gs.flatMap (d.dropEvents c fd)) key =
      if key.1 = c ∧ (d.ctrls c).ndev.isSome ∧ ∃ g ∈ gs, key.2 ∈ g.qids then HwQueue.none
      else hw key := by
  rw [run_apply_sentTo (by simp [Driver.dropEvents, deleteEvents]), sentTo_dropEvents]
  cases (d.ctrls c).ndev.isSome with
  | false => simp [run]
  | true =>
    rw [if_pos rfl, obey_deletes]
    simp

/-- Queues are served if each of them was, or is now. -/
theorem Served.extend {hw' : Hw} (h : Served d hw)
    (hnew : ∀ key, hw' key ≠ HwQueue.none → hw' key = hw key ∨ ServedAt d key (hw' key)) :
    Served d hw' := by
  refine served_of_forall fun key hne => ?_
  rcases hnew key hne with heq | hat
  · rw [heq] at hne ⊢
    exact h.at hne
  · exact hat

/-- Fewer queues are served as well as before. -/
theorem Served.of_le {hw' : Hw} (h : Served d hw)
    (hle : ∀ key, hw' key = hw key ∨ hw' key = HwQueue.none) : Served d hw' :=
  h.extend fun key hne => .inl ((hle key).resolve_right hne)

theorem Served.drop (h : Served d hw) (fd : Nat) (gs : List QGroup) :
    Served d (run Hw.apply hw (gs.flatMap (d.dropEvents c fd))) := by
  refine h.of_le fun _ => ?_
  rw [run_apply_dropEvents]
  split
  · exact .inr rfl
  · exact .inl rfl

/-- When the maps of a group are released, its queues have been deleted. -/
theorem along_dropEvents (h : Served d hw) (hn : Names d) (hown : own ∈ (d.ctrls c).owners)
    {gs : List QGroup} (hgs : ∀ g ∈ gs, g ∈ own.groups) :
    Along Hw.apply ReleasedApart hw (gs.flatMap (d.dropEvents c own.fd)) := by
  induction gs generalizing hw with
  | nil => trivial
  | cons g _ ih =>
    have hdropped := run_apply_dropEvents d c own.fd [g] hw
    have hserved := h.drop (c := c) own.fd [g]
    rw [List.flatMap_singleton] at hdropped hserved
    rw [List.flatMap_cons, along_append]
    refine ⟨?_, ih hserved (List.forall_mem_cons.mp hgs).2⟩
    rw [Driver.dropEvents, along_append]
    refine ⟨along_sent (deleteEvents_isSent c _) hw, along_unmapped fun u hu => ?_⟩
    -- The maps go after the last command, so the queues are what they are at the end.
    have hafter : run Hw.apply hw (deleteEvents c
        (destroyQgroup g (d.ctrls c).pool (d.ctrls c).ndev.isSome).2) =
        run Hw.apply hw (d.dropEvents c own.fd g) := by
      rw [Driver.dropEvents, run_append, run_apply_unmapped]
    rw [hafter]
    intro r hr _ _ hring hlink
    rw [← Event.unmapped.inj hr, (mem_groupMaps.mp hu).2] at hlink
    have hheld := hserved.held hn hown (hgs g List.mem_cons_self) hring hlink
    rw [hdropped, if_pos ⟨hheld.1, hheld.2.1, g, List.mem_singleton.mpr rfl, hheld.2.2⟩] at hring
    cases hring

/-! ### Requests -/

variable {req : Request}

/-- Queues that were served stay so if the slots of their groups and their rings
    stay. -/
theorem Served.step (h : Served d hw) (hndev : (d.result req).state.ndev = (d.ctrls req.ctrl).ndev)
    (hslots : ∀ key gk, key.1 = req.ctrl → hw key ≠ HwQueue.none →
      (gk, key.2) ∈ (d.ctrls req.ctrl).slots → (gk, key.2) ∈ (d.result req).state.slots)
    (hpin : ∀ key, ∀ ring ∈ (hw key).rings, ring ∈ (d.step req).regs) :
    Served (d.step req) hw := by
  refine served_of_forall fun key hne => ?_
  rcases h.at hne with ⟨hbound, gk, hslot, hrings⟩
  -- A request changes the slots of its own controller only.
  have hctrl : (((d.step req).ctrls key.1).ndev.isSome = true) ∧
      (gk, key.2) ∈ ((d.step req).ctrls key.1).slots := by
    by_cases hc : key.1 = req.ctrl
    · rw [hc] at hbound hslot
      rw [hc, step_ctrls_self, hndev]
      exact ⟨hbound, hslots key gk hc hne hslot⟩
    · rw [step_ctrls_ne d hc]
      exact ⟨hbound, hslot⟩
  exact ⟨hctrl.1, gk, hctrl.2, fun ring hring => ⟨(hrings ring hring).1, hpin key ring hring⟩⟩

/-- The same where no map is released and no slot lost. -/
theorem Served.step_of_perm (h : Served d hw)
    (hndev : (d.result req).state.ndev = (d.ctrls req.ctrl).ndev)
    (hslots : (d.result req).state.slots.Perm (d.ctrls req.ctrl).slots)
    (hregs : ∀ r ∈ d.regs, r ∈ (d.step req).regs) : Served (d.step req) hw :=
  h.step hndev (fun _ _ _ _ hslot => hslots.symm.subset hslot)
    (fun key ring hring => hregs ring (h.pinned key ring hring))

/-- A controller that is bound, reset or unbound has no queues left. -/
theorem Served.restart (h : Served d hw) (hevents : d.events req = [.restarted req.ctrl]) :
    Served (d.step req) (run Hw.apply hw [.restarted req.ctrl]) := by
  have hkey : ∀ key, key.1 = req.ctrl → run Hw.apply hw [.restarted req.ctrl] key = HwQueue.none :=
    fun key hc => if_pos hc.symm
  have hother : ∀ key, key.1 ≠ req.ctrl → run Hw.apply hw [.restarted req.ctrl] key = hw key :=
    fun key hc => if_neg (Ne.symm hc)
  -- So a queue that is left is on another controller, where nothing changed.
  refine served_of_forall fun key hne => ?_
  have hc : key.1 ≠ req.ctrl := fun hc => hne (hkey key hc)
  rw [hother key hc] at hne ⊢
  rw [ServedAt, step_ctrls_ne d hc, step_regs, hevents]
  exact h.at hne

/-- Destroying groups of a descriptor: the slots given up had their queues
    deleted, and what is released is linked to these groups or to none. -/
theorem Served.destroyed {gs : List QGroup} {lost : List ((Nat × Nat) × Nat)} (h : Served d hw)
    (us : List Registered) (hs : Sound d)
    (hown : own ∈ (d.ctrls req.ctrl).owners) (hgs : ∀ g ∈ gs, g ∈ own.groups)
    (hndev : (d.result req).state.ndev = (d.ctrls req.ctrl).ndev)
    (hperm : (lost ++ (d.result req).state.slots).Perm (d.ctrls req.ctrl).slots)
    (hlost : ∀ x ∈ lost, ∃ g ∈ gs, x.2 ∈ g.qids)
    (hregs : (d.step req).regs = without us d.regs)
    (hus : ∀ u ∈ us, u ∈ d.regs ∧ ((∃ g ∈ gs, u.desc.link = .group own.fd g.groupId) ∨
      ∀ f groupId, u.desc.link ≠ .group f groupId)) :
    Served (d.step req) (run Hw.apply hw (gs.flatMap (d.dropEvents req.ctrl own.fd))) := by
  have hgone := run_apply_dropEvents d req.ctrl own.fd gs hw
  have hserved := h.drop (c := req.ctrl) own.fd gs
  refine hserved.step hndev (fun key gk hc hne hslot => ?_) (fun key ring hring => ?_)
  · rcases List.mem_append.mp (hperm.symm.subset hslot) with hin | hleft
    · rcases hlost _ hin with ⟨g, hg, hq⟩
      have hbound := hserved.bound key hne
      rw [hc] at hbound
      exact absurd (by rw [hgone, if_pos ⟨hc, hbound, g, hg, hq⟩]) hne
    · exact hleft
  · have hmem := hserved.pinned key ring hring
    rw [hregs, mem_without]
    refine ⟨hmem, fun u hu hid => ?_⟩
    have hsame := hs.regs.eq_of_id hmem (hus u hu).1 hid
    rcases (hus u hu).2 with ⟨g, hg, hlink⟩ | hnone
    · -- A ring of a destroyed group would belong to a queue that was deleted.
      rw [← hsame] at hlink
      have hheld := hserved.held hs.names hown (hgs g hg) hring hlink
      rw [hgone, if_pos ⟨hheld.1, hheld.2.1, g, hg, hheld.2.2⟩] at hring
      cases hring
    · rcases hserved.slot key (ne_none_of_ring hring) with ⟨_, -, hlinks⟩
      rw [← hsame] at hnone
      exact hnone _ _ (hlinks ring hring)

/-- What a close releases besides its groups' maps is linked to no group. -/
theorem purged_link (hr : Regs d) (h : r ∈ d.purged own) :
    ∀ f groupId, r.desc.link ≠ .group f groupId := by
  intro f _ hlink
  rcases mem_purged.mp h with ⟨hmem, -, hdata | ⟨-, hzero⟩⟩
  · rw [hdata] at hlink
    cases hlink
  · have hplaced := hr.placed r hmem
    rw [MapDesc.Placed, hlink] at hplaced
    exact hplaced.2.2.1 (hplaced.2.1.symm.trans hzero)

/-- A close destroys the groups of the descriptor and then releases maps that are
    no rings. -/
theorem along_closeEvents (h : Served d hw) (hs : Sound d) (hown : own ∈ (d.ctrls c).owners) :
    Along Hw.apply ReleasedApart hw (d.closeEvents c own) := by
  rw [Driver.closeEvents, along_append]
  refine ⟨along_dropEvents h hs.names hown fun g hg => hg, along_unmapped fun u hu => ?_⟩
  intro r hr key ring hring hlink
  rcases (h.drop own.fd own.groups).slot key (ne_none_of_ring hring) with ⟨_, -, hlinks⟩
  rw [hlinks ring hring, ← Event.unmapped.inj hr] at hlink
  exact purged_link hs.regs hu _ _ hlink.symm

section Batches

variable {g : QGroup} {pairs : List QueuePair} {ndev : NvmeDev} {p p' : UserQidPool}
  {qids : List Nat} {items : List Item} {es : List Event} {size : Nat}

section

variable (hb : Batch d c own g pairs ndev p p' qids items)

include hb

/-- The ids of a batch are distinct. -/
theorem Batch.ids_nodup (hs : Sound d) (hgrant : GrantsBelow d) : (items.map Prod.fst).Nodup := by
  rw [hb.ids]
  exact (hb.fresh hs hgrant).1

theorem Batch.mem_ids (hx : x ∈ items) : x.1 ∈ qids := by
  rw [← hb.ids]
  exact List.mem_map_of_mem hx

/-- The rings of a batch are maps of its group. -/
theorem Batch.ring (hx : x ∈ items) {ring : Registered} (hring : ring ∈ [x.2.2, x.2.1]) :
    ring ∈ d.regs ∧ ring.desc.link = .group own.fd g.groupId := by
  rcases List.mem_cons.mp hring with rfl | hring
  · exact mem_groupMaps.mp (hb.cq x hx).1
  · rw [List.mem_singleton.mp hring]
    exact mem_groupMaps.mp (hb.sq x hx).1

end

section

variable (h : Slotted d hw) (hs : Sound d) (hgrant : GrantsBelow d)
  (hb : Batch d c own g pairs ndev p p' qids items)

include h hs hgrant hb

/-- The ids of a batch have no queues yet. -/
theorem Slotted.batch (hx : x ∈ items) : hw (c, x.1) = HwQueue.none := by
  by_contra hne
  rcases h.slot _ hne with ⟨_, hslot⟩
  refine (hb.fresh hs hgrant).2.2 x.1 (hb.mem_ids hx) ?_
  rw [State.qids_eq_slots]
  exact List.mem_map_of_mem hslot

/-- A batch that failed leaves the queues as they were. -/
theorem Slotted.failed (hsend : Sending c size items false es) :
    run Hw.apply hw es = hw := by
  funext key
  rw [run_apply_sent hsend.isSent]
  rcases hsend.sentTo_failed (hb.ids_nodup hs hgrant) key with ⟨x, hx, rfl, hundone⟩ | hnil
  · rw [h.batch hs hgrant hb hx]
    generalize sentTo (c, x.1) es = w at hundone ⊢
    cases hundone with
    | cq | sq => rfl
    | made => rw [run_append, obey_deletedSent]
  · rw [hnil]
    rfl

/-- A batch that is committed gives its ids two queues each, and the others stay. -/
theorem Slotted.made (hsend : Sending c size items true es) (key : Nat × Nat) :
    (∃ x ∈ items, (c, x.1) = key ∧
      run Hw.apply hw es key = ⟨true, true, [x.2.2, x.2.1]⟩) ∨ run Hw.apply hw es key = hw key := by
  rw [run_apply_sent hsend.isSent]
  rcases hsend.sentTo_committed (hb.ids_nodup hs hgrant) key with ⟨x, hx, hkey, hsent⟩ | ⟨-, hsent⟩
  · refine .inl ⟨x, hx, hkey, ?_⟩
    rw [hsent, ← hkey, h.batch hs hgrant hb hx]
    rfl
  · rw [hsent]
    exact .inr rfl

end

/-- A batch that is committed: its queues are in the slots that it was given. -/
theorem Served.committed (h : Served d hw) (hs : Sound d) (hgrant : GrantsBelow d)
    (hb : Batch d req.ctrl own g pairs ndev p p' qids items)
    (howners : (d.result req).state.owners =
      ((d.ctrls req.ctrl).updateOwner own.fd (Owner.putGroup (g.commit qids pairs))).owners)
    (hndev : (d.result req).state.ndev = (d.ctrls req.ctrl).ndev)
    (hsend : Sending req.ctrl (qsize ndev) items true (d.events req)) :
    Served (d.step req) (run Hw.apply hw (d.events req)) := by
  have hperm := hb.slots_commit hs hgrant howners
  have hregs : (d.step req).regs = d.regs := by rw [step_regs, run_onRegs_sent hsend.isSent]
  have hdev : (d.ctrls req.ctrl).ndev = some ndev := hb.alloc.dev
  -- The queues that there were keep their slots and rings.
  have hold : Served (d.step req) hw := h.step hndev
    (fun key _ _ _ hslot => hperm.symm.subset (List.mem_append_right _ hslot))
    (fun key ring hring => by rw [hregs]; exact h.pinned key ring hring)
  refine hold.extend fun key _ => ?_
  rcases h.slotted.made hs hgrant hb hsend key with ⟨x, hx, rfl, heq⟩ | heq
  · refine .inr ⟨?_, (own.fd, g.groupId), ?_, fun _ hring => ?_⟩
    · rw [step_ctrls_self, hndev, hdev]
      rfl
    · rw [step_ctrls_self]
      exact hperm.symm.subset
        (List.mem_append_left _ (List.mem_map.mpr ⟨x.1, hb.mem_ids hx, rfl⟩))
    · rw [heq] at hring
      rw [hregs]
      exact (hb.ring hx hring).symm
  · exact .inl heq

end Batches

/-- The list, the task and the address that an `NVM_UNMAP_*` ioctl hands to
    `map_find`. -/
def Request.target : Request → Option (MapList × Nat × Nat)
  | .ioctl _ _ task (.unmapHost vaddr true) => some (.host, task, vaddr)
  | .ioctl _ _ task (.unmapDevice vaddr true) => some (.device, task, vaddr)
  | .ioctl _ _ task (.unmapDeviceQueue vaddr true) => some (.deviceQueue, task, vaddr)
  | _ => none

/-- The map at the address of an unmapping request, if there is one, is no ring of
    a queue that exists. -/
def Spares (hw : Hw) (d : Driver) (req : Request) : Prop :=
  ∀ list task vaddr, req.target = some (list, task, vaddr) →
    ∀ r, d.regs.find? (fun x => mapFind list task vaddr x.desc) = some r → ∀ key, r ∉ (hw key).rings

theorem unmapEvents_found (d : Driver) (list : MapList) (task vaddr : Nat) {ok : Bool}
    (htarget : ok = true → req.target = some (list, task, vaddr)) :
    ∃ us : List Registered, d.unmapEvents list task vaddr ok = us.map .unmapped ∧
      ∀ u ∈ us, ∃ list task vaddr, req.target = some (list, task, vaddr) ∧
        d.regs.find? (fun x => mapFind list task vaddr x.desc) = some u := by
  cases ok with
  | false => exact ⟨[], rfl, nofun⟩
  | true => exact ⟨_, rfl, fun u hu => ⟨list, task, vaddr, htarget rfl, Option.mem_toList.mp hu⟩⟩

/-- All that an unmapping request does is to release the map at its address. -/
theorem events_unmaps (d : Driver) (hreq : req.unmaps = true) :
    ∃ us : List Registered, d.events req = us.map .unmapped ∧
      ∀ u ∈ us, ∃ list task vaddr, req.target = some (list, task, vaddr) ∧
        d.regs.find? (fun x => mapFind list task vaddr x.desc) = some u := by
  cases req with
  | ioctl c fd task call =>
    rw [Driver.events]
    cases (d.ctrls c).findOwner fd with
    | none => exact ⟨[], rfl, by simp⟩
    | some =>
      cases call with
      -- The three ioctls differ in the list they search.
      | unmapHost vaddr =>
        exact unmapEvents_found d .host task vaddr (fun hok => by rw [hok, Request.target])
      | unmapDevice vaddr =>
        exact unmapEvents_found d .device task vaddr (fun hok => by rw [hok, Request.target])
      | unmapDeviceQueue vaddr =>
        exact unmapEvents_found d .deviceQueue task vaddr (fun hok => by rw [hok, Request.target])
      | _ => exact absurd hreq Bool.false_ne_true
  | _ => exact absurd hreq Bool.false_ne_true

theorem Spares.unused (h : Spares hw d req) (hreq : req.unmaps = true)
    (hr : .unmapped r ∈ d.events req) (key : Nat × Nat) : r ∉ (hw key).rings := by
  rcases events_unmaps d hreq with ⟨_, heq, hus⟩
  rw [heq] at hr
  rcases List.mem_map.mp hr with ⟨u, hu, hur⟩
  rcases hus u hu with ⟨list, task, vaddr, htarget, hfind⟩
  rw [← Event.unmapped.inj hur]
  exact h list task vaddr htarget u hfind key

/-- Releasing a map that is no ring of any queue. -/
theorem Served.unmap (h : Served d hw) (hs : Sound d) (hstill : Still d req) (hr : r ∈ d.regs)
    (hfree : ∀ key, r ∉ (hw key).rings) (hevents : d.events req = [.unmapped r]) :
    Served (d.step req) hw := by
  refine h.step hstill.ndev (fun key _ _ _ hslot => ?_) (fun key ring hring => ?_)
  · rw [slots_of_owners hstill.owners]
    exact hslot
  · rw [step_regs, hevents]
    have hmem := h.pinned key ring hring
    refine List.mem_filter.mpr ⟨hmem, decide_eq_true fun hid => ?_⟩
    rw [hs.regs.eq_of_id hmem hr hid] at hring
    exact hfree key hring

/-- Every request that spares the rings in use keeps the queues served and
    releases no ring in use; and if it is no unmapping request, it releases no map
    of a group that has queues. -/
theorem served_step (h : Served d hw) (hs : Sound d) (hgrant : GrantsBelow d)
    (hspare : Spares hw d req) :
    Served (d.step req) (run Hw.apply hw (d.events req)) ∧
      Along Hw.apply ReleasedUnused hw (d.events req) ∧
      (req.unmaps = false → Along Hw.apply ReleasedApart hw (d.events req)) := by
  have hboth : Along Hw.apply ReleasedApart hw (d.events req) →
      Along Hw.apply ReleasedUnused hw (d.events req) ∧
        (req.unmaps = false → Along Hw.apply ReleasedApart hw (d.events req)) := fun hapart =>
    ⟨along_mono (fun _ _ he => he.unused) hapart, fun _ => hapart⟩
  -- Without events it is enough that no slot is lost.
  have hquiet : d.events req = [] → (d.result req).state.ndev = (d.ctrls req.ctrl).ndev →
      (d.result req).state.slots.Perm (d.ctrls req.ctrl).slots →
      Served (d.step req) (run Hw.apply hw (d.events req)) ∧
        Along Hw.apply ReleasedUnused hw (d.events req) ∧
        (req.unmaps = false → Along Hw.apply ReleasedApart hw (d.events req)) := by
    intro hnil hndev hslots
    have hserved := h.step_of_perm hndev hslots fun r hr => by
      rw [step_regs, hnil]
      exact hr
    rw [hnil] at hboth ⊢
    exact ⟨hserved, hboth trivial⟩
  cases d.move req with
  | idle hstill hevents =>
    exact hquiet hevents hstill.ndev (by rw [slots_of_owners hstill.owners])
  | registered _ _ hstill _ _ hevents =>
    have hserved := h.step_of_perm hstill.ndev (by rw [slots_of_owners hstill.owners])
      (fun r hr => by rw [step_regs, hevents]; exact List.mem_append_left _ hr)
    rw [hevents] at hboth ⊢
    exact ⟨hserved, hboth ⟨nofun, trivial⟩⟩
  | unmapped r hstill hreq hr hevents =>
    have hfree : ∀ key, r ∉ (hw key).rings := by
      refine hspare.unused hreq ?_
      rw [hevents]
      exact List.mem_singleton.mpr rfl
    have hserved := h.unmap hs hstill hr hfree hevents
    rw [hevents]
    refine ⟨hserved, ⟨fun u he key => ?_, trivial⟩,
      fun hno => absurd (hno.symm.trans hreq) Bool.false_ne_true⟩
    rw [← Event.unmapped.inj he]
    exact hfree key
  | restarted _ _ _ hevents =>
    have hserved := h.restart hevents
    rw [hevents] at hboth ⊢
    exact ⟨hserved, hboth ⟨nofun, trivial⟩⟩
  | opened _ howners hndev _ hevents =>
    exact hquiet hevents hndev (by rw [slots_opened howners])
  | grouped _ _ hown _ _ howners hndev _ hevents =>
    exact hquiet hevents hndev (slots_grouped hown howners)
  | dropped own g hown hgroup howners hndev _ hevents =>
    have hmine := List.mem_of_find?_eq_some hown
    have hg : ∀ x ∈ [g], x ∈ own.groups := fun x hx => by
      rw [List.mem_singleton.mp hx]
      exact List.mem_of_find?_eq_some hgroup
    have hone : [g].flatMap (d.dropEvents req.ctrl own.fd) = d.events req := by
      rw [hevents, List.flatMap_singleton]
    rw [← hone]
    refine ⟨h.destroyed (d.groupMaps own.fd g.groupId) hs hmine hg hndev
      (slots_dropped hown hgroup howners) (fun x hx => ?_) ?_ (fun u hu => ?_), ?_⟩
    · rcases List.mem_map.mp hx with ⟨q, hq, rfl⟩
      exact ⟨g, List.mem_singleton.mpr rfl, hq⟩
    · rw [step_regs, ← hone, run_onRegs_dropEvents, List.flatMap_singleton]
    · exact ⟨(mem_groupMaps.mp hu).1, .inl ⟨g, List.mem_singleton.mpr rfl, (mem_groupMaps.mp hu).2⟩⟩
    · rw [hone]
      exact hboth (hone ▸ along_dropEvents h hs.names hmine hg)
  | released own hown howners hndev _ hevents =>
    have hmine := List.mem_of_find?_eq_some hown
    have hclose := along_closeEvents h hs hmine
    rw [← hevents] at hclose
    refine ⟨?_, hboth hclose⟩
    rw [hevents, Driver.closeEvents, run_append, run_apply_unmapped]
    refine h.destroyed (d.closed own) hs hmine (fun g hg => hg) hndev
      (slots_released hown howners) (fun x hx => ?_) ?_ (fun u hu => ?_)
    · rcases List.mem_flatMap.mp hx with ⟨g, hg, hx⟩
      rcases List.mem_map.mp hx with ⟨q, hq, rfl⟩
      exact ⟨g, hg, hq⟩
    · rw [step_regs, hevents, run_onRegs_closeEvents]
    · refine ⟨(mem_closed.mp hu).1, ?_⟩
      rcases List.mem_append.mp hu with hu | hu
      · rcases List.mem_flatMap.mp hu with ⟨g, hg, hu⟩
        exact .inl ⟨g, hg, (mem_groupMaps.mp hu).2⟩
      · exact .inr (purged_link hs.regs hu)
  | committed _ _ _ _ _ _ _ _ hb howners hndev _ hevents =>
    exact ⟨h.committed hs hgrant hb howners hndev hevents, hboth (along_sent hevents.isSent hw)⟩
  | failed _ _ _ _ _ _ _ _ hb howners hndev _ hevents =>
    refine ⟨?_, hboth (along_sent hevents.isSent hw)⟩
    rw [h.slotted.failed hs hgrant hb hevents]
    refine h.step_of_perm hndev (hb.slots_failed hs hgrant howners) fun r hr => ?_
    rw [step_regs, run_onRegs_sent hevents.isSent]
    exact hr

/-! ### Runs -/

/-- Controller 0 gets eight queues, of which the kernel takes two; descriptor 1
    makes a group, registers two pages as its rings and adds a queue, which gets
    id 3. -/
def ringsInUse : List Request :=
  [.devOpen 0 10 true, .ioctl 0 1 10 (.setKernelIoqCap 2 true), .deviceBind 0 ⟨0, ⟨8, 0, 0⟩,
      ⟨true, 1024, 1, ⟨0, 0, ⟨0, 7, 7⟩, true, fun _ => true, false, fun _ => plainPass⟩, true⟩⟩,
    .ioctl 0 1 10 (.createQueueGroup 0 [] true true none true),
    .ioctl 0 1 10 (.mapHost ⟨4096, 1, some .ringSq, 0, 0, []⟩ ⟨true, .ok 40960, true⟩),
    .ioctl 0 1 10 (.mapHost ⟨8192, 1, some .ringCq, 0, 0, []⟩ ⟨true, .ok 81920, true⟩),
    .ioctl 0 1 10 (.addUserQueue ⟨1, 0, [], [⟨4096, 8192⟩]⟩
      ⟨true, true, true, fun _ => 0, fun _ => 0, true⟩)]

end Geminifs.Snvme
