import Geminifs.Theory.Snvme.Ownership
import Geminifs.Theory.Snvme.Registry

/-!
# The Slots of All Groups

Which group holds which queue id, and how requests change that. A live slot is
listed with the descriptor and the id of its group; what a request does to the
list is to add the ids of a batch to one group or to take away all that the
groups it destroys hold.

## Main definitions

* `QGroup.slots`, `Owner.slots`, `State.slots`: The live slots.
* `Sound`: Books, names and maps are in order.

## Theorems

* `State.qids_eq_slots`: The ids that slots hold.
* `slots_grouped`, `slots_dropped`, `slots_released`, `slots_putGroup`: How slots
  change.
* `Batch.fresh`: The ids of a batch were not in use.
* `sound_step`, `sound_driver_run`: Every request and every run keeps all in order.
-/

namespace Geminifs.Snvme

open Runs

/-- The live slots of a group, with the key of the group. -/
def QGroup.slots (fd : Nat) (g : QGroup) : List ((Nat × Nat) × Nat) :=
  g.qids.map (fun q => ((fd, g.groupId), q))

def Owner.slots (o : Owner) : List ((Nat × Nat) × Nat) := o.groups.flatMap (QGroup.slots o.fd)

def State.slots (s : State) : List ((Nat × Nat) × Nat) := s.owners.flatMap Owner.slots

theorem QGroup.map_snd_slots (fd : Nat) (g : QGroup) : (g.slots fd).map Prod.snd = g.qids := by
  rw [QGroup.slots, List.map_map]
  exact List.map_id _

theorem Owner.map_snd_slots (o : Owner) : o.slots.map Prod.snd = o.qids := by
  rw [Owner.slots, List.map_flatMap]
  congr 1
  funext g
  exact g.map_snd_slots o.fd

/-- The ids that slots hold. -/
theorem State.qids_eq_slots (s : State) : s.qids = s.slots.map Prod.snd := by
  rw [State.slots, List.map_flatMap, State.qids]
  congr 1
  funext o
  exact o.map_snd_slots.symm

theorem State.mem_slots {s : State} {key : Nat × Nat} {q : Nat} :
    (key, q) ∈ s.slots ↔ ∃ o ∈ s.owners, o.fd = key.1 ∧ ∃ g ∈ o.groups, g.groupId = key.2 ∧
      q ∈ g.qids := by
  simp only [State.slots, Owner.slots, QGroup.slots, List.mem_flatMap, List.mem_map, Prod.mk.injEq]
  constructor
  · rintro ⟨o, ho, g, hg, q', hq, rfl, rfl⟩
    exact ⟨o, ho, rfl, g, hg, rfl, hq⟩
  · rintro ⟨o, ho, hfd, g, hg, hid, hq⟩
    exact ⟨o, ho, g, hg, q, hq, Prod.ext hfd hid, rfl⟩

variable {s s' : State} {own : Owner} {g g' : QGroup}

theorem slots_of_owners (h : s'.owners = s.owners) : s'.slots = s.slots := by
  rw [State.slots, State.slots, h]

theorem slots_opened {fd task : Nat} (h : s'.owners = s.owners ++ [⟨fd, task, [], 0⟩]) :
    s'.slots = s.slots := by
  rw [State.slots, h, List.flatMap_append]
  exact List.append_nil _

/-- A new group has no live slot. -/
theorem slots_grouped {groupId : Nat} (hown : s.findOwner own.fd = some own)
    (h : s'.owners = (s.updateOwner own.fd (Owner.addGroup groupId)).owners) :
    s'.slots.Perm s.slots := by
  have hperm := perm_updateFirst hown (Owner.addGroup groupId) Owner.slots
  have hsame : (Owner.addGroup groupId own).slots = own.slots := by
    rw [Owner.slots, Owner.addGroup, List.flatMap_append]
    exact List.append_nil _
  rw [hsame] at hperm
  rw [State.slots, h]
  exact (List.perm_append_left_iff _).mp hperm

section

variable (hown : s.findOwner own.fd = some own)

include hown

/-- A group that is destroyed gives up its slots. -/
theorem slots_dropped (hgroup : own.groups.find? (fun x => x.groupId == g.groupId) = some g)
    (h : s'.owners = (s.updateOwner own.fd (Owner.dropGroup g.groupId)).owners) :
    (g.slots own.fd ++ s'.slots).Perm s.slots := by
  have houter := perm_updateFirst hown (Owner.dropGroup g.groupId) Owner.slots
  have hinner : (g.slots own.fd ++ (Owner.dropGroup g.groupId own).slots).Perm ([] ++ own.slots) :=
    perm_eraseP hgroup (QGroup.slots own.fd)
  rw [State.slots, h]
  exact perm_exchange houter hinner

theorem slots_released (h : s'.owners = s.owners.eraseP (fun o => o.fd == own.fd)) :
    (own.slots ++ s'.slots).Perm s.slots := by
  rw [State.slots, h]
  exact perm_eraseP hown Owner.slots

/-- A group that is put in the place of one with its id exchanges their slots. -/
theorem slots_putGroup (hgroup : own.groups.find? (fun x => x.groupId == g.groupId) = some g)
    (hid : g'.groupId = g.groupId)
    (h : s'.owners = (s.updateOwner own.fd (Owner.putGroup g')).owners) :
    (g.slots own.fd ++ s'.slots).Perm (g'.slots own.fd ++ s.slots) := by
  rw [← hid] at hgroup
  have houter := perm_updateFirst hown (Owner.putGroup g') Owner.slots
  have hinner := perm_updateFirst hgroup (fun _ => g') (QGroup.slots own.fd)
  rw [State.slots, h]
  exact perm_exchange houter hinner

end

/-! ### Books of all controllers -/

/-- Every controller's books balance, and names and maps are in order. -/
structure Sound (d : Driver) : Prop where
  books : ∀ c, Books (d.ctrls c)
  names : Names d
  regs : Regs d

/-- No controller was granted 65536 queues. -/
def GrantsBelow (d : Driver) : Prop := ∀ c, GrantBelow (d.ctrls c)

/-- In a run on one controller the others are never bound. -/
theorem grantsBelow_of_one (c : Nat) {reqs : List Request} (hctrl : ∀ req ∈ reqs, req.ctrl = c)
    (h : Along Driver.step (fun d _ => GrantBelow (d.ctrls c)) Driver.init reqs) :
    Along Driver.step (fun d _ => GrantsBelow d) Driver.init reqs := by
  have hone : Along Driver.step (fun _ req => req.ctrl = c) Driver.init reqs :=
    along_of_forall fun _ => hctrl
  refine along_of_invariant (I := fun d => ∀ c', c' ≠ c → (d.ctrls c').ndev = none)
    (fun d req hd hp c' hne => ?_) (fun d req hd hp c' => ?_) (fun _ _ => rfl) (along_and h hone)
  · rw [step_ctrls_ne d (fun heq => hne (heq.trans hp.2))]
    exact hd c' hne
  · by_cases hc : c' = c
    · rw [hc]
      exact hp.1
    · intro ndev hndev
      rw [hd c' hc] at hndev
      exact absurd hndev (Option.not_mem_none _)

theorem books_withMaps (hb : Books s) (maps : List MapDesc) :
    Books { s with maps := maps } := ⟨hb.proper, hb.balanced, hb.filled⟩

/-- What a request does to its controller is an effect, whatever maps it sees. -/
theorem Driver.result_effect (d : Driver) (req : Request) :
    ∃ maps op, Effect { d.ctrls req.ctrl with maps := maps } op (d.result req) := by
  cases req with
  | devOpen c task ok => exact ⟨_, .devOpen d.next task ok, exec_effect (d.view c) _⟩
  | devRelease c fd => exact ⟨_, .devRelease fd, exec_effect (d.view c) _⟩
  | ioctl c fd task call =>
    rw [Driver.result]
    split
    · exact ⟨_, call.op d fd task, exec_effect (d.view c) _⟩
    · exact ⟨_, call.op d fd task, effect_refuse (d.view c) _ _⟩
  | deviceBind c env => exact ⟨_, .deviceBind env, exec_effect (d.ownView c) _⟩
  | deviceReset c env => exact ⟨_, .deviceReset env, exec_effect (d.ownView c) _⟩
  | deviceUnbind c => exact ⟨_, .deviceUnbind, exec_effect (d.ownView c) _⟩

theorem sound_init : Sound Driver.init := ⟨fun _ => books_init, names_init, regs_init⟩

theorem sound_step {d : Driver} (req : Request) (h : Sound d) (hgrant : GrantsBelow d) :
    Sound (d.step req) := by
  refine ⟨fun c => ?_, names_step d req h.names, regs_step d req h.regs⟩
  by_cases hc : c = req.ctrl
  · subst hc
    rcases d.result_effect req with ⟨maps, op, heffect⟩
    rw [step_ctrls_self]
    exact books_effect (books_withMaps (h.books _) maps) (fun _ _ => hgrant req.ctrl) heffect
  · rw [step_ctrls_ne d hc]
    exact h.books c

theorem sound_driver_run (reqs : List Request) {d : Driver} (h : Sound d)
    (hgrant : Along Driver.step (fun d _ => GrantsBelow d) d reqs) :
    Sound (run Driver.step d reqs) :=
  run_invariant (fun _ req h hg => sound_step req h hg) h hgrant

/-- No controller is granted 65536 queues along the run or in its last state. -/
def Granted (reqs : List Request) : Prop :=
  Along Driver.step (fun d _ => GrantsBelow d) Driver.init reqs ∧
    GrantsBelow (run Driver.step Driver.init reqs)

/-- In a run on one controller that controller is the one to look at. -/
theorem granted_of_one (c : Nat) {reqs : List Request} (hctrl : ∀ req ∈ reqs, req.ctrl = c)
    (h : Along Driver.step (fun d _ => GrantBelow (d.ctrls c)) Driver.init
      (reqs ++ [.deviceUnbind c])) : Granted reqs := by
  -- One request more, so that the last state is looked at too.
  have hlong := grantsBelow_of_one c
    (fun req hreq => (List.mem_append.mp hreq).elim (hctrl req) fun hlast => by
      rw [List.mem_singleton.mp hlast]
      rfl) h
  have hsplit := (along_append _ _ _).mp hlong
  exact ⟨hsplit.1, hsplit.2.1⟩

variable {d : Driver} {c : Nat} {pairs : List QueuePair} {ndev : NvmeDev} {p p' : UserQidPool}
  {qids : List Nat} {items : List Item} (hs : Sound d) (hgrant : GrantsBelow d)
  (h : Batch d c own g pairs ndev p p' qids items)

include hs hgrant h

/-- The ids of a batch are distinct, and no slot held one. -/
theorem Batch.fresh : qids.Nodup ∧ qids.length = pairs.length ∧ ∀ q ∈ qids, q ∉ (d.ctrls c).qids := by
  have hbooks := books_withMaps (hs.books c) (d.regs.map Registered.desc)
  have hfree := h.alloc.qids_free hbooks (hgrant c)
  rcases h.alloc.taken hbooks (fun _ => hgrant c) with ⟨-, -, htaken, hlen⟩
  exact ⟨htaken.nodup, hlen, hfree⟩

/-- The ids of a batch fit into 16 bits. -/
theorem Batch.ids_short : ∀ q ∈ qids, q < 65536 := by
  have hbooks := books_withMaps (hs.books c) (d.regs.map Registered.desc)
  rcases h.alloc.taken hbooks (fun _ => hgrant c) with ⟨hp, -, htaken, -⟩
  exact fun q hq => Nat.lt_of_le_of_lt (htaken.covers q hq).2 hp.short

omit hgrant in
/-- The group of a batch keeps to its limit. -/
theorem Batch.filled : g.Filled :=
  (hs.books c).filled_owner h.alloc.owner g (List.mem_of_find?_eq_some h.alloc.group)

/-- A batch that is committed adds its ids to the slots of its group. -/
theorem Batch.slots_commit (howners : s'.owners =
      ((d.ctrls c).updateOwner own.fd (Owner.putGroup (g.commit qids pairs))).owners) :
    s'.slots.Perm (qids.map (fun q => ((own.fd, g.groupId), q)) ++ (d.ctrls c).slots) := by
  have hlen := (h.fresh hs hgrant).2.1
  have hroom := h.alloc.room
  rw [← hlen] at hroom
  have hqids : (g.commit qids pairs).qids = g.qids ++ qids := ((h.filled hs).commit hlen hroom).2
  have hid : (g.commit qids pairs).groupId = g.groupId := rfl
  have hperm := slots_putGroup h.alloc.owner h.alloc.group hid howners
  rw [QGroup.slots, QGroup.slots, hqids, List.map_append, List.append_assoc] at hperm
  exact (List.perm_append_left_iff _).mp hperm

/-- A batch that failed changes no slot. -/
theorem Batch.slots_failed (howners : s'.owners = (d.ctrls c).owners ∨ s'.owners =
      ((d.ctrls c).updateOwner own.fd (Owner.putGroup (g.unwind qids pairs))).owners) :
    s'.slots.Perm (d.ctrls c).slots := by
  rcases howners with howners | howners
  · rw [slots_of_owners howners]
  · have hlen := (h.fresh hs hgrant).2.1
    have hqids : (g.unwind qids pairs).qids = g.qids := ((h.filled hs).unwind hlen).2
    have hid : (g.unwind qids pairs).groupId = g.groupId := rfl
    have hperm := slots_putGroup h.alloc.owner h.alloc.group hid howners
    rw [QGroup.slots, QGroup.slots, hqids] at hperm
    exact (List.perm_append_left_iff _).mp hperm

end Geminifs.Snvme
