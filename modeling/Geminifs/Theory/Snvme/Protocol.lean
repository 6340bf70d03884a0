import Mathlib.Data.List.Perm.Basic
import Geminifs.Theory.Snvme.Hardware

/-!
# The Protocol of a Queue

The commands that a controller gets for one queue id, in the order it gets them,
as long as it stays bound. A queue id goes through cycles: its completion queue is
made, then its submission queue, then both are deleted in the opposite order; a
command that fails cuts the cycle short, and what was made before it is taken
back.

Four pieces of code send these commands: the loop of `NVM_ADD_USER_QUEUE`, its
rollback, the destruction of a group and the close of a descriptor. `Turn` is what
one request can send for one queue id, given whether a live slot holds the id
before and after, and that is all the cycles depend on.

## Main definitions

* `Letter`, `letters`: A command for a queue, as far as the protocol goes.
* `cycles`: What a queue id goes through.
* `Turn`: What one request sends for a queue id.
* `KeepsRings`: An unmapping request does not name a map of a group.

## Theorems

* `turn_step`: Every request makes a turn.
* `Progress.turn`: A turn goes on with the cycles.
* `commands_follow_protocol`: The protocol of every run within one binding.
-/

namespace Geminifs.Snvme

open Runs

/-! ### Letters -/

/-- A command for a queue, and whether it made one. -/
inductive Letter where
  | createCq (ok : Bool)
  | createSq (ok : Bool)
  | deleteSq
  | deleteCq
  deriving DecidableEq, Repr

def Sent.letter (x : Sent) : Letter :=
  match x.cmd with
  | .createCq .. => .createCq x.ok
  | .createSq .. => .createSq x.ok
  | .deleteSq _ => .deleteSq
  | .deleteCq _ => .deleteCq

/-- The commands for a queue id of a controller, as letters. -/
def letters (key : Nat × Nat) (es : List Event) : List Letter := (sentTo key es).map Sent.letter

theorem letters_append (key : Nat × Nat) (es es' : List Event) :
    letters key (es ++ es') = letters key es ++ letters key es' := by
  rw [letters, sentTo_append, List.map_append, letters, letters]

/-- The letters of a pair that is made. -/
def made : List Letter := [.createCq true, .createSq true]

/-- The letters of a pair that is deleted. -/
def deleted : List Letter := [.deleteSq, .deleteCq]

/-- A queue id's way from nothing to nothing: the completion queue fails, the
    submission queue fails, or both are made. -/
def cycles : List (List Letter) :=
  [[.createCq false], [.createCq true, .createSq false, .deleteCq], made ++ deleted]

/-- Which queues of a pair exist. -/
structure Pair where
  cq : Bool
  sq : Bool
  deriving DecidableEq, Repr

def Pair.next (p : Pair) : Letter → Pair
  | .createCq ok => { p with cq := p.cq || ok }
  | .createSq ok => { p with sq := p.sq || ok }
  | .deleteSq => { p with sq := false }
  | .deleteCq => { p with cq := false }

/-- Only what exists is deleted. -/
def Pair.Allows (p : Pair) : Letter → Prop
  | .deleteSq => p.sq = true
  | .deleteCq => p.cq = true
  | _ => True

/-- What one request sends for a queue id, by whether a live slot holds the id
    before and after it. A pair is made only on a live device. -/
inductive Turn (live : Prop) : Bool → Bool → List Letter → Prop where
  | stay (held : Bool) : Turn live held held []
  | refused {w : List Letter} (h : w ∈ cycles) : Turn live false false w
  | made (h : live) : Turn live false true made
  | deleted : Turn live true false deleted

/-- An id that is held after a turn has a live device, if it had one before or
    was free. -/
theorem Turn.live {live : Prop} {held : Bool} {w : List Letter} (h : Turn live held true w)
    (hlive : held = true → live) : live := by
  cases h with
  | stay => exact hlive rfl
  | made h => exact h

/-- The letters so far are complete cycles, and the making of the pair if a slot
    holds the id. -/
def Progress (held : Bool) (word : List Letter) : Prop :=
  ∃ ws : List (List Letter), (∀ w ∈ ws, w ∈ cycles) ∧ word = ws.flatten ++ if held then made else []

theorem Progress.turn {live : Prop} {held held' : Bool} {word w : List Letter}
    (h : Progress held word) (ht : Turn live held held' w) : Progress held' (word ++ w) := by
  rcases h with ⟨ws, hws, rfl⟩
  have hmore : ∀ w ∈ cycles, ∀ x ∈ ws ++ [w], x ∈ cycles := fun w hw =>
    List.forall_mem_append.mpr ⟨hws, List.forall_mem_singleton.mpr hw⟩
  cases ht with
  | stay => exact ⟨ws, hws, List.append_nil _⟩
  | refused hw => exact ⟨ws ++ [w], hmore w hw, by simp⟩
  | made => exact ⟨ws, hws, by simp⟩
  | deleted => exact ⟨ws ++ [made ++ deleted], hmore _ (by decide), by simp⟩

variable {word : List Letter}

theorem Progress.repeats {held : Bool} (h : Progress held word) : Repeats cycles word := by
  rcases h with ⟨_, hws, rfl⟩
  refine repeats_of_complete hws (w := made ++ deleted) (by decide) ?_
  cases held with
  | false => exact List.nil_prefix
  | true => exact List.prefix_append _ _

/-- A repetition of cycles deletes only what exists. -/
theorem allows_of_repeats (h : Repeats cycles word) :
    Along Pair.next Pair.Allows ⟨false, false⟩ word := by
  refine h.along fun w hw => ?_
  simp only [cycles, List.mem_cons, List.not_mem_nil, or_false] at hw
  rcases hw with rfl | rfl | rfl
  · exact ⟨⟨trivial, trivial⟩, rfl⟩
  · exact ⟨⟨trivial, trivial, rfl, trivial⟩, rfl⟩
  · exact ⟨⟨trivial, trivial, rfl, rfl, trivial⟩, rfl⟩

/-! ### Turns -/

variable {d : Driver} {req : Request} {key : Nat × Nat}

/-- A live slot of some group of the controller holds the id. -/
def Driver.holds (d : Driver) (key : Nat × Nat) : Bool := key.2 ∈ (d.ctrls key.1).qids

theorem holds_ne (hc : key.1 ≠ req.ctrl) : (d.step req).holds key = d.holds key := by
  rw [Driver.holds, Driver.holds, step_ctrls_ne d hc]

theorem qids_perm {s s' : State} (lost : List ((Nat × Nat) × Nat))
    (h : s'.slots.Perm (lost ++ s.slots)) : s'.qids.Perm (lost.map Prod.snd ++ s.qids) := by
  rw [State.qids_eq_slots, State.qids_eq_slots, ← List.map_append]
  exact h.map _

/-- An id is held as before if the slots are the same. -/
theorem holds_of_perm (h : (d.result req).state.slots.Perm (d.ctrls req.ctrl).slots) :
    (d.step req).holds key = d.holds key := by
  by_cases hc : key.1 = req.ctrl
  · have hperm := qids_perm [] h
    rw [Driver.holds, Driver.holds, hc, step_ctrls_self]
    exact decide_eq_decide.mpr hperm.mem_iff
  · exact holds_ne hc

/-- The letters of groups that are destroyed: those of the ids they hold are
    deleted. -/
theorem letters_dropEvents (d : Driver) (c fd : Nat) {gs : List QGroup}
    (hnodup : (gs.flatMap QGroup.qids).Nodup) (key : Nat × Nat) :
    letters key (gs.flatMap (d.dropEvents c fd)) =
      if key.1 = c ∧ (d.ctrls c).ndev.isSome ∧ key.2 ∈ gs.flatMap QGroup.qids then deleted
      else [] := by
  have hperm : (gs.flatMap fun g => g.qids.reverse).Perm (gs.flatMap QGroup.qids) :=
    List.Perm.flatMap_left _ fun g _ => List.reverse_perm _
  have hids : ((gs.flatMap fun g => g.qids.reverse).map id).Nodup := by
    rw [List.map_id, hperm.nodup_iff]
    exact hnodup
  rw [letters, sentTo_dropEvents]
  cases (d.ctrls c).ndev.isSome with
  | false => simp
  | true =>
    rw [if_pos rfl, deleteEvents_flatMap]
    rcases sentTo_blocks hids (fun q key => sentTo_deletePair c q key) key with
      ⟨q, hq, rfl, hsent⟩ | ⟨hne, hsent⟩
    · rw [hsent, if_pos ⟨rfl, rfl, hperm.subset hq⟩]
      rfl
    · rw [hsent, if_neg]
      · rfl
      · rintro ⟨hc, -, hq⟩
        exact hne key.2 (hperm.symm.subset hq) (Prod.ext hc.symm rfl)

/-- Groups that are destroyed make a turn for every id that is either free or
    has a live device. -/
theorem turn_destroyed {gs : List QGroup} {lost : List ((Nat × Nat) × Nat)} (fd : Nat)
    (hs : Sound d) (hlive : d.holds key = true → (d.ctrls key.1).ndev.isSome)
    (hlost : lost.map Prod.snd = gs.flatMap QGroup.qids)
    (hperm : (lost ++ (d.result req).state.slots).Perm (d.ctrls req.ctrl).slots) :
    Turn (d.ctrls key.1).ndev.isSome (d.holds key) ((d.step req).holds key)
      (letters key (gs.flatMap (d.dropEvents req.ctrl fd))) := by
  have hqids := qids_perm lost hperm.symm
  rw [hlost] at hqids
  have hnodup := hqids.nodup_iff.mp (hs.books req.ctrl).balanced.nodup
  rw [List.nodup_append'] at hnodup
  rw [letters_dropEvents d req.ctrl fd hnodup.1]
  by_cases hc : key.1 = req.ctrl
  · -- The id was in one slot only, so it is either lost or held as before.
    by_cases hq : key.2 ∈ gs.flatMap QGroup.qids
    · have hbefore : d.holds key = true := by
        rw [Driver.holds, hc]
        exact decide_eq_true (hqids.symm.subset (List.mem_append_left _ hq))
      have hafter : (d.step req).holds key = false := by
        rw [Driver.holds, hc, step_ctrls_self]
        exact decide_eq_false (hnodup.2.2 hq)
      -- This is where the device matters: without one nothing would be deleted.
      have hdev := hlive hbefore
      rw [hc] at hdev
      rw [hbefore, hafter, if_pos ⟨hc, hdev, hq⟩]
      exact .deleted
    · have hsame : (d.step req).holds key = d.holds key := by
        rw [Driver.holds, Driver.holds, hc, step_ctrls_self, decide_eq_decide, hqids.mem_iff,
          List.mem_append]
        exact ⟨.inr, fun h => h.resolve_left hq⟩
      rw [hsame, if_neg fun h => hq h.2.2]
      exact .stay _
  · rw [holds_ne hc, if_neg fun h => hc h.1]
    exact .stay _

theorem Undone.letters_mem {size : Nat} {x : Item} {w : List Sent} (h : Undone size x w) :
    w.map Sent.letter ∈ cycles := by
  cases h with
  | cq => exact List.mem_cons_self
  | sq => exact List.mem_cons_of_mem _ List.mem_cons_self
  | made => exact List.mem_cons_of_mem _ (List.mem_cons_of_mem _ List.mem_cons_self)

variable {items : List Item}

/-- Of a batch that failed no pair is left, so no queue id got the two commands of
    one and no more. -/
theorem Sending.letters_ne_made {c size : Nat} {es : List Event}
    (h : Sending c size items false es) (hnodup : (items.map Prod.fst).Nodup) (key : Nat × Nat) :
    (sentTo key es).map Sent.letter ≠ made := by
  rcases h.sentTo_failed hnodup key with ⟨x, -, -, hundone⟩ | hnil
  · intro hmade
    have hmem := hundone.letters_mem
    rw [hmade] at hmem
    exact absurd hmem (by decide)
  · rw [hnil]
    decide

section

variable {own : Owner} {g : QGroup} {pairs : List QueuePair} {ndev : NvmeDev}
  {p p' : UserQidPool} {qids : List Nat} (hs : Sound d)
  (hgrant : GrantsBelow d) (hb : Batch d req.ctrl own g pairs ndev p p' qids items)

include hs hgrant hb

/-- A batch makes a turn for every id: it is made, or nothing is left of it. -/
theorem turn_committed
    (howners : (d.result req).state.owners =
      ((d.ctrls req.ctrl).updateOwner own.fd (Owner.putGroup (g.commit qids pairs))).owners)
    (hevents : Sending req.ctrl (qsize ndev) items true (d.events req)) :
    Turn (d.ctrls key.1).ndev.isSome (d.holds key) ((d.step req).holds key)
      (letters key (d.events req)) := by
  have hfresh := (hb.fresh hs hgrant).2.2
  have hqids := qids_perm _ (hb.slots_commit hs hgrant howners)
  rw [List.map_map, show Prod.snd ∘ (fun q => ((own.fd, g.groupId), q)) = id from rfl,
    List.map_id] at hqids
  rw [letters]
  rcases hevents.sentTo_committed (hb.ids_nodup hs hgrant) key with
    ⟨x, hx, rfl, hsent⟩ | ⟨hne, hsent⟩
  · have hmem := hb.mem_ids hx
    -- The allocator gave the id, so no slot held it before.
    have hbefore : d.holds (req.ctrl, x.1) = false := decide_eq_false (hfresh x.1 hmem)
    have hafter : (d.step req).holds (req.ctrl, x.1) = true := by
      rw [Driver.holds, step_ctrls_self]
      exact decide_eq_true (hqids.symm.subset (List.mem_append_left _ hmem))
    have hdev : (d.ctrls req.ctrl).ndev = some ndev := hb.alloc.dev
    rw [hsent, hbefore, hafter]
    exact .made (by rw [hdev]; rfl)
  · rw [hsent]
    -- The slots that were added have other ids.
    have hsame : (d.step req).holds key = d.holds key := by
      by_cases hc : key.1 = req.ctrl
      · have hout : key.2 ∉ qids := fun hq => by
          rw [← hb.ids] at hq
          rcases List.mem_map.mp hq with ⟨x, hx, hid⟩
          exact hne x hx (Prod.ext hc.symm hid)
        rw [Driver.holds, Driver.holds, hc, step_ctrls_self, decide_eq_decide, hqids.mem_iff,
          List.mem_append]
        exact ⟨fun h => h.resolve_left hout, .inr⟩
      · exact holds_ne hc
    rw [hsame]
    exact .stay _

theorem turn_failed
    (howners : (d.result req).state.owners = (d.ctrls req.ctrl).owners ∨
      (d.result req).state.owners =
        ((d.ctrls req.ctrl).updateOwner own.fd (Owner.putGroup (g.unwind qids pairs))).owners)
    (hevents : Sending req.ctrl (qsize ndev) items false (d.events req)) :
    Turn (d.ctrls key.1).ndev.isSome (d.holds key) ((d.step req).holds key)
      (letters key (d.events req)) := by
  rw [holds_of_perm (hb.slots_failed hs hgrant howners), letters]
  rcases hevents.sentTo_failed (hb.ids_nodup hs hgrant) key with ⟨x, hx, rfl, hundone⟩ | hsent
  · have hfree : d.holds (req.ctrl, x.1) = false :=
      decide_eq_false ((hb.fresh hs hgrant).2.2 x.1 (hb.mem_ids hx))
    rw [hfree]
    exact .refused hundone.letters_mem
  · rw [hsent]
    exact .stay _

end

/-- Every request makes a turn for every queue id that is free or has a live
    device. -/
theorem turn_step (req : Request) (hs : Sound d) (hgrant : GrantsBelow d)
    (hlive : d.holds key = true → (d.ctrls key.1).ndev.isSome) :
    Turn (d.ctrls key.1).ndev.isSome (d.holds key) ((d.step req).holds key)
      (letters key (d.events req)) := by
  have hquiet : (d.result req).state.slots.Perm (d.ctrls req.ctrl).slots →
      letters key (d.events req) = [] →
      Turn (d.ctrls key.1).ndev.isSome (d.holds key) ((d.step req).holds key)
        (letters key (d.events req)) := by
    intro hperm hnil
    rw [holds_of_perm hperm, hnil]
    exact .stay _
  -- Only four moves send anything for a queue.
  cases d.move req with
  | idle hstill hevents | registered own m hstill hown hm hevents
  | unmapped _ hstill _ _ hevents =>
    exact hquiet (by rw [slots_of_owners hstill.owners]) (by rw [hevents]; rfl)
  | restarted _ howners _ hevents =>
    exact hquiet (by rw [slots_of_owners howners]) (by rw [hevents]; rfl)
  | opened _ howners _ _ hevents =>
    exact hquiet (by rw [slots_opened howners]) (by rw [hevents]; rfl)
  | grouped _ _ hown _ _ howners _ _ hevents =>
    exact hquiet (slots_grouped hown howners) (by rw [hevents]; rfl)
  | dropped own g hown hgroup howners _ _ hevents =>
    have hone : [g].flatMap (d.dropEvents req.ctrl own.fd) = d.events req := by
      rw [hevents, List.flatMap_singleton]
    rw [← hone]
    refine turn_destroyed own.fd hs hlive ?_ (slots_dropped hown hgroup howners)
    rw [QGroup.map_snd_slots, List.flatMap_singleton]
  | released own hown howners _ _ hevents =>
    rw [hevents, Driver.closeEvents, letters_append, letters.eq_1 key (List.map _ _),
      sentTo_unmapped, List.map_nil, List.append_nil]
    exact turn_destroyed own.fd hs hlive own.map_snd_slots (slots_released hown howners)
  | committed _ _ _ _ _ _ _ _ hb howners _ _ hevents =>
    exact turn_committed hs hgrant hb howners hevents
  | failed _ _ _ _ _ _ _ _ hb howners _ _ hevents =>
    exact turn_failed hs hgrant hb howners hevents

/-- Within a binding the controller keeps its device. -/
theorem step_ndev {c : Nat} (hbound : req.restarts c = false) :
    ((d.step req).ctrls c).ndev = (d.ctrls c).ndev := by
  by_cases hc : c = req.ctrl
  · subst hc
    rw [step_ctrls_self]
    cases d.move req with
    | idle hstill | registered _ _ hstill | unmapped _ hstill => exact hstill.ndev
    | restarted hreq => exact absurd (hbound.symm.trans hreq) Bool.false_ne_true
    | opened _ _ hndev | grouped _ _ _ _ _ _ hndev | dropped _ _ _ _ _ hndev
    | released _ _ _ hndev | committed _ _ _ _ _ _ _ _ _ _ hndev
    | failed _ _ _ _ _ _ _ _ _ _ hndev =>
      exact hndev
  · rw [step_ctrls_ne d hc]

/-! ### Runs -/

/-- The map at the address of an unmapping request is linked to no group. -/
def KeepsRings (d : Driver) (req : Request) : Prop :=
  ∀ list task vaddr, req.target = some (list, task, vaddr) →
    ∀ r, d.regs.find? (fun x => mapFind list task vaddr x.desc) = some r →
      ∀ fd groupId, r.desc.link ≠ .group fd groupId

/-- The rings of queues are linked to groups. -/
theorem Served.linked {hw : Hw} (h : Served d hw) {ring : Registered}
    (hring : ring ∈ (hw key).rings) : ∃ fd groupId, ring.desc.link = .group fd groupId := by
  rcases h.slot key (ne_none_of_ring hring) with ⟨gk, -, hlinks⟩
  exact ⟨gk.1, gk.2, hlinks ring hring⟩

theorem KeepsRings.spares {hw : Hw} (hk : KeepsRings d req) (h : Served d hw) :
    Spares hw d req := by
  intro list task vaddr htarget r hfind _ hring
  rcases h.linked hring with ⟨fd, groupId, hlink⟩
  exact hk list task vaddr htarget r hfind fd groupId hlink

/-- A request that unmaps no ring releases the maps of a group only when its
    queues are deleted. -/
theorem releasedApart_step {hw : Hw} (h : Served d hw) (hs : Sound d) (hgrant : GrantsBelow d)
    (hk : KeepsRings d req) : Along Hw.apply ReleasedApart hw (d.events req) := by
  rcases served_step h hs hgrant (hk.spares h) with ⟨-, -, hapart⟩
  cases hreq : req.unmaps with
  | false => exact hapart hreq
  | true =>
    -- No command is sent, so the queues are the same throughout.
    rcases events_unmaps d hreq with ⟨_, heq, hus⟩
    rw [heq]
    refine along_unmapped fun u hu r hr _ _ hring hlink => ?_
    rcases hus u hu with ⟨list, task, vaddr, htarget, hfind⟩
    rcases h.linked hring with ⟨fd, groupId, hgroup⟩
    rw [← Event.unmapped.inj hr, hgroup] at hlink
    exact hk list task vaddr htarget u hfind fd groupId hlink.symm

/-- The letters after more events. -/
theorem run_letters (key : Nat × Nat) (word : List Letter) (es : List Event) :
    run (fun w e => w ++ letters key [e]) word es = word ++ letters key es := by
  induction es generalizing word with
  | nil => exact (List.append_nil word).symm
  | cons _ _ ih =>
    rw [run, ih, List.append_assoc, ← letters_append, List.singleton_append]

/-- What holds of a queue id in every state of a binding, with the letters since
    the id was free. -/
structure Cycling (key : Nat × Nat) (d : Driver) (word : List Letter) : Prop where
  sound : Sound d
  live : d.holds key = true → (d.ctrls key.1).ndev.isSome
  progress : Progress (d.holds key) word

theorem Cycling.step (h : Cycling key d word) (hgrant : GrantsBelow d)
    (hbound : req.restarts key.1 = false) :
    Cycling key (d.step req) (word ++ letters key (d.events req)) := by
  have hturn := turn_step req h.sound hgrant h.live
  refine ⟨sound_step req h.sound hgrant, fun hheld => ?_, h.progress.turn hturn⟩
  rw [hheld] at hturn
  rw [step_ndev hbound]
  exact hturn.live h.live

/-- A run within a binding takes a queue id that was free through its cycles. -/
theorem repeats_run {ops : List Request} (key : Nat × Nat) (hs : Sound d)
    (hgrant : Along Driver.step (fun d _ => GrantsBelow d) d ops)
    (hbound : ∀ req ∈ ops, req.restarts key.1 = false) (hfree : key.2 ∉ (d.ctrls key.1).qids) :
    Repeats cycles (letters key (trace Driver.step Driver.events d ops)) := by
  have hholds : d.holds key = false := decide_eq_false hfree
  have hinit : Cycling key d [] := by
    refine ⟨hs, fun h => absurd (hholds.symm.trans h) Bool.false_ne_true, [], nofun, ?_⟩
    rw [hholds]
    rfl
  have hstep : ∀ (d : Driver) (word : List Letter) (req : Request), Cycling key d word →
      (GrantsBelow d ∧ req.restarts key.1 = false) →
      Cycling key (d.step req) (run (fun w e => w ++ letters key [e]) word (d.events req)) := by
    intro d word _ h hp
    rw [run_letters]
    exact h.step hp.1 hp.2
  have hrun := trace_invariant (Q := fun _ _ => True) hstep
    (fun _ _ _ _ _ => along_of_forall fun _ _ _ => trivial) hinit
    (along_and hgrant (along_of_forall fun _ => hbound))
  -- Reading the events one by one gives the same word as reading them request by request.
  rw [run_letters] at hrun
  exact hrun.1.progress.repeats

/-- A run that unmaps no ring releases the maps of a group only when its queues
    are deleted. -/
theorem releasedApart_run {ops : List Request} (hs : Sound d)
    (hgrant : Along Driver.step (fun d _ => GrantsBelow d) d ops)
    (hkeep : Along Driver.step KeepsRings d ops) :
    Along Hw.apply ReleasedApart Hw.empty (trace Driver.step Driver.events d ops) := by
  have hstep : ∀ (d : Driver) (hw : Hw) (req : Request), (Sound d ∧ Served d hw) →
      (GrantsBelow d ∧ KeepsRings d req) →
      Sound (d.step req) ∧ Served (d.step req) (run Hw.apply hw (d.events req)) := by
    intro d hw req h hp
    exact ⟨sound_step req h.1 hp.1, (served_step h.2 h.1 hp.1 (hp.2.spares h.2)).1⟩
  have hout : ∀ (d : Driver) (hw : Hw) (req : Request), (Sound d ∧ Served d hw) →
      (GrantsBelow d ∧ KeepsRings d req) → Along Hw.apply ReleasedApart hw (d.events req) :=
    fun d _ _ h hp => releasedApart_step h.2 h.1 hp.1 hp.2
  exact (trace_invariant hstep hout ⟨hs, served_empty d⟩ (along_and hgrant hkeep)).2

/-- Within one binding of a controller, whatever came before it, and with any
    command failing: the commands for a queue id that is free at first are a
    beginning of a repetition of its cycles, and delete only queues that exist;
    and unless a ring is unmapped, the maps of a group are released only when both
    queues of each of its pairs have been deleted. -/
theorem commands_follow_protocol (before ops : List Request) (c : Nat)
    (hgrant : Along Driver.step (fun d _ => GrantsBelow d) Driver.init (before ++ ops))
    (hbound : ∀ req ∈ ops, req.restarts c = false)
    (hkeep : Along Driver.step KeepsRings (run Driver.step Driver.init before) ops) :
    (∀ q, q ∉ ((run Driver.step Driver.init before).ctrls c).qids → Repeats cycles (letters (c, q)
        (trace Driver.step Driver.events (run Driver.step Driver.init before) ops)) ∧
      Along Pair.next Pair.Allows ⟨false, false⟩ (letters (c, q)
        (trace Driver.step Driver.events (run Driver.step Driver.init before) ops))) ∧
    Along Hw.apply ReleasedApart Hw.empty
      (trace Driver.step Driver.events (run Driver.step Driver.init before) ops) := by
  rw [along_append] at hgrant
  have hs := sound_driver_run before sound_init hgrant.1
  refine ⟨fun q hq => ?_, releasedApart_run hs hgrant.2 hkeep⟩
  have hrepeats := repeats_run (c, q) hs hgrant.2 hbound hq
  exact ⟨hrepeats, allows_of_repeats hrepeats⟩

/-- With the rings registered, a queue is added twice, since the controller
    refuses the first submission queue, and the descriptor is closed. -/
def addedTwice : List Request :=
  [.ioctl 0 1 10 (.addUserQueue ⟨1, 0, [], [⟨4096, 8192⟩]⟩
      ⟨true, true, true, fun _ => 0, fun _ => 6, true⟩),
    .ioctl 0 1 10 (.addUserQueue ⟨1, 0, [], [⟨4096, 8192⟩]⟩
      ⟨true, true, true, fun _ => 0, fun _ => 0, true⟩),
    .devRelease 0 1]

theorem commands_follow_protocol_addedTwice : letters (0, 3) (trace Driver.step Driver.events
        (run Driver.step Driver.init (ringsInUse.take 6)) addedTwice) =
      [.createCq true, .createSq false, .deleteCq, .createCq true, .createSq true, .deleteSq,
        .deleteCq] ∧
    Along Hw.apply ReleasedApart Hw.empty (trace Driver.step Driver.events
      (run Driver.step Driver.init (ringsInUse.take 6)) addedTwice) := by
  refine ⟨by decide, (commands_follow_protocol (ringsInUse.take 6) addedTwice 0 ?_ ?_ ?_).2⟩
  · exact grantsBelow_of_one 0 (by decide) (by decide)
  · decide
  · refine along_of_forall fun d req hreq list task vaddr htarget => ?_
    have hnone : ∀ req ∈ addedTwice, req.target = none := by decide
    rw [hnone req hreq] at htarget
    cases htarget

end Geminifs.Snvme
