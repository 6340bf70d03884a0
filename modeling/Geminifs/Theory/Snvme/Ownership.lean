import Geminifs.Library.Custody
import Geminifs.Library.Runs
import Geminifs.Theory.Snvme.Effects

/-!
# Who Holds a Queue Id

The pool's bitmap and the slots of the groups are two records of the same thing,
kept apart: the one belongs to the controller, the others to the descriptors.
In every run they agree. The argument is one of custody: an operation takes
free ids and puts each in a slot, or takes ids out of slots and frees them, or
does neither.

The device may be bound, reset and unbound in between. Nothing here depends on
it, except that the pool is made with an end below 65536.

## Main definitions

* `Books`: The pool and the groups balance.
* `GrantBelow`: The device was granted fewer than 65536 queues.
* `PoolInvariant`: What that says about bits, slots and counters.

## Theorems

* `books_effect`: Every effect keeps the books.
* `pool_invariant`: The pool's bits are the queue ids that slots hold.
-/

namespace Geminifs.Snvme

open Custody Runs

/-- The id is marked in the pool; as long as there is no pool, none is. -/
def State.inUse (s : State) (q : Nat) : Bool :=
  match s.pool with
  | none => false
  | some p => p.inUse q

/-- The pool's marks and the groups' live slots balance. -/
structure Books (s : State) : Prop where
  proper : ∀ p ∈ s.pool, p.Proper
  balanced : Balanced s.inUse s.qids
  filled : ∀ o ∈ s.owners, ∀ g ∈ o.groups, g.Filled

/-- The device, if there is one, was granted fewer than 65536 queues. -/
def GrantBelow (s : State) : Prop := ∀ ndev ∈ s.ndev, ndev.ctrlMaxIoQueues < 65536

instance (s : State) : Decidable (GrantBelow s) :=
  inferInstanceAs (Decidable (∀ ndev ∈ s.ndev, ndev.ctrlMaxIoQueues < 65536))

variable {s s' : State} {p p' : UserQidPool} {ndev : NvmeDev} {own : Owner} {g : QGroup}
  {pairs : List QueuePair} {qids : List Nat}

theorem inUse_of_pool (h : s.pool = some p) (q : Nat) : s.inUse q = p.inUse q := by
  rw [State.inUse, h]

theorem books_init : Books State.init where
  proper := fun p hp => absurd hp (by simp [State.init])
  balanced := fun _ => rfl
  filled := fun o ho => absurd ho (by simp [State.init])

/-- The pool an allocation starts from is proper and marks what was marked. -/
theorem Books.pool_init {ok : Bool} (hb : Books s) (hgrant : s.pool = none → GrantBelow s)
    (hdev : s.ndev = some ndev) (hinit : userQidPoolInit s.pool ndev ok = .ok p) :
    p.Proper ∧ ∀ q, p.inUse q = s.inUse q := by
  rcases userQidPoolInit_ok hinit with hpool | ⟨hpool, hle, rfl⟩
  · exact ⟨hb.proper p hpool, fun q => (inUse_of_pool hpool q).symm⟩
  · refine ⟨⟨hle, hgrant hpool ndev hdev⟩, fun q => ?_⟩
    rw [State.inUse, hpool, ← Bool.not_eq_true, UserQidPool.inUse_iff]
    exact fun h => absurd h.2 Bool.false_ne_true

/-- Changing a descriptor exchanges the ids it holds. -/
theorem count_updateOwner (h : s.findOwner own.fd = some own) (f : Owner → Owner) (q : Nat) :
    (s.updateOwner own.fd f).qids.count q + own.qids.count q =
      s.qids.count q + (f own).qids.count q := count_updateFirst h f Owner.qids q

/-- Putting a group in its place exchanges the ids the group holds. -/
theorem count_putGroup (hown : s.findOwner own.fd = some own)
    (hgroup : own.groups.find? (fun x => x.groupId == g.groupId) = some g) (g' : QGroup)
    (hid : g'.groupId = g.groupId) (q : Nat) :
    (s.updateOwner own.fd (Owner.putGroup g')).qids.count q + g.qids.count q =
      s.qids.count q + g'.qids.count q := by
  have howner := count_updateOwner hown (Owner.putGroup g') q
  have hput : (Owner.putGroup g' own).qids.count q + g.qids.count q =
      own.qids.count q + g'.qids.count q := by
    rw [← hid] at hgroup
    exact count_updateFirst hgroup (fun _ => g') QGroup.qids q
  omega

/-- What the books need of a state that was reached by giving ids back. -/
theorem Books.giveBack {ks : List Nat} (hb : Books s)
    (hpool : s'.pool = s.pool.map (fun p => p.freeAll ks))
    (hcount : ∀ q, s'.qids.count q + ks.count q = s.qids.count q)
    (hfilled : ∀ o ∈ s'.owners, ∀ g ∈ o.groups, g.Filled) : Books s' := by
  refine ⟨fun p hp => ?_, hb.balanced.giveBack (fun q => ?_) hcount, hfilled⟩
  · rw [hpool] at hp
    rcases Option.map_eq_some_iff.mp hp with ⟨p₀, hp₀, rfl⟩
    exact (hb.proper p₀ hp₀).of_range (UserQidPool.freeAll_range ks p₀)
  · rw [State.inUse, State.inUse, hpool]
    cases s.pool with
    | none => rfl
    | some p => exact UserQidPool.inUse_freeAll ks p q

/-- What the books need of a state that marks and holds what the one before
    did. -/
theorem Books.congr (hb : Books s) (hpool : s'.pool = some p) (hproper : p.Proper)
    (hused : ∀ q, p.inUse q = s.inUse q) (hcount : ∀ q, s'.qids.count q = s.qids.count q)
    (hfilled : ∀ o ∈ s'.owners, ∀ g ∈ o.groups, g.Filled) : Books s' := by
  refine ⟨fun _ hp' => ?_, hb.balanced.congr (fun q => ?_) hcount, hfilled⟩
  · rw [hpool] at hp'
    rw [← Option.some.inj hp']
    exact hproper
  · rw [inUse_of_pool hpool, hused]

/-- A state with the same pool and the same owners has the same books. -/
theorem Books.of_eq (hb : Books s) (hpool : s'.pool = s.pool)
    (hcount : ∀ q, s'.qids.count q = s.qids.count q)
    (hfilled : ∀ o ∈ s'.owners, ∀ g ∈ o.groups, g.Filled) : Books s' := by
  refine ⟨by rw [hpool]; exact hb.proper, hb.balanced.congr (fun q => ?_) hcount, hfilled⟩
  rw [State.inUse, State.inUse, hpool]

theorem qids_of_owners (h : s'.owners = s.owners) : s'.qids = s.qids := by
  rw [State.qids, State.qids, h]

/-- What a batch has after its allocation: a proper pool from which free ids
    were taken, as many as there are pairs. -/
theorem Allocation.taken (hb : Books s) (hgrant : s.pool = none → GrantBelow s)
    (h : Allocation s own g pairs ndev p p' qids) :
    p.Proper ∧ (∀ q, p.inUse q = s.inUse q) ∧ p.Taken p' qids ∧ qids.length = pairs.length := by
  rcases h.init with ⟨_, hinit⟩
  have hp := hb.pool_init hgrant h.dev hinit
  have htaken := UserQidPool.alloc_some hp.1 h.alloc
  exact ⟨hp.1, hp.2, htaken.1, htaken.2⟩

/-- The ids that a batch takes are held by nobody. -/
theorem Allocation.qids_free (hb : Books s) (hgrant : GrantBelow s)
    (h : Allocation s own g pairs ndev p p' qids) : ∀ q ∈ qids, q ∉ s.qids := by
  intro q hq hheld
  rcases h.taken hb (fun _ => hgrant) with ⟨-, hsame, htaken, -⟩
  have hmarked := hb.balanced.marked hheld
  rw [← hsame, htaken.free q hq] at hmarked
  exact absurd hmarked Bool.false_ne_true

/-! ### Effects -/

section

variable (hb : Books s) (hown : s.findOwner own.fd = some own)

include hb hown

/-- The groups of a changed descriptor list, if the change keeps to its own. -/
theorem Books.filled_updateOwner {f : Owner → Owner} (hf : ∀ g ∈ (f own).groups, g.Filled) :
    ∀ o ∈ (s.updateOwner own.fd f).owners, ∀ g ∈ o.groups, g.Filled := by
  intro o ho
  rcases mem_updateFirst hown ho with ho | rfl
  · exact hb.filled o ho
  · exact hf

theorem Books.filled_owner : ∀ g ∈ own.groups, g.Filled :=
  hb.filled own (List.mem_of_find?_eq_some hown)

theorem Books.filled_putGroup {g' : QGroup}
    (hgroup : own.groups.find? (fun x => x.groupId == g.groupId) = some g)
    (hid : g'.groupId = g.groupId) (hg' : g'.Filled) :
    ∀ o ∈ (s.updateOwner own.fd (Owner.putGroup g')).owners, ∀ g ∈ o.groups, g.Filled := by
  refine hb.filled_updateOwner hown fun x hx => ?_
  rw [← hid] at hgroup
  rcases mem_updateFirst hgroup hx with hx | rfl
  · exact hb.filled_owner hown x hx
  · exact hg'

/-- A new group holds nothing. -/
theorem Books.grouped (groupId : Nat) (hpool : s'.pool = s.pool)
    (howners : s'.owners = (s.updateOwner own.fd (Owner.addGroup groupId)).owners) :
    Books s' := by
  -- The new group has no live slot, so no id changes hands.
  have hnew : QGroup.qids ⟨groupId, nvmMaxQueuesPerGroup, fun _ => default, 0⟩ = [] :=
    (QGroup.filled_new groupId).qids_eq
  have hsame : (Owner.addGroup groupId own).qids = own.qids := by
    rw [Owner.qids, Owner.addGroup, List.flatMap_append, List.flatMap_singleton, hnew,
      List.append_nil, Owner.qids]
  refine hb.of_eq hpool (fun q => ?_) ?_
  · rw [qids_of_owners howners]
    have hcount := count_updateOwner hown (Owner.addGroup groupId) q
    rw [hsame] at hcount
    omega
  · rw [howners]
    exact hb.filled_updateOwner hown (List.forall_mem_append.mpr
      ⟨hb.filled_owner hown, List.forall_mem_singleton.mpr (QGroup.filled_new groupId)⟩)

/-- A group that is dropped gives back what it held. -/
theorem Books.dropped
    (hgroup : own.groups.find? (fun x => x.groupId == g.groupId) = some g)
    (hpool : s'.pool = s.pool.map (fun p => p.freeAll g.qids.reverse))
    (howners : s'.owners = (s.updateOwner own.fd (Owner.dropGroup g.groupId)).owners) :
    Books s' := by
  refine hb.giveBack hpool (fun q => ?_) ?_
  · rw [qids_of_owners howners, List.count_reverse]
    have hcount := count_updateOwner hown (Owner.dropGroup g.groupId) q
    -- What is left of the descriptor's ids is all but the group's.
    have hgone : (Owner.dropGroup g.groupId own).qids.count q + g.qids.count q =
        own.qids.count q := count_eraseP hgroup QGroup.qids q
    omega
  · rw [howners]
    exact hb.filled_updateOwner hown fun x hx => hb.filled_owner hown x (List.mem_of_mem_eraseP hx)

/-- A descriptor that is closed gives back what its groups held. -/
theorem Books.released (hpool : s'.pool =
      s.pool.map (fun p => p.freeAll (own.groups.flatMap (fun g => g.qids.reverse))))
    (howners : s'.owners = s.owners.eraseP (fun o => o.fd == own.fd)) : Books s' := by
  refine hb.giveBack hpool (fun q => ?_) ?_
  · have hcount : ((s.owners.eraseP (fun o => o.fd == own.fd)).flatMap Owner.qids).count q +
        own.qids.count q = s.qids.count q := count_eraseP hown Owner.qids q
    rw [State.qids, howners, ← hcount, Owner.qids]
    -- The groups free their ids in reverse, which no count can tell.
    simp only [List.count_flatMap, Function.comp_def, List.count_reverse]
  · rw [howners]
    exact fun o ho => hb.filled o (List.mem_of_mem_eraseP ho)

end

section

variable (hb : Books s) (hgrant : s.pool = none → GrantBelow s)
  (h : Allocation s own g pairs ndev p p' qids)

include hb hgrant h

/-- A batch that failed gives back what it took, and its slots are dead if they
    were written at all. -/
theorem Books.failed (hpool : s'.pool = some (p'.freeAll qids))
    (howners : s'.owners = s.owners ∨ s'.owners = (s.updateOwner own.fd (Owner.putGroup
        { g with queues := writeSlots g.queues g.curQueues (slotsOf qids pairs false) })).owners) :
    Books s' := by
  rcases h.taken hb hgrant with ⟨hproper, hsame, htaken, hlen⟩
  have hdead := (hb.filled_owner h.owner g (List.mem_of_find?_eq_some h.group)).unwind hlen
  refine hb.congr hpool (hproper.of_range (htaken.freeAll_range qids))
    (fun q => by rw [htaken.inUse_freeAll, hsame]) (fun q => ?_) ?_
  · rcases howners with howners | howners
    · rw [qids_of_owners howners]
    · rw [qids_of_owners howners]
      have hcount := count_putGroup h.owner h.group
        { g with queues := writeSlots g.queues g.curQueues (slotsOf qids pairs false) } rfl q
      rw [hdead.2] at hcount
      omega
  · rcases howners with howners | howners
    · rw [howners]
      exact hb.filled
    · rw [howners]
      exact hb.filled_putGroup h.owner h.group rfl hdead.1

/-- A batch that is committed: its ids were free, and each is now in one slot. -/
theorem Books.committed (hpool : s'.pool = some p')
    (howners : s'.owners = (s.updateOwner own.fd (Owner.putGroup
      { g with
        queues := writeSlots g.queues g.curQueues (slotsOf qids pairs true)
        curQueues := g.curQueues + qids.length })).owners) : Books s' := by
  rcases h.taken hb hgrant with ⟨hproper, hsame, htaken, hlen⟩
  have hroom := h.room
  rw [← hlen] at hroom
  have hlive := (hb.filled_owner h.owner g (List.mem_of_find?_eq_some h.group)).commit hlen hroom
  refine ⟨fun _ hp₁ => ?_, ?_, ?_⟩
  · rw [hpool] at hp₁
    rw [← Option.some.inj hp₁]
    exact hproper.of_range htaken.range
  · -- The ids taken from the pool are those the slots now hold.
    refine hb.balanced.take htaken.nodup (fun q hq => ?_) (fun q => ?_) (fun q => ?_)
    · rw [← hsame]
      exact htaken.free q hq
    · rw [inUse_of_pool hpool, htaken.inUse, hsame]
    · rw [qids_of_owners howners]
      have hcount := count_putGroup h.owner h.group
        { g with
          queues := writeSlots g.queues g.curQueues (slotsOf qids pairs true)
          curQueues := g.curQueues + qids.length } rfl q
      rw [hlive.2, List.count_append] at hcount
      omega
  · rw [howners]
    exact hb.filled_putGroup h.owner h.group rfl hlive.1

end

/-- Every effect keeps the books, if an allocation that makes the pool finds a
    grant below 65536. -/
theorem books_effect {op : Op} {r : Result} (hb : Books s)
    (hgrant : op.addsQueues = true → s.pool = none → GrantBelow s) (he : Effect s op r) :
    Books r.state := by
  cases he with
  | silent hframe =>
    exact hb.of_eq hframe.pool (fun q => by rw [qids_of_owners hframe.owners])
      (by rw [hframe.owners]; exact hb.filled)
  | rebound _ hpool howners =>
    exact hb.of_eq hpool (fun q => by rw [qids_of_owners howners]) (by rw [howners]; exact hb.filled)
  | opened _ _ _ hpool howners =>
    -- A new descriptor has no groups.
    refine hb.of_eq hpool (fun q => ?_) ?_
    · rw [State.qids, State.qids, howners]
      simp [Owner.qids]
    · rw [howners]
      exact List.forall_mem_append.mpr ⟨hb.filled, List.forall_mem_singleton.mpr (by simp)⟩
  | grouped _ groupId hown _ hpool howners => exact hb.grouped hown groupId hpool howners
  | dropped _ _ _ hown hgroup _ hpool howners =>
    exact hb.dropped hown hgroup hpool howners
  | released _ _ hown _ hpool howners => exact hb.released hown hpool howners
  | exhausted hop _ _ _ _ hdev hinit halloc _ hpool howners =>
    rcases hinit with ⟨_, hinit⟩
    have hp := hb.pool_init (hgrant hop) hdev hinit
    have hsame := UserQidPool.alloc_none hp.1 halloc
    exact hb.congr hpool (hp.1.of_range hsame.1) (fun q => by rw [hsame.2, hp.2])
      (fun q => by rw [qids_of_owners howners]) (by rw [howners]; exact hb.filled)
  | failed hop _ _ _ _ _ _ _ h _ hpool howners =>
    exact hb.failed (hgrant hop) h hpool howners
  | committed hop _ _ _ _ _ _ _ h _ hpool howners =>
    exact hb.committed (hgrant hop) h hpool howners

/-- The pool and the groups agree: a bit of the pool is set if and only if
    exactly one live slot of all groups holds its queue id, no id is held twice,
    every held id lies in the pool, and the live slots of a group are its first
    ones, at most as many as its limit. -/
structure PoolInvariant (s : State) : Prop where
  bit : ∀ p, s.pool = some p → ∀ q, p.first ≤ q → q ≤ p.last →
    (p.bitmap (q - p.first) = true ↔ s.qids.count q = 1)
  once : ∀ q, s.qids.count q ≤ 1
  range : ∀ o ∈ s.owners, ∀ g ∈ o.groups, ∀ i, i < nvmMaxQueuesPerGroup →
    (g.queues i).alive = true →
    ∃ p, s.pool = some p ∧ p.first ≤ (g.queues i).qid ∧ (g.queues i).qid ≤ p.last
  alive : ∀ o ∈ s.owners, ∀ g ∈ o.groups, ∀ i, i < nvmMaxQueuesPerGroup →
    ((g.queues i).alive = true ↔ i < g.curQueues)
  limit : ∀ o ∈ s.owners, ∀ g ∈ o.groups, g.curQueues ≤ nvmMaxQueuesPerGroup

/-- A held id lies in the pool. -/
theorem Books.covers (hb : Books s) {q : Nat} (hq : q ∈ s.qids) :
    ∃ p, s.pool = some p ∧ p.Covers q := by
  have hused := hb.balanced.marked hq
  rw [State.inUse] at hused
  split at hused
  · exact absurd hused Bool.false_ne_true
  next p hpool => exact ⟨p, hpool, ((p.inUse_iff q).mp hused).1⟩

theorem Books.poolInvariant (hb : Books s) : PoolInvariant s where
  bit := by
    intro p hpool q hfirst hlast
    have hcount := hb.balanced q
    rw [inUse_of_pool hpool] at hcount
    have hiff := p.inUse_iff q
    rw [hcount]
    constructor
    · intro hbit
      rw [if_pos (hiff.mpr ⟨⟨hfirst, hlast⟩, hbit⟩)]
    · intro hone
      by_contra hbit
      rw [if_neg (fun hused => hbit (hiff.mp hused).2)] at hone
      omega
  once := List.nodup_iff_count_le_one.mp hb.balanced.nodup
  range := fun o ho g hg i hi halive =>
    hb.covers (State.mem_qids.mpr ⟨o, ho, g, hg, i, hi, halive, rfl⟩)
  alive := fun o ho g hg => (hb.filled o ho g hg).alive
  limit := fun o ho g hg => by
    rw [← (hb.filled o ho g hg).limit]
    exact (hb.filled o ho g hg).room

/-- In every run of operations on a controller, with any number of descriptors,
    any batches and any failures, the pool's bits are the queue ids that live
    slots hold. -/
theorem pool_invariant (ops : List Op)
    (hgrant : Along step (fun s _ => GrantBelow s) State.init ops) :
    PoolInvariant (run step State.init ops) :=
  (run_invariant (fun s op hb hg => books_effect hb (fun _ _ => hg) (exec_effect s op)) books_init
    hgrant).poolInvariant

/-- A pass in which everything works. -/
def plainPass : PassEnv :=
  ⟨64, 0, fun _ => true, fun _ => 0, fun _ => 0, fun _ => 0, fun _ => true, true⟩

/-- A bind on a host with eight processors, where everything works and the
    controller has `granted` queues. -/
def plainBind (granted : Nat) : Op :=
  .deviceBind ⟨0, ⟨8, 0, 0⟩, ⟨true, 1024, 1,
    ⟨0, 0, ⟨0, granted - 1, granted - 1⟩, true, fun _ => true, false, fun _ => plainPass⟩, true⟩⟩

/-- The kernel is capped at two of eight queues, and a descriptor adds one queue
    to a new group, which gets id 3. -/
def oneQueue : List Op :=
  [.setKernelIoqCap 2 true, plainBind 8, .devOpen 3 10 true,
    .createQueueGroup 3 0 [] ⟨true, true, .ok 1, true⟩,
    .mapHost 3 10 ⟨4096, 1, some .ringSq, 0, 0, []⟩ ⟨true, .ok 40960, true⟩,
    .mapHost 3 10 ⟨8192, 1, some .ringCq, 0, 0, []⟩ ⟨true, .ok 81920, true⟩,
    .addUserQueue 3 ⟨1, 0, [], [⟨4096, 8192⟩]⟩ ⟨true, true, true, fun _ => 0, fun _ => 0, true⟩]

theorem pool_invariant_oneQueue :
    (run step State.init oneQueue).qids = [3] ∧ PoolInvariant (run step State.init oneQueue) :=
  ⟨by decide, pool_invariant oneQueue (by decide)⟩

end Geminifs.Snvme
