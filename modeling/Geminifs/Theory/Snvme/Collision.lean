import Geminifs.Theory.Snvme.Ownership

/-!
# User Queues and the Queues of a Binding

The pool of user queue ids is made once, from what the binding of that moment
has online and was granted, and it outlives the binding. A later binding, or a
reset, may bring more kernel queues online, be granted fewer queues, or make
queues of the old protocol; the pool and the slots of the groups still name the
ids of before. Closing a descriptor then deletes a queue that is the kernel's.

`FitsBinding` is what has to hold for that not to happen: the pool, or the one
that would be made now, lies above the kernel's queues, within the grant and
clear of the queues of the old protocol. It is asked for where queues are added
or dropped, and nowhere else.

## Main definitions

* `KernelQueue`: An I/O queue that the kernel has online.
* `Clear`: An id that a command for a user queue may name.
* `FitsBinding`: The pool suits the binding.

## Theorems

* `fits_fresh`: A first binding without queues of the old protocol fits.
* `fits_step`: Only a new binding or a reset can end that.
* `sentClear_effect`: Under that condition, an operation's commands are clear.
* `commands_clear`: So are those of every run.
* `commands_clear_binding`: Within one binding that fits there is no condition.
* `rebind_collides`: A run in which one is not.
-/

namespace Geminifs.Snvme

open Runs

variable {s : State} {ndev : NvmeDev}

/-- The kernel has an I/O queue with this id online. -/
def KernelQueue (ndev : NvmeDev) (q : Nat) : Prop := 1 ≤ q ∧ q < ndev.onlineQueues

instance (ndev : NvmeDev) (q : Nat) : Decidable (KernelQueue ndev q) :=
  inferInstanceAs (Decidable (_ ∧ _))

/-- The id is not a kernel queue's, not that of a queue made while probing, and
    within the grant. -/
def Clear (ndev : NvmeDev) (q : Nat) : Prop :=
  ¬ KernelQueue ndev q ∧ q ∉ ndev.legacyQids ∧ q ≤ ndev.ctrlMaxIoQueues

instance (ndev : NvmeDev) (q : Nat) : Decidable (Clear ndev q) :=
  inferInstanceAs (Decidable (_ ∧ _ ∧ _))

/-- Every command that an operation sends for a user queue goes to a device, and
    its id is clear there. -/
def SentClear (s : State) (op : Op) : Prop :=
  ∀ cmd ∈ (exec s op).cmds, ∃ ndev ∈ s.ndev, Clear ndev cmd.qid

instance (s : State) (op : Op) : Decidable (SentClear s op) :=
  inferInstanceAs (Decidable (∀ cmd ∈ (exec s op).cmds, ∃ ndev ∈ s.ndev, Clear ndev cmd.qid))

/-- The first and the last id that a user queue can have: the pool's, or those
    of the pool that would be made now. -/
def userRange (s : State) (ndev : NvmeDev) : Nat × Nat :=
  match s.pool with
  | some p => (p.first, p.last)
  | none => (ndev.onlineQueues, ndev.ctrlMaxIoQueues)

/-- The ids of user queues lie above the kernel's queues and within the grant,
    have 16 bits, and none is that of a queue made while probing. -/
def FitsBinding (s : State) : Prop :=
  ∀ ndev ∈ s.ndev, ndev.onlineQueues ≤ (userRange s ndev).1 ∧
    (userRange s ndev).2 ≤ ndev.ctrlMaxIoQueues ∧
    (userRange s ndev).2 < 65536 ∧
    ∀ q ∈ ndev.legacyQids, q < (userRange s ndev).1 ∨ (userRange s ndev).2 < q

instance (s : State) : Decidable (FitsBinding s) :=
  inferInstanceAs (Decidable (∀ ndev ∈ s.ndev, _ ∧ _ ∧ _ ∧ _))

/-- An operation that adds or drops queues does so with a pool that fits. -/
def MeetsBinding (s : State) (op : Op) : Prop :=
  (op.addsQueues = true ∨ op.dropsQueues = true) → FitsBinding s

instance (s : State) (op : Op) : Decidable (MeetsBinding s op) :=
  inferInstanceAs (Decidable (_ → _))

variable {q : Nat} {op : Op}

/-- An id of a pool that fits is clear. -/
theorem FitsBinding.clear (hfit : FitsBinding s) (hdev : s.ndev = some ndev)
    (hfirst : (userRange s ndev).1 ≤ q) (hlast : q ≤ (userRange s ndev).2) : Clear ndev q := by
  rcases hfit ndev hdev with ⟨hkernel, hgrant, -, hlegacy⟩
  refine ⟨fun hk => ?_, fun hq => ?_, by omega⟩
  · have := hk.2
    omega
  · have := hlegacy q hq
    omega

/-- With no pool yet, a binding that the pool would fit has a grant below
    65536. -/
theorem FitsBinding.grantBelow (hfit : FitsBinding s) (hpool : s.pool = none) : GrantBelow s := by
  intro ndev hdev
  have hshort := (hfit ndev hdev).2.2.1
  rwa [userRange, hpool] at hshort

/-- An id that some slot holds is clear. -/
theorem Books.held_clear (hb : Books s) (hfit : FitsBinding s) (hdev : s.ndev = some ndev)
    (hq : q ∈ s.qids) : Clear ndev q := by
  rcases hb.covers hq with ⟨p, hpool, hcov⟩
  refine hfit.clear hdev ?_ ?_
  · rw [userRange, hpool]
    exact hcov.1
  · rw [userRange, hpool]
    exact hcov.2

/-- An id that was just allocated is clear: it comes from the pool there was, or
    from the one made now. -/
theorem Allocation.clear {own : Owner} {g : QGroup} {pairs : List QueuePair} {p p' : UserQidPool}
    {qids : List Nat} (hb : Books s) (hfit : FitsBinding s)
    (h : Allocation s own g pairs ndev p p' qids) (hq : q ∈ qids) : Clear ndev q := by
  have hcov := (h.taken hb hfit.grantBelow).2.2.1.covers q hq
  rcases h.init with ⟨_, hinit⟩
  have hrange : userRange s ndev = (p.first, p.last) := by
    rw [userRange]
    rcases userQidPoolInit_ok hinit with hpool | ⟨hpool, -, rfl⟩
    · rw [hpool]
    · rw [hpool]
  refine hfit.clear h.dev ?_ ?_
  · rw [hrange]
    exact hcov.1
  · rw [hrange]
    exact hcov.2

/-- Deleting queues that slots hold, if there is a device to delete them on. -/
theorem Books.deletes_clear {ks : List Nat} {cmd : AdminCmd} (hb : Books s) (hfit : FitsBinding s)
    (hks : ∀ q ∈ ks, q ∈ s.qids)
    (hcmd : cmd ∈ if s.ndev.isSome then ks.flatMap deletePair else []) :
    ∃ ndev ∈ s.ndev, Clear ndev cmd.qid := by
  cases hdev : s.ndev with
  | none =>
    rw [hdev] at hcmd
    cases hcmd
  | some ndev =>
    rw [hdev] at hcmd
    exact ⟨ndev, rfl, hb.held_clear hfit hdev (hks _ (deletePair_qids hcmd))⟩

/-- The commands of an effect are clear, if the pool fits the binding. -/
theorem sentClear_effect {r : Result} (hb : Books s) (hmeets : MeetsBinding s op)
    (he : Effect s op r) : ∀ cmd ∈ r.cmds, ∃ ndev ∈ s.ndev, Clear ndev cmd.qid := by
  intro cmd hcmd
  have hnone : r.cmds = [] → ∃ ndev ∈ s.ndev, Clear ndev cmd.qid := by
    intro hcmds
    rw [hcmds] at hcmd
    cases hcmd
  cases he with
  | silent hframe hcmds | rebound hop hpool howners hcmds
  | opened fd task hndev hpool howners hcmds | grouped own groupId hown hndev hpool howners hcmds
  | exhausted _ _ _ _ _ _ _ _ _ _ _ hcmds =>
    exact hnone hcmds
  | dropped hop own g hown hgroup _ _ _ hcmds =>
    rw [hcmds] at hcmd
    refine hb.deletes_clear (hmeets (.inr hop)) (fun q hq => ?_) hcmd
    exact List.mem_flatMap.mpr ⟨own, List.mem_of_find?_eq_some hown,
      List.mem_flatMap.mpr ⟨g, List.mem_of_find?_eq_some hgroup, List.mem_reverse.mp hq⟩⟩
  | released hop own hown _ _ _ hcmds =>
    rw [hcmds] at hcmd
    refine hb.deletes_clear (hmeets (.inr hop)) (fun q hq => ?_) hcmd
    rcases List.mem_flatMap.mp hq with ⟨g, hg, hq⟩
    exact List.mem_flatMap.mpr ⟨own, List.mem_of_find?_eq_some hown,
      List.mem_flatMap.mpr ⟨g, hg, List.mem_reverse.mp hq⟩⟩
  | failed hop own g pairs ndev p p' qids h hndev hpool howners hcmds
  | committed hop _ _ _ ndev _ _ _ h _ _ _ hcmds =>
    exact ⟨ndev, h.dev, h.clear hb (hmeets (.inl hop)) (hcmds cmd hcmd)⟩

/-! ### Within one binding -/

/-- As long as there is no pool, a binding without queues of the old protocol
    fits the pool to be made. -/
theorem fits_fresh (hpool : s.pool = none) (hgrant : GrantBelow s)
    (hlegacy : ∀ ndev ∈ s.ndev, ndev.legacyQids = []) : FitsBinding s := by
  intro ndev hdev
  rw [userRange, hpool]
  refine ⟨Nat.le_refl _, Nat.le_refl _, hgrant ndev hdev, fun q hq => ?_⟩
  rw [hlegacy ndev hdev] at hq
  cases hq

/-- A pool with the range that an allocation starts from. -/
theorem userRange_of_init {s' : State} {p p' : UserQidPool} {ndev' : NvmeDev}
    (hdev : s.ndev = some ndev) (hdev' : s.ndev = some ndev')
    (hinit : ∃ ok, userQidPoolInit s.pool ndev' ok = .ok p) (hpool : s'.pool = some p')
    (hrange : p'.first = p.first ∧ p'.last = p.last) : userRange s' ndev = userRange s ndev := by
  rcases hinit with ⟨_, hinit⟩
  rw [← Option.some.inj (hdev.symm.trans hdev')] at hinit
  rw [userRange, hpool, userRange]
  simp only [hrange.1, hrange.2]
  rcases userQidPoolInit_ok hinit with hold | ⟨hold, -, rfl⟩
  · rw [hold]
  · rw [hold]

/-- The ids that user queues can have do not change with the device that is
    bound; making the pool only writes them down. -/
theorem userRange_effect {r : Result} (hb : Books s) (hgrant : s.pool = none → GrantBelow s)
    (hdev : s.ndev = some ndev) (he : Effect s op r) :
    userRange r.state ndev = userRange s ndev := by
  have hsame : r.state.pool = s.pool → userRange r.state ndev = userRange s ndev := fun hpool => by
    rw [userRange, userRange, hpool]
  -- Freeing ids moves neither end of the pool.
  have hfree : ∀ ks, r.state.pool = s.pool.map (fun p => p.freeAll ks) →
      userRange r.state ndev = userRange s ndev := fun ks hpool => by
    rw [userRange, userRange, hpool]
    cases s.pool with
    | none => rfl
    | some p =>
      have hrange := UserQidPool.freeAll_range ks p
      simp only [Option.map_some, hrange.1, hrange.2]
  cases he with
  | silent hframe => exact hsame hframe.pool
  | rebound hop hpool | opened fd task hndev hpool | grouped own groupId hown hndev hpool =>
    exact hsame hpool
  | dropped hop own g hown hgroup hndev hpool | released hop own hown hndev hpool =>
    exact hfree _ hpool
  | exhausted _ _ _ _ _ hdev' hinit halloc _ hpool =>
    have hfull := hinit.elim fun _ h => UserQidPool.alloc_none (hb.pool_init hgrant hdev' h).1 halloc
    exact userRange_of_init hdev hdev' hinit hpool hfull.1
  | failed _ _ _ _ _ _ _ qids h _ hpool =>
    exact userRange_of_init hdev h.dev h.init hpool ((h.taken hb hgrant).2.2.1.freeAll_range qids)
  | committed _ _ _ _ _ _ _ _ h _ hpool =>
    exact userRange_of_init hdev h.dev h.init hpool (h.taken hb hgrant).2.2.1.range

/-- A pool that fits the binding goes on fitting it. -/
theorem fits_step (hb : Books s) (hfit : FitsBinding s) (hop : op.onDevice = false) :
    FitsBinding (step s op) := by
  have heffect := exec_effect s op
  have hsame : (step s op).ndev = s.ndev := ndev_effect hop heffect
  intro ndev hdev
  rw [hsame] at hdev
  have hrange : userRange (step s op) ndev = userRange s ndev :=
    userRange_effect hb hfit.grantBelow hdev heffect
  rw [hrange]
  exact hfit ndev hdev

/-! ### Runs -/

/-- In every run in which queues are added and dropped only while the pool fits
    the binding, every command for a user queue is clear of the kernel's queues
    and of those made while probing, and within the grant. -/
theorem commands_clear (ops : List Op) (hmeets : Along step MeetsBinding State.init ops) :
    Along step SentClear State.init ops := by
  refine along_of_invariant (I := Books) (fun s op hb hm => ?_) (fun s op hb hm => ?_)
    books_init hmeets
  · exact books_effect hb (fun hadd => (hm (.inl hadd)).grantBelow) (exec_effect s op)
  · exact sentClear_effect hb hm (exec_effect s op)

/-- A queue is added and its descriptor closed, in one binding: the queue's own
    id is deleted. -/
theorem commands_clear_oneQueue :
    (exec (run step State.init oneQueue) (.devRelease 3)).cmds = [.deleteSq 3, .deleteCq 3] ∧
      Along step SentClear State.init (oneQueue ++ [.devRelease 3]) :=
  ⟨by decide, commands_clear _ (by decide)⟩

/-- Within one binding that fits, every command is clear, whatever is done. -/
theorem commands_clear_binding (hb : Books s) (hfit : FitsBinding s) (ops : List Op)
    (hops : ∀ op ∈ ops, op.onDevice = false) : Along step SentClear s ops := by
  have hstep : ∀ s op, Books s ∧ FitsBinding s → op.onDevice = false →
      Books (step s op) ∧ FitsBinding (step s op) := fun s op h hop =>
    ⟨books_effect h.1 (fun _ => h.2.grantBelow) (exec_effect s op), fits_step h.1 h.2 hop⟩
  exact along_of_invariant (I := fun s => Books s ∧ FitsBinding s)
    (P := fun _ op => op.onDevice = false) hstep
    (fun s op h _ => sentClear_effect h.1 (fun _ => h.2) (exec_effect s op)) ⟨hb, hfit⟩
    (along_of_forall (fun _ op hop => hops op hop))

/-- A first binding fits, and the queue added after it is deleted with its own id. -/
theorem commands_clear_binding_oneQueue : let s := run step State.init (oneQueue.take 2)
    FitsBinding s ∧ Along step SentClear s (oneQueue.drop 2 ++ [.devRelease 3]) := by
  have hb : Books (run step State.init (oneQueue.take 2)) :=
    books_effect (books_effect books_init (by decide) (exec_effect _ (.setKernelIoqCap 2 true)))
      (by decide) (exec_effect _ (plainBind 8))
  exact ⟨by decide, commands_clear_binding hb (by decide) _ (by decide)⟩

/-- The controller is unbound while the queue exists, and bound again with four
    kernel queues. -/
def rebound : List Op := oneQueue ++ [.deviceUnbind, .setKernelIoqCap 4 true, plainBind 8]

/-- Closing the descriptor then deletes the kernel's queue 3. -/
theorem rebind_collides :
    (exec (run step State.init rebound) (.devRelease 3)).cmds = [.deleteSq 3, .deleteCq 3] ∧
      (∃ ndev ∈ (run step State.init rebound).ndev, KernelQueue ndev 3) ∧
      ¬ Along step SentClear State.init (rebound ++ [.devRelease 3]) := by
  decide

end Geminifs.Snvme
