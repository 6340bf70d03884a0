import Geminifs.Theory.Snvme.Setup

/-!
# What the Cap Leaves to the User

A cap on the kernel's queues is there so that the controller grants more queues than the
kernel takes, and the ids behind the kernel's are for the user. That is what a first
binding gives: the pool is made by the first `NVM_ADD_USER_QUEUE` that gets so far, from
the first id that is not online to the last one that was granted (`pool_of_binding`).

But the pool is the controller's and not the binding's. If an earlier binding left one, it
stays, and the cap that was set in between has no effect on it.

## Main definitions

* `Spans`: A pool is exactly the ids of a range.
* `Opened`: The pool that a binding gets has all the ids behind the kernel's.

## Theorems

* `setup_device`: The device after a setup.
* `pool_of_binding`, `pool_of_earlier`: The pool that a binding gets.
* `step_pool`: The pool's range stays until a queue is added.
* `cap_opens_pool`: When a cap opens the pool.
* `pool_of_earlier_cap`: When it does not.
* `budget_exact_iff`: When a budget is the sum of its groups.
-/

namespace Geminifs.Snvme

open Runs

variable {maps : List MapDesc}

/-! ### The device after a setup -/

variable {dev : NvmeDev}

/-- The device after a setup that succeeds: the grant is written down, and the admin queue
    is online. -/
theorem setup_device {env : SetupEnv} (hone : dev.onlineQueues = 1)
    (hoff : dev.useUserAllocated = false) (hok : (sNvmeSetupIoQueues maps dev env).2 = 0) :
    (sNvmeSetupIoQueues maps dev env).1.ctrlMaxIoQueues = granted dev env.grant ∧
      (sNvmeSetupIoQueues maps dev env).1.nrAllocatedQueues = dev.nrAllocatedQueues ∧
      1 ≤ (sNvmeSetupIoQueues maps dev env).1.onlineQueues ∧
      (snvmeSetQueueCount (u32 (sub32 dev.nrAllocatedQueues 1)) env.grant).1 = 0 := by
  obtain ⟨dev', hneg, heq | ⟨m, hpos, -, -, heq⟩⟩ := setup_cases hone hoff hok
  · rw [heq, hneg.online]
    exact ⟨hneg.limit, hneg.allocated, Nat.le_refl 1, hneg.answered⟩
  · have hpassed : Passed m dev' (setupPasses maps env.singleVector env.pass m 0 m dev').1 :=
      setupPasses_bound m 0 m dev' hpos hneg.online
    rw [heq]
    exact ⟨hpassed.kept.granted.trans hneg.limit, hpassed.allocated.trans hneg.allocated,
      hpassed.online.1, hneg.answered⟩

/-- The grant is the controller's answer, or nothing if it answers with an error, as long
    as less than 2³¹ queues are asked for. -/
theorem granted_eq {grant : QueueGrant} (hpos : 0 < dev.nrAllocatedQueues)
    (hfew : dev.nrAllocatedQueues ≤ 2147483648)
    (hok : (snvmeSetQueueCount (u32 (sub32 dev.nrAllocatedQueues 1)) grant).1 = 0) :
    granted dev grant =
      if grant.status = 0 then min (dev.nrAllocatedQueues - 1) (min grant.nsqr grant.ncqr + 1)
      else 0 := by
  have hasked : u32 (sub32 dev.nrAllocatedQueues 1) = dev.nrAllocatedQueues - 1 := by
    rw [u32, sub32, u32]
    omega
  rw [snvmeSetQueueCount] at hok
  rw [granted, hasked, snvmeSetQueueCount]
  by_cases hneg : grant.status < 0
  · rw [if_pos hneg] at hok
    omega
  rw [if_neg hneg]
  by_cases hstatus : 0 < grant.status
  · rw [if_pos hstatus, if_neg (by omega)]
  · rw [if_neg hstatus, if_neg (by omega), if_pos (by omega)]

variable {s : State} {p : UserQidPool}

/-- What a binding finds online, if a cap was set and the old protocol is not asked for. -/
theorem bind_device {env : BindEnv}
    (hlegacy : ¬ (s.ioqNum = s.ioqMapNum ∧ s.useSreg ≠ 0)) (hvalid : s.setup.valid = true)
    (hcap : s.setup.capKernelIoq ≠ 0) (hdev : (snvmDeviceBind s env).1.ndev = some dev) :
    dev.onlineQueues ≤ s.setup.capKernelIoq + 1 ∧ 1 ≤ dev.onlineQueues ∧
      dev.nrAllocatedQueues = (nvmeProbe s env.probe).nrAllocatedQueues ∧
      dev.ctrlMaxIoQueues = granted (nvmeProbe s env.probe) env.reset.setup.grant ∧
      (snvmeSetQueueCount (u32 (sub32 (nvmeProbe s env.probe).nrAllocatedQueues 1))
        env.reset.setup.grant).1 = 0 := by
  rw [snvmDeviceBind] at hdev
  split_ifs at hdev
  obtain ⟨hok, heq⟩ := nvmeResetWork_setup hdev
  have hoff : ((nvmeProbe s env.probe).restarted env.reset).useUserAllocated = false :=
    decide_eq_false hlegacy
  have hset : ((nvmeProbe s env.probe).restarted env.reset).capKernelIoq = s.setup.capKernelIoq :=
    if_pos hvalid
  have hbound := (setup_within_grant rfl hoff hok).2.1 (by rw [hset]; exact hcap)
  obtain ⟨hlimit, halloc, hone, hanswer⟩ := setup_device rfl hoff hok
  rw [heq]
  exact ⟨hset ▸ hbound, hone, halloc, hlimit, hanswer⟩

/-! ### The pool of a binding -/

/-- A pool, if there is one, has the range of another. -/
def SameRange (pool pool' : Option UserQidPool) : Prop :=
  pool'.map (fun p => (p.first, p.last)) = pool.map (fun p => (p.first, p.last))

theorem sameRange_freeAll (pool : Option UserQidPool) (qids : List Nat) :
    SameRange pool (pool.map fun p => p.freeAll qids) := by
  cases pool with
  | none => rfl
  | some p =>
    have hrange := UserQidPool.freeAll_range qids p
    rw [SameRange, Option.map_some, Option.map_some, Option.map_some, hrange.1, hrange.2]

/-- Nothing but adding a queue makes a pool, and nothing moves it. -/
theorem step_pool {op : Op} (hadd : op.addsQueues = false) : SameRange s.pool (step s op).pool := by
  have hnot : ¬ op.addsQueues = true := by rw [hadd]; exact Bool.false_ne_true
  rw [step]
  cases exec_effect s op with
  | silent hframe => rw [hframe.pool]; rfl
  | rebound _ hpool | opened fd task _ hpool | grouped own groupId _ _ hpool => rw [hpool]; rfl
  | dropped _ own g _ _ _ hpool _ _ | released _ own _ _ hpool _ _ =>
    rw [hpool]; exact sameRange_freeAll _ _
  | exhausted hop | failed hop | committed hop => exact absurd hop hnot

/-- Until a queue is added, a binding keeps its device and the range of the pool. -/
theorem run_pool {ops : List Op} (hops : ∀ op ∈ ops, op.onDevice = false ∧ op.addsQueues = false) :
    (run step s ops).ndev = s.ndev ∧ SameRange s.pool (run step s ops).pool := by
  induction ops generalizing s with
  | nil => exact ⟨rfl, rfl⟩
  | cons op _ ih =>
    have hop := hops op List.mem_cons_self
    have hrest := ih (s := step s op) (List.forall_mem_cons.mp hops).2
    exact ⟨hrest.1.trans (ndev_effect hop.1 (exec_effect s op)), hrest.2.trans (step_pool hop.2)⟩

theorem allocLoop_range (nr : Nat) (p : UserQidPool) (qids : List Nat) :
    (UserQidPool.allocLoop nr p qids).1.first = p.first ∧
      (UserQidPool.allocLoop nr p qids).1.last = p.last := by
  induction nr generalizing p qids with
  | zero => exact ⟨rfl, rfl⟩
  | succ _ ih =>
    rw [UserQidPool.allocLoop]
    split
    · exact ⟨rfl, rfl⟩
    · exact ih _ _

theorem alloc_range {p' : UserQidPool} {nr : Nat} {qids : Option (List Nat)}
    (h : p.alloc nr = (p', qids)) : p'.first = p.first ∧ p'.last = p.last := by
  have hrange := allocLoop_range nr p []
  rw [UserQidPool.alloc] at h
  rw [h] at hrange
  exact hrange

/-- A pool that could be made is also made if there is memory. -/
theorem userQidPoolInit_true {pool : Option UserQidPool} {ndev : NvmeDev} {ok : Bool}
    (h : userQidPoolInit pool ndev ok = .ok p) : userQidPoolInit pool ndev true = .ok p := by
  cases pool with
  | some => exact h
  | none =>
    cases ok with
    | true => exact h
    | false =>
      simp only [userQidPoolInit] at h
      iterate 3
        split at h
        · cases h
      cases h

/-- The pool after a queue was added, or was not, is the one that the binding gets. -/
theorem add_pool (hdev : s.ndev = some dev) {fd : Nat} {req : AddReq} {env : AddEnv}
    (h : (step s (.addUserQueue fd req env)).pool = some p) :
    ∃ p₀, userQidPoolInit s.pool dev true = .ok p₀ ∧ p.first = p₀.first ∧ p.last = p₀.last := by
  have hinit : ∀ {ndev : NvmeDev} {p₀ : UserQidPool}, s.ndev = some ndev →
      (∃ ok, userQidPoolInit s.pool ndev ok = .ok p₀) →
      userQidPoolInit s.pool dev true = .ok p₀ := by
    intro ndev p₀ hndev ⟨_, hok⟩
    rw [Option.some.inj (hdev.symm.trans hndev)]
    exact userQidPoolInit_true hok
  have hkeep : s.pool = some p → ∃ p₀, userQidPoolInit s.pool dev true = .ok p₀ ∧
      p.first = p₀.first ∧ p.last = p₀.last := by
    intro hpool
    rw [hpool]
    exact ⟨p, rfl, rfl, rfl⟩
  cases exec_effect s (.addUserQueue fd req env) with
  | silent hframe => exact hkeep (hframe.pool.symm.trans h)
  | rebound _ hpool | opened fd task _ hpool | grouped own groupId _ _ hpool =>
    exact hkeep (hpool.symm.trans h)
  | dropped hop | released hop => exact absurd hop Bool.false_ne_true
  | exhausted _ _ p₀ p' _ hndev hok halloc _ hpool =>
    have heq : p = p' := Option.some.inj (h.symm.trans hpool)
    rw [heq]
    exact ⟨p₀, hinit hndev hok, alloc_range halloc⟩
  | failed _ _ _ _ _ p₀ p' qids hal _ hpool =>
    have heq : p = p'.freeAll qids := Option.some.inj (h.symm.trans hpool)
    have hrange := alloc_range hal.alloc
    have hfree := UserQidPool.freeAll_range qids p'
    rw [heq]
    exact ⟨p₀, hinit hal.dev hal.init, hfree.1.trans hrange.1, hfree.2.trans hrange.2⟩
  | committed _ _ _ _ _ p₀ p' _ hal _ hpool =>
    have heq : p = p' := Option.some.inj (h.symm.trans hpool)
    rw [heq]
    exact ⟨p₀, hinit hal.dev hal.init, alloc_range hal.alloc⟩

/-- A pool has exactly the ids of a range. -/
def Spans (p : UserQidPool) (first last : Nat) : Prop :=
  ∀ q, p.Covers q ↔ first ≤ q ∧ q ≤ last

/-- The pool that a binding gets has exactly the ids from the first one that is not online
    to the last one, so all but those that the cap leaves to the kernel. It is the one that
    queues are added from. -/
structure Opened (s : State) (dev : NvmeDev) (last cap : Nat) : Prop where
  ids : ∀ q, (∃ p, userQidPoolInit s.pool dev true = .ok p ∧ p.Covers q) ↔
    dev.onlineQueues ≤ q ∧ q ≤ last
  room : cap < last → ∃ p, userQidPoolInit s.pool dev true = .ok p ∧ last - cap ≤ p.size
  used : ∀ fd req env p, (step s (.addUserQueue fd req env)).pool = some p →
    ∃ p₀, userQidPoolInit s.pool dev true = .ok p₀ ∧ p.first = p₀.first ∧ p.last = p₀.last

/-- The ids say everything. -/
theorem opened_of_ids {last cap : Nat} (hdev : s.ndev = some dev)
    (hcap : dev.onlineQueues ≤ cap + 1)
    (hids : ∀ q, (∃ p, userQidPoolInit s.pool dev true = .ok p ∧ p.Covers q) ↔
      dev.onlineQueues ≤ q ∧ q ≤ last) : Opened s dev last cap := by
  refine ⟨hids, fun hless => ?_, fun fd req env p h => add_pool hdev h⟩
  -- The range is not empty, so its ends are those of the pool.
  obtain ⟨p, hinit, hfirst, hle⟩ := (hids dev.onlineQueues).mpr ⟨Nat.le_refl _, by omega⟩
  obtain ⟨p', hinit', -, hlast⟩ := (hids last).mpr ⟨by omega, Nat.le_refl _⟩
  have heq : p = p' := Except.ok.inj (hinit.symm.trans hinit')
  subst heq
  refine ⟨p, hinit, ?_⟩
  rw [UserQidPool.size]
  omega

/-- The pool of a binding that has none yet. -/
theorem pool_of_binding (hone : 1 ≤ dev.onlineQueues)
    (hqueues : 0 < dev.nrAllocatedQueues) (q : Nat) :
    (∃ p, userQidPoolInit none dev true = .ok p ∧ p.Covers q) ↔
      dev.onlineQueues ≤ q ∧ q ≤ dev.ctrlMaxIoQueues := by
  constructor
  · rintro ⟨p, hinit, hcovers⟩
    rcases userQidPoolInit_ok hinit with hsome | ⟨-, -, rfl⟩
    · cases hsome
    · exact hcovers
  · intro hq
    refine ⟨⟨dev.onlineQueues, dev.ctrlMaxIoQueues, Bitmap.zeros⟩, ?_, hq⟩
    simp only [userQidPoolInit]
    rw [if_neg (by omega), if_neg (by omega), if_neg (by omega), if_neg (by simp)]

/-- The pool of a binding that finds one. -/
theorem pool_of_earlier {pool : Option UserQidPool} (h : SameRange (some p) pool) (dev : NvmeDev)
    (q : Nat) : (∃ p', userQidPoolInit pool dev true = .ok p' ∧ p'.Covers q) ↔ p.Covers q := by
  cases pool with
  | none => cases h
  | some p₀ =>
    rw [SameRange, Option.map_some, Option.map_some, Option.some.injEq, Prod.mk.injEq] at h
    have hcovers : p₀.Covers q ↔ p.Covers q := by
      rw [UserQidPool.Covers, UserQidPool.Covers, h.1, h.2]
    rw [← hcovers]
    refine ⟨?_, fun hq => ⟨p₀, rfl, hq⟩⟩
    rintro ⟨_, hinit, hq⟩
    exact Except.ok.inj hinit ▸ hq

/-- A cap that is set before a binding without the old protocol bounds the kernel's queues.
    And it opens the pool, to all ids behind the kernel's that the controller grants, if
    there is no pool yet; one that an earlier binding left has to have just these ids. -/
theorem cap_opens_pool (s : State) (env : BindEnv) (dev : NvmeDev) (ops : List Op)
    (hvalid : s.setup.valid = true) (hcap : 1 ≤ s.setup.capKernelIoq)
    (hlegacy : ¬ (s.ioqNum = s.ioqMapNum ∧ s.useSreg ≠ 0))
    (hqueues : 0 < (nvmeProbe s env.probe).nrAllocatedQueues ∧
      (nvmeProbe s env.probe).nrAllocatedQueues ≤ 2147483648)
    (hdev : (snvmDeviceBind s env).1.ndev = some dev)
    (hops : ∀ op ∈ ops, op.onDevice = false ∧ op.addsQueues = false) :
    let answer := env.reset.setup.grant
    let grant := if answer.status = 0 then
      min ((nvmeProbe s env.probe).nrAllocatedQueues - 1) (min answer.nsqr answer.ncqr + 1) else 0
    dev.onlineQueues - 1 ≤ s.setup.capKernelIoq ∧ (s.pool = none →
        Opened (run step (snvmDeviceBind s env).1 ops) dev grant s.setup.capKernelIoq) ∧
      ∀ p, s.pool = some p →
        (Opened (run step (snvmDeviceBind s env).1 ops) dev grant s.setup.capKernelIoq ↔
          Spans p dev.onlineQueues grant) := by
  obtain ⟨hbound, hone, halloc, hlimit, hanswer⟩ :=
    bind_device hlegacy hvalid (Nat.ne_of_gt hcap) hdev
  rw [granted_eq hqueues.1 hqueues.2 hanswer] at hlimit
  obtain ⟨hndev, hrange⟩ := @run_pool (snvmDeviceBind s env).1 ops hops
  have hpool : (snvmDeviceBind s env).1.pool = s.pool := by
    rw [snvmDeviceBind]
    split
    · rfl
    · rfl
  rw [hpool] at hrange
  rw [hdev] at hndev
  refine ⟨by omega, fun hp => opened_of_ids hndev hbound fun q => ?_, fun p hp => ?_⟩
  · rw [SameRange, hp, Option.map_none, Option.map_eq_none_iff] at hrange
    rw [hrange, pool_of_binding hone (by omega), hlimit]
  · rw [hp] at hrange
    constructor
    · exact fun h q => (pool_of_earlier hrange dev q).symm.trans (h.ids q)
    · exact fun h => opened_of_ids hndev hbound fun q =>
        (pool_of_earlier hrange dev q).trans (h q)

/-- A binding to a controller that grants eight queues, on a host with as many processors. -/
def eightGranted : BindEnv :=
  ⟨0, ⟨8, 0, 0⟩, ⟨true, 1024, 1,
    ⟨0, 0, ⟨0, 7, 7⟩, true, fun _ => true, false, fun _ => plainPass⟩, true⟩⟩

/-- With a cap of two, a first binding has the ids from 3 to 8 for the user. -/
theorem cap_opens_pool_first :
    ∃ dev, (snvmDeviceBind (run step State.init [.setKernelIoqCap 2 true]) eightGranted).1.ndev =
        some dev ∧ dev.onlineQueues = 3 ∧
      Opened (run step
        (snvmDeviceBind (run step State.init [.setKernelIoqCap 2 true]) eightGranted).1
        [.devOpen 3 10 true]) dev 8 2 := by
  refine ⟨_, rfl, by decide, ?_⟩
  exact (cap_opens_pool (run step State.init [.setKernelIoqCap 2 true]) eightGranted _
    [.devOpen 3 10 true] rfl (by decide) (by decide) (by decide) rfl (by decide)).2.1 rfl

/-- A queue is added and everything closed; then the cap is lowered to one. -/
def capLowered : List Op :=
  oneQueue ++ [.devRelease 3, .deviceUnbind, .setKernelIoqCap 1 true]

/-- The next binding leaves all ids from 2 on to the user, but the pool still begins at 3:
    it has six ids, and not the seven that the cap leaves. -/
theorem pool_of_earlier_cap :
    ∃ dev p, (snvmDeviceBind (run step State.init capLowered) eightGranted).1.ndev = some dev ∧
      dev.onlineQueues = 2 ∧ dev.ctrlMaxIoQueues = 8 ∧
      userQidPoolInit (snvmDeviceBind (run step State.init capLowered) eightGranted).1.pool dev
        true = .ok p ∧ p.first = 3 ∧ p.last = 8 ∧ p.size = 6 ∧
      ¬ Opened (snvmDeviceBind (run step State.init capLowered) eightGranted).1 dev 8 1 := by
  refine ⟨_, _, rfl, by decide, by decide, rfl, by decide, by decide, by decide, fun h => ?_⟩
  obtain ⟨p, hinit, hcovers⟩ := (h.ids 2).mpr (by decide)
  cases hinit
  exact absurd hcovers.1 (by decide)

/-! ### The budget -/

/-- The sum in 32 bits, from any number on. -/
theorem foldl_counts (groups : List SetupGroup) (n : Nat) :
    groups.foldl (fun sum g => u32 (sum + g.count)) (u32 n) =
      u32 (n + (groups.map SetupGroup.count).sum) := by
  induction groups generalizing n with
  | nil => rfl
  | cons g groups ih =>
    have hadd : u32 (u32 n + g.count) = u32 (n + g.count) := Nat.mod_add_mod _ _ _
    rw [List.foldl_cons, hadd, ih, List.map_cons, List.sum_cons, Nat.add_assoc]

/-- A budget that was set stays set, and does not grow. -/
theorem nvmSetIoqNum_le {n : Nat} {s : State} (req : SetupReq) (copyIn : Bool)
    (h : s.ioqNum ≠ 0 ∧ s.ioqNum ≤ n) :
    (nvmSetIoqNum s req copyIn).1.ioqNum ≠ 0 ∧ (nvmSetIoqNum s req copyIn).1.ioqNum ≤ n := by
  unfold nvmSetIoqNum
  split_ifs <;> simp only <;> omega

/-- What is checked of a request. -/
theorem nvmSetIoqNum_accepted {s : State} {req : SetupReq} {copyIn : Bool}
    (h : (nvmSetIoqNum s req copyIn).2 = 0) : (nvmSetIoqNum s req copyIn).1.ioqNum ≠ 0 ∧
      (req.groups ≠ [] → sumCounts req.groups = req.ioqNum) := by
  unfold nvmSetIoqNum at h ⊢
  split_ifs at h ⊢ with _ hzero _ _ _ _ hsum
  any_goals cases h
  exact ⟨hzero, fun hne => not_not.mp fun hbad => hsum ⟨hne, hbad⟩⟩

/-- The groups of a request that is accepted have exactly its queues if the sum of their
    counts fits in 32 bits. Requests after it never make the budget larger. -/
theorem budget_exact_iff (s : State) (req : SetupReq) (copyIn : Bool)
    (reqs : List (SetupReq × Bool)) (hok : (nvmSetIoqNum s req copyIn).2 = 0) :
    (req.groups ≠ [] → ((req.groups.map SetupGroup.count).sum = req.ioqNum ↔
      (req.groups.map SetupGroup.count).sum < 4294967296)) ∧
    (run (fun s r => (nvmSetIoqNum s r.1 r.2).1) (nvmSetIoqNum s req copyIn).1 reqs).ioqNum ≤
      (nvmSetIoqNum s req copyIn).1.ioqNum := by
  obtain ⟨hset, hgroups⟩ := nvmSetIoqNum_accepted hok
  refine ⟨fun hne => ?_, ?_⟩
  · have hsum := foldl_counts req.groups 0
    have heq : u32 (0 + (req.groups.map SetupGroup.count).sum) = req.ioqNum :=
      hsum.symm.trans (hgroups hne)
    unfold u32 at heq
    omega
  · exact (run_invariant (I := fun s : State => s.ioqNum ≠ 0 ∧ s.ioqNum ≤ _) (P := fun _ _ => True)
      (fun _ (r : SetupReq × Bool) h _ => nvmSetIoqNum_le r.1 r.2 h) ⟨hset, Nat.le_refl _⟩
      (along_of_forall fun _ _ _ => trivial)).2

/-- A request for one queue, with two groups. -/
def halves : SetupReq := ⟨1, 0, 0, 0, 0, [], [⟨2147483648, 0⟩, ⟨2147483649, 0⟩]⟩

theorem budget_exact_iff_one :
    ([⟨1, 0⟩].map SetupGroup.count).sum = halves.ioqNum :=
  ((budget_exact_iff State.init { halves with groups := [⟨1, 0⟩] } true [] rfl).1 (by simp)).mpr
    (by decide)

/-- The sum of the counts is more than 2³², and is taken for 1. -/
theorem halves_accepted : (nvmSetIoqNum State.init halves true).2 = 0 ∧
    (halves.groups.map SetupGroup.count).sum ≠ halves.ioqNum :=
  ⟨rfl, by decide⟩

end Geminifs.Snvme
