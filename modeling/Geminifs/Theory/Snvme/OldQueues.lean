import Geminifs.Theory.Snvme.Setup
import Geminifs.Core.Snvme.Driver

/-!
# The Queues of the Old Protocol

While a controller is probed, what it grants is divided between the kernel and the
queues whose rings were registered before. The kernel is left without a queue if the
others take all but one, and if they do not fit it gets the whole grant, which may be
more than its array of queues has room for. The array's size is overwritten by each
division with one queue too few, so a reset takes a queue off the kernel. A queue that
fails can be left on the controller.

## Main definitions

* `kernelShare`, `userShare`, `Divided`: What a division of a grant should come to.
* `divide`: The division as a setup makes it.
* `leftBehind`: What the controller has of a queue after the commands for it.

## Theorems

* `divided_iff`: When a division is right.
* `setup_divides`: A setup leaves the division as it made it.
* `reset_takes_queue`: Each reset takes a queue off the kernel.
* `user_queue_cleared_iff`: When a queue that fails leaves nothing behind.
-/

namespace Geminifs.Snvme

/-- The queues that interrupts are set up for, after a division. -/
def kernelShare (split : NvmeDev × Nat) : Nat :=
  if split.1.capKernelIoq ≠ 0 ∧ ¬ split.1.useUserAllocated ∧ split.1.capKernelIoq < split.2 then
    split.1.capKernelIoq
  else split.2

def userShare (split : NvmeDev × Nat) : Nat :=
  if split.1.useUserAllocated then split.1.nrUserUseCq else 0

/-- The kernel has a queue, both have no more than was granted, and whatever interrupts
    there are, the kernel's largest id is within its array of queues. -/
structure Divided (size granted : Nat) (split : NvmeDev × Nat) : Prop where
  kernel : 1 ≤ kernelShare split
  total : kernelShare split + userShare split ≤ granted
  qids : ∀ single v vectors poll,
    nvmeSetupIrqs split.1 (kernelShare split) single v = some (vectors, poll) →
      max (vectors - 1) 1 + poll < size

/-- With interrupts for all of them, the kernel's largest id is the number of its queues. -/
theorem qids_below_iff (dev : NvmeDev) {share size : Nat} (hpos : 1 ≤ share) :
    (∀ single v vectors poll, nvmeSetupIrqs dev share single v = some (vectors, poll) →
      max (vectors - 1) 1 + poll < size) ↔ share < size := by
  constructor
  · intro h
    have hall := h false (share + 1) (1 + (share - min dev.nrPollQueues (share - 1)))
      (min dev.nrPollQueues (share - 1)) ?_
    · omega
    · unfold nvmeSetupIrqs
      rw [if_neg (by omega), if_neg (by simp), Nat.min_eq_right (by omega)]
  · intro h _ v _ _ hirqs
    exact Nat.lt_of_le_of_lt (nvmeSetupIrqs_maxQid hpos hirqs) h

/-- What a division comes to, in terms of the two shares. -/
theorem divided_iff_shares (size granted : Nat) (split : NvmeDev × Nat) :
    Divided size granted split ↔ 1 ≤ kernelShare split ∧ kernelShare split < size ∧
      kernelShare split + userShare split ≤ granted := by
  constructor
  · rintro ⟨hpos, htotal, hqids⟩
    exact ⟨hpos, (qids_below_iff split.1 hpos).mp hqids, htotal⟩
  · rintro ⟨hpos, hlt, htotal⟩
    exact ⟨hpos, htotal, (qids_below_iff split.1 hpos).mpr hlt⟩

variable {dev dev' : NvmeDev} {maps : List MapDesc} {most user kernel : Nat}

/-- A division that leaves the kernel and the old protocol their queues. The size of the
    kernel's array forgets the admin queue. -/
theorem splitGrant_divides {expect granted : Nat} (hon : dev.useUserAllocated = true)
    (hkernel : sub32 dev.nrAllocatedQueues 1 ≤ granted) (hle : granted ≤ expect)
    (huser : dev.nrUserAllocatedCq + 1 ≤ granted) (hlt : granted < 4294967296) :
    splitGrant dev expect granted = ({ dev with
          nrAllocatedQueues := granted - dev.nrUserAllocatedCq
          nrUserUseCq := dev.nrUserAllocatedCq }, granted - dev.nrUserAllocatedCq - 1) := by
  have hleft : sub32 granted dev.nrUserAllocatedCq = granted - dev.nrUserAllocatedCq := by
    rw [sub32, u32]
    omega
  have hlast : sub32 (granted - dev.nrUserAllocatedCq) 1 = granted - dev.nrUserAllocatedCq - 1 := by
    rw [sub32, u32]
    omega
  have hfits : ¬ sub32 granted 1 < dev.nrUserAllocatedCq := by
    rw [sub32, u32]
    omega
  rw [splitGrant, if_neg (by simp [hon]), if_neg (Nat.not_lt.mpr hkernel), if_pos hle,
    if_neg hfits, hleft]
  dsimp only
  rw [hlast]

/-- A division is right if the grant is short of the kernel's queues, or leaves it one
    besides those of the old protocol, or is too small for these and not for the array. -/
theorem divided_iff (dev : NvmeDev) (granted : Nat) (hon : dev.useUserAllocated = true)
    (hsize : 1 ≤ dev.nrAllocatedQueues ∧ dev.nrAllocatedQueues < 4294967296)
    (huser : dev.nrUserAllocatedCq < 4294967296) (hpos : 1 ≤ granted)
    (hle : granted ≤ u32 (sub32 dev.nrAllocatedQueues 1 + dev.nrUserAllocatedCq)) :
    Divided dev.nrAllocatedQueues granted
        (splitGrant dev (u32 (sub32 dev.nrAllocatedQueues 1 + dev.nrUserAllocatedCq)) granted) ↔
      granted + 1 < dev.nrAllocatedQueues ∨ dev.nrUserAllocatedCq + 1 < granted ∨
        (granted ≤ dev.nrUserAllocatedCq ∧ (granted < dev.nrAllocatedQueues ∨
          (dev.capKernelIoq ≠ 0 ∧ dev.capKernelIoq < dev.nrAllocatedQueues))) := by
  have hkernel : sub32 dev.nrAllocatedQueues 1 = dev.nrAllocatedQueues - 1 := by
    rw [sub32, u32]
    omega
  have hbound : granted < 4294967296 ∧
      granted ≤ dev.nrAllocatedQueues - 1 + dev.nrUserAllocatedCq := by
    rw [u32] at hle
    omega
  rw [divided_iff_shares]
  by_cases hfits : dev.nrAllocatedQueues - 1 ≤ granted ∧ dev.nrUserAllocatedCq + 1 ≤ granted
  · rw [splitGrant_divides hon (hkernel ▸ hfits.1) hle hfits.2 hbound.1]
    simp only [kernelShare, userShare, hon, not_true, false_and, and_false, if_false, if_true]
    omega
  · -- The old protocol is given up, and the kernel has the grant up to its cap.
    have hgiven : splitGrant dev
        (u32 (sub32 dev.nrAllocatedQueues 1 + dev.nrUserAllocatedCq)) granted =
          ({ dev with useUserAllocated := false }, granted) := by
      have hless : sub32 granted 1 = granted - 1 := by
        rw [sub32, u32]
        omega
      rw [splitGrant, if_neg (by simp [hon])]
      split
      · rfl
      · rw [if_pos (by omega)]
    have hshare : kernelShare ({ dev with useUserAllocated := false }, granted) =
        if dev.capKernelIoq ≠ 0 ∧ dev.capKernelIoq < granted then dev.capKernelIoq
        else granted := by
      simp [kernelShare]
    have hnone : userShare ({ dev with useUserAllocated := false }, granted) = 0 := rfl
    rw [hgiven, hshare]
    split <;> omega

/-- A device with so many queues for the kernel and for the old protocol. -/
def splitDev (size user cap : Nat) : NvmeDev :=
  ⟨1, 0, 1, size, 0, cap, 0, 0, true, user, 0, false, [], 0, 0⟩

theorem divided_iff_fits : Divided 9 12 (splitGrant (splitDev 9 4 0) (u32 (sub32 9 1 + 4)) 12) :=
  (divided_iff (splitDev 9 4 0) 12 rfl (by decide) (by decide) (by decide) (by decide)).mpr
    (by decide)

/-- The kernel is left without a queue, or has ids beyond its array. -/
theorem not_divided : kernelShare (splitGrant (splitDev 5 4 0) (u32 (sub32 5 1 + 4)) 5) = 0 ∧
      (splitGrant (splitDev 2 5 0) (u32 (sub32 2 1 + 5)) 5).2 = 5 ∧
      nvmeSetupIrqs (splitDev 2 5 0) 5 false 6 = some (6, 0) ∧ ¬ max (6 - 1) 1 + 0 < 2 := by
  decide

/-! ### Resets -/

/-- The numbers of a division. -/
def NvmeDev.division (dev : NvmeDev) : Bool × Nat × Nat × Nat :=
  (dev.useUserAllocated, dev.nrUserAllocatedCq, dev.nrUserUseCq, dev.nrAllocatedQueues)

theorem setupPasses_division {single : Bool} {env : Nat → PassEnv} (fuel k nrIo : Nat)
    (dev : NvmeDev) : (setupPasses maps single env fuel k nrIo dev).1.division = dev.division := by
  induction fuel generalizing k nrIo dev with
  | zero => rfl
  | succ _ ih =>
    have hpass : ∀ dev, (passResult maps (env k) dev).1.division = dev.division := fun dev => by
      rw [passResult]
      split <;> rfl
    cases hirqs : nvmeSetupIrqs dev nrIo single (env k).vectors with
    | none =>
      rw [setupPasses, hirqs]
    | some =>
      rw [setupPasses_pass hirqs]
      split
      · rfl
      dsimp only
      split
      · exact hpass _
      split
      · split
        · exact (ih ..).trans (hpass _)
        · exact hpass _
      · exact hpass _

/-- The division of a grant as a setup makes it. -/
def divide (dev : NvmeDev) (grant : QueueGrant) : NvmeDev × Nat :=
  let asked := u32 (sub32 dev.nrAllocatedQueues 1 +
    if dev.useUserAllocated then dev.nrUserAllocatedCq else 0)
  splitGrant dev asked (snvmeSetQueueCount asked grant).2

/-- What is set before the division is none of the numbers it reads. -/
theorem splitGrant_division (dev : NvmeDev) (expect granted limit write poll : Nat) : (splitGrant
      { dev with ctrlMaxIoQueues := limit, nrWriteQueues := write, nrPollQueues := poll }
      expect granted).1.division = (splitGrant dev expect granted).1.division := by
  rw [splitGrant, splitGrant]
  split_ifs <;> rfl

/-- A setup leaves the division as it made it. -/
theorem setup_divides (maps : List MapDesc) (dev : NvmeDev) (env : SetupEnv) :
    (sNvmeSetupIoQueues maps dev env).1.division = (divide dev env.grant).1.division := by
  obtain ⟨write, poll, hfirst⟩ : ∃ write poll, (if dev.capKernelIoq = 0 then
      { dev with nrWriteQueues := env.writeQueues, nrPollQueues := env.pollQueues } else dev) =
        { dev with nrWriteQueues := write, nrPollQueues := poll } := by
    split
    · exact ⟨_, _, rfl⟩
    · exact ⟨dev.nrWriteQueues, dev.nrPollQueues, rfl⟩
  rw [sNvmeSetupIoQueues, hfirst, divide]
  dsimp only
  generalize snvmeSetQueueCount _ env.grant = r
  obtain ⟨limit, hlimit⟩ : ∃ limit, (if r.1 = 0 then
      { dev with nrWriteQueues := write, nrPollQueues := poll, ctrlMaxIoQueues := r.2 }
      else { dev with nrWriteQueues := write, nrPollQueues := poll }) =
        { dev with nrWriteQueues := write, nrPollQueues := poll, ctrlMaxIoQueues := limit } := by
    split
    · exact ⟨_, rfl⟩
    · exact ⟨dev.ctrlMaxIoQueues, rfl⟩
  rw [hlimit, ← splitGrant_division dev _ _ limit write poll]
  generalize splitGrant _ _ r.2 = divided
  iterate 4
    split
    · rfl
  · exact setupPasses_division ..

/-- The answer of a controller that grants up to so many queues. -/
def QueueGrant.Grants (grant : QueueGrant) (most : Nat) : Prop :=
  grant.status = 0 ∧ min grant.nsqr grant.ncqr + 1 = most

/-- The division gave the old protocol and the kernel so many queues. -/
structure Shared (most user kernel : Nat) (dev : NvmeDev) : Prop where
  on : dev.useUserAllocated = true
  asked : dev.nrUserAllocatedCq = user
  used : dev.nrUserUseCq = user
  allocated : dev.nrAllocatedQueues = kernel + 1
  fits : kernel + 1 + user ≤ most

theorem Shared.of_division (h : Shared most user kernel dev) (hdev : dev'.division = dev.division) :
    Shared most user kernel dev' := by
  simp only [NvmeDev.division, Prod.mk.injEq] at hdev
  obtain ⟨hon, hcq, huse, hsize⟩ := hdev
  exact ⟨hon.trans h.on, hcq.trans h.asked, huse.trans h.used, hsize.trans h.allocated, h.fits⟩

section

variable {most : Nat} {dev : NvmeDev} {grant : QueueGrant} (hon : dev.useUserAllocated = true)
  (hsize : 2 ≤ dev.nrAllocatedQueues)
  (hint : dev.nrAllocatedQueues + dev.nrUserAllocatedCq ≤ 2147483648)
  (hgrant : grant.Grants most)
include hon hsize hint hgrant

/-- What is divided is all that is asked for, or all there is. -/
theorem divide_eq : divide dev grant =
    splitGrant dev (dev.nrAllocatedQueues - 1 + dev.nrUserAllocatedCq)
      (min (dev.nrAllocatedQueues - 1 + dev.nrUserAllocatedCq) most) := by
  have hasked : u32 (sub32 dev.nrAllocatedQueues 1 +
      if dev.useUserAllocated then dev.nrUserAllocatedCq else 0) =
        dev.nrAllocatedQueues - 1 + dev.nrUserAllocatedCq := by
    rw [hon, if_pos rfl, sub32, u32, u32]
    omega
  rw [divide, hasked, snvmeSetQueueCount, hgrant.1, hgrant.2, if_neg (by decide),
    if_neg (by decide), if_neg (by omega)]

theorem divide_shared (hkernel : dev.nrAllocatedQueues - 1 ≤ most)
    (huser : dev.nrUserAllocatedCq + 1 ≤ most) (hall : kernel + 1 + dev.nrUserAllocatedCq =
      min (dev.nrAllocatedQueues - 1 + dev.nrUserAllocatedCq) most) :
    kernelShare (divide dev grant) = kernel ∧
      Shared most dev.nrUserAllocatedCq kernel (divide dev grant).1 := by
  rw [divide_eq hon hsize hint hgrant, ← hall]
  have hless : sub32 dev.nrAllocatedQueues 1 ≤ kernel + 1 + dev.nrUserAllocatedCq := by
    rw [sub32, u32]
    omega
  rw [splitGrant_divides hon hless (by omega) (by omega) (by omega), Nat.add_sub_cancel]
  exact ⟨by simp [kernelShare, hon], hon, rfl, rfl, rfl, by omega⟩

/-- If the old protocol is not given up, both parts are large enough. -/
theorem fits_of_kept (hkept : (divide dev grant).1.useUserAllocated = true) :
    dev.nrAllocatedQueues - 1 ≤ most ∧ dev.nrUserAllocatedCq + 1 ≤ most := by
  have hmost : 1 ≤ most := hgrant.2 ▸ Nat.le_add_left ..
  rw [divide_eq hon hsize hint hgrant] at hkept
  generalize hg : min (dev.nrAllocatedQueues - 1 + dev.nrUserAllocatedCq) most = granted at hkept
  have hkernel : sub32 dev.nrAllocatedQueues 1 = dev.nrAllocatedQueues - 1 := by
    rw [sub32, u32]
    omega
  have hless : sub32 granted 1 = granted - 1 := by
    rw [sub32, u32]
    omega
  rw [splitGrant, if_neg (by simp [hon]), if_pos (by omega : granted ≤ _), hkernel, hless] at hkept
  by_cases hshort : granted < dev.nrAllocatedQueues - 1
  · simp [hshort] at hkept
  · by_cases hfew : granted - 1 < dev.nrUserAllocatedCq
    · simp [hfew] at hkept
    · omega

end

/-- A reset sets the queues up again, from the numbers of the last division. -/
theorem nvmeResetWork_cases {env : ResetEnv} (hreset : nvmeResetWork maps dev env = some dev') :
    ∃ dev₁ : NvmeDev, dev₁.division = dev.division ∧
      dev' = (sNvmeSetupIoQueues maps dev₁ env.setup).1 := by
  rw [nvmeResetWork] at hreset
  split at hreset
  · cases hreset
  dsimp only at hreset
  split at hreset
  · cases hreset
  split at hreset
  · cases hreset
    refine ⟨_, ?_, rfl⟩
    rfl
  · cases hreset

/-- One reset takes a queue off the kernel, and none off the old protocol. -/
theorem nvmeResetWork_shared {env : ResetEnv} (hmost : most ≤ 65536)
    (hgrant : env.setup.grant.Grants most) (h : Shared most user (kernel + 1) dev)
    (hreset : nvmeResetWork maps dev env = some dev') : Shared most user kernel dev' := by
  obtain ⟨dev₁, hsame, rfl⟩ := nvmeResetWork_cases hreset
  obtain ⟨hon, rfl, -, hsize, hfits⟩ := h.of_division hsame
  refine Shared.of_division ?_ (setup_divides ..)
  exact (divide_shared hon (by omega) (by omega) hgrant (by omega) (by omega) (by omega)).2

theorem run_shared (hmost : most ≤ 65536) (resets : List ResetEnv)
    (hgrants : ∀ env ∈ resets, env.setup.grant.Grants most)
    (h : Shared most user (kernel + resets.length) dev)
    (hrun : resets.foldlM (nvmeResetWork maps) dev = some dev') : Shared most user kernel dev' := by
  induction resets generalizing dev with
  | nil =>
    cases hrun
    exact h
  | cons _ _ ih =>
    obtain ⟨_, hreset, hrun⟩ := Option.bind_eq_some_iff.mp hrun
    rw [List.forall_mem_cons] at hgrants
    exact ih hgrants.2 (nvmeResetWork_shared hmost hgrants.1 h hreset) hrun

/-- A setup of one pass in which all goes well, by a controller with 32 queues. -/
def quietSetup : SetupEnv :=
  ⟨0, 0, ⟨0, 31, 31⟩, true, fun _ => true, false,
    fun _ => ⟨64, 0, fun _ => true, fun _ => 0, fun _ => 0, fun _ => 0, fun _ => true, true⟩⟩

/-- Rings for one queue of the old protocol, in device memory. -/
def oldRings : List MapDesc :=
  [⟨.deviceQueue, 0, 0x10000, gpuPageSize, .unspecified, 0, .none, 0, 1, 0x10000⟩,
    ⟨.deviceQueue, 0, 0x20000, gpuPageSize, .unspecified, 0, .none, 0, 0, 0x20000⟩]

/-- Whether a command for a queue of the old protocol is carried out. -/
def AdminCmd.ok (env : PassEnv) (qid : Nat) : AdminCmd → Bool
  | .createCq .. => env.userCqRet qid = 0
  | .createSq .. => env.userSqRet qid = 0
  | .deleteSq _ => true
  | .deleteCq _ => true

/-- What the controller has of a queue after the commands for it. -/
def leftBehind (maps : List MapDesc) (dev : NvmeDev) (env : PassEnv) (uqid qid : Nat) : HwQueue :=
  (nvmeCreateUserQueue maps dev env uqid qid).2.foldl
    (fun h cmd => h.command none (cmd.ok env qid) cmd) HwQueue.none

/-- A queue that fails leaves nothing behind, unless its submission queue fails with an
    error of the driver, or the lock is not had. -/
theorem user_queue_cleared_iff (maps : List MapDesc) (dev : NvmeDev) (env : PassEnv)
    (uqid qid : Nat) :
    ((nvmeCreateUserQueue maps dev env uqid qid).1 ≠ 0 →
        leftBehind maps dev env uqid qid = HwQueue.none ∧
        ∀ n made, (mixLoop maps dev env (n + 1) uqid qid made).1 = made) ↔
      ¬ ((mapFindByIdx maps dev.queueOnHost uqid 1).isSome ∧ env.userCqRet qid = 0 ∧
        (mapFindByIdx maps dev.queueOnHost uqid 0).isSome ∧
        (env.userSqRet qid < 0 ∨ (env.userSqRet qid = 0 ∧ env.userLock qid = false))) := by
  have hmade : (nvmeCreateUserQueue maps dev env uqid qid).1 ≠ 0 →
      ∀ n made, (mixLoop maps dev env (n + 1) uqid qid made).1 = made := by
    intro hret n made
    rw [mixLoop]
    simp [hret]
  have hdrop : ((nvmeCreateUserQueue maps dev env uqid qid).1 ≠ 0 →
        leftBehind maps dev env uqid qid = HwQueue.none ∧
        ∀ n made, (mixLoop maps dev env (n + 1) uqid qid made).1 = made) ↔
      ((nvmeCreateUserQueue maps dev env uqid qid).1 ≠ 0 →
        leftBehind maps dev env uqid qid = HwQueue.none) :=
    ⟨fun h hret => (h hret).1, fun h hret => ⟨h hret, hmade hret⟩⟩
  rw [hdrop, leftBehind, nvmeCreateUserQueue]
  cases hcq : mapFindByIdx maps dev.queueOnHost uqid 1 with
  | none =>
    simp
  | some cq =>
    by_cases hmadeCq : env.userCqRet qid = 0
    · cases hsq : mapFindByIdx maps dev.queueOnHost uqid 0 with
      | none =>
        simp [hmadeCq, AdminCmd.ok, HwQueue.command, HwQueue.settle, HwQueue.none]
      | some sq =>
        rcases Int.lt_trichotomy (env.userSqRet qid) 0 with hneg | hzero | hpos
        · simp [hmadeCq, hneg, Int.ne_of_lt hneg, AdminCmd.ok, HwQueue.command, HwQueue.none]
        · cases env.userLock qid <;>
            simp [hmadeCq, hzero, AdminCmd.ok, HwQueue.command, HwQueue.none, enodev]
        · simp [hmadeCq, Int.not_lt.mpr (Int.le_of_lt hpos), Int.ne_of_gt hpos, AdminCmd.ok,
            HwQueue.command, HwQueue.settle, HwQueue.none]
    · simp [hmadeCq, AdminCmd.ok, HwQueue.command]

/-- A submission queue that fails with an error of the driver, and a lock that is not had. -/
theorem user_queue_left : let failed : PassEnv :=
      ⟨64, 0, fun _ => true, fun _ => 0, fun _ => 0, fun _ => -4, fun _ => true, true⟩
    let locked : PassEnv :=
      ⟨64, 0, fun _ => true, fun _ => 0, fun _ => 0, fun _ => 0, fun _ => false, true⟩
    (nvmeCreateUserQueue oldRings (splitDev 4 1 0) failed 0 3).1 = -4 ∧
      leftBehind oldRings (splitDev 4 1 0) failed 0 3 = ⟨true, false, []⟩ ∧
      (nvmeCreateUserQueue oldRings (splitDev 4 1 0) locked 0 3).1 = enodev ∧
      leftBehind oldRings (splitDev 4 1 0) locked 0 3 = ⟨true, true, []⟩ := by
  decide

end Geminifs.Snvme
