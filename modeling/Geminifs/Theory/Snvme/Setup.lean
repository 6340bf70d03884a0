import Geminifs.Theory.Snvme.Collision

/-!
# What a Binding Brings Online

The setup of a controller's queues may go round several times: when the kernel
gets fewer queues than it has interrupt vectors for, it starts over with as many
as it got. Each time round there are fewer, so the loop ends (`setupPasses_fuel`),
and in the end there are never more kernel queues than the setup began with
(`setupPasses_bound`).

For a binding without queues of the old protocol this puts the kernel's queues
within the grant and below the cap (`setup_within_grant`), and a first binding
of that kind fits the pool that is made from it (`bind_fits`).

## Main definitions

* `Kept`, `Passed`: What a setup leaves of the device, and what its passes do.
* `passResult`: The queues after one pass.
* `granted`, `Negotiated`: What the controller grants, and the device that knows it.

## Theorems

* `setupPasses_cases`: A pass ends the loop or leaves fewer queues to set up.
* `setupPasses_fuel`: As many passes as queues are enough.
* `setupPasses_bound`: How many kernel queues come online.
* `setup_cases`: What a setup that succeeds has done.
* `setup_within_grant`: They are within the grant and below the cap.
* `bind_fits`: A first binding without queues of the old protocol fits the pool.
-/

namespace Geminifs.Snvme

/-- The grant, the cap and the choice of protocol are left alone, and without
    the old protocol so are its queues. -/
structure Kept (dev dev' : NvmeDev) : Prop where
  granted : dev'.ctrlMaxIoQueues = dev.ctrlMaxIoQueues
  cap : dev'.capKernelIoq = dev.capKernelIoq
  protocol : dev'.useUserAllocated = dev.useUserAllocated
  legacy : dev.useUserAllocated = false → dev'.legacyQids = dev.legacyQids

variable (dev : NvmeDev)

theorem Kept.refl : Kept dev dev := ⟨rfl, rfl, rfl, fun _ => rfl⟩

theorem Kept.trans {dev dev' dev'' : NvmeDev} (h : Kept dev dev') (h' : Kept dev' dev'') :
    Kept dev dev'' :=
  ⟨h'.granted.trans h.granted, h'.cap.trans h.cap, h'.protocol.trans h.protocol,
    fun hoff => (h'.legacy (h.protocol.trans hoff)).trans (h.legacy hoff)⟩

/-- A device that queues were set up for, at most `nrIo` of them next to the admin queue. -/
structure Passed (nrIo : Nat) (dev dev' : NvmeDev) : Prop where
  online : 1 ≤ dev'.onlineQueues ∧ dev'.onlineQueues ≤ nrIo + 1
  allocated : dev'.nrAllocatedQueues = dev.nrAllocatedQueues
  kept : Kept dev dev'

theorem Passed.trans {m n : Nat} {dev dev' dev'' : NvmeDev} (h : Passed m dev dev')
    (h' : Passed n dev' dev'') (hle : n ≤ m) : Passed m dev dev'' :=
  ⟨⟨h'.online.1, Nat.le_trans h'.online.2 (Nat.succ_le_succ hle)⟩,
    h'.allocated.trans h.allocated, h.kept.trans h'.kept⟩

/-- Interrupts are asked for so that the kernel's largest id is at most the
    number of queues. -/
theorem nvmeSetupIrqs_maxQid {dev : NvmeDev} {nrIo vectors poll : Nat} {single : Bool} {v : Int}
    (hpos : 1 ≤ nrIo) (h : nvmeSetupIrqs dev nrIo single v = some (vectors, poll)) :
    max (vectors - 1) 1 + poll ≤ nrIo := by
  unfold nvmeSetupIrqs at h
  dsimp only at h
  split at h
  · cases h
  · rcases h with ⟨rfl, rfl⟩
    -- At least one queue is not polled, and has a vector.
    split <;> omega

theorem bringOnline_bounds (createRet : Nat → Int) (n i : Nat) (ret : Int) :
    i ≤ (bringOnline createRet n i ret).1 ∧ (bringOnline createRet n i ret).1 ≤ i + n := by
  induction n generalizing i ret with
  | zero => exact ⟨Nat.le_refl _, Nat.le_refl _⟩
  | succ _ ih =>
    rw [bringOnline]
    split
    · have hrest := ih (i + 1) 0
      omega
    · exact ⟨Nat.le_refl _, Nat.le_add_right _ _⟩

/-- The queues after one pass. -/
def passResult (maps : List MapDesc) (env : PassEnv) (dev : NvmeDev) : NvmeDev × Int :=
  if (nvmeCreateIoQueues dev env).1.useUserAllocated then
    nvmeCreateIoQueuesMix maps (nvmeCreateIoQueues dev env).1 env
  else nvmeCreateIoQueues dev env

/-- From the admin queue alone, a pass brings at most the queues up to `max_qid`
    online. -/
theorem passResult_spec (maps : List MapDesc) (env : PassEnv) {dev : NvmeDev}
    (hone : dev.onlineQueues = 1) :
    Passed dev.maxQid dev (passResult maps env dev).1 ∧
      (passResult maps env dev).1.maxQid = dev.maxQid := by
  have hcreate : 1 ≤ (nvmeCreateIoQueues dev env).1.onlineQueues ∧
      (nvmeCreateIoQueues dev env).1.onlineQueues ≤ dev.maxQid + 1 := by
    have hup := bringOnline_bounds env.createRet
      (min dev.maxQid ((allocRings env.ringOk (dev.maxQid + 1 - dev.queueCount)
        dev.queueCount).1 - 1) + 1 - dev.onlineQueues) dev.onlineQueues
      (allocRings env.ringOk (dev.maxQid + 1 - dev.queueCount) dev.queueCount).2
    rw [← hone]
    refine ⟨hup.1, Nat.le_trans hup.2 ?_⟩
    omega
  rw [passResult]
  split
  next hon =>
    exact ⟨⟨hcreate, rfl, rfl, rfl, rfl, fun hoff => absurd (hon.symm.trans hoff) (by simp)⟩, rfl⟩
  · exact ⟨⟨hcreate, rfl, rfl, rfl, rfl, fun _ => rfl⟩, rfl⟩

variable {maps : List MapDesc} {single : Bool} {env : Nat → PassEnv}

/-- One pass, given its interrupt vectors. -/
theorem setupPasses_pass {k nrIo vectors poll : Nat} {dev : NvmeDev}
    (hirqs : nvmeSetupIrqs dev nrIo single (env k).vectors = some (vectors, poll)) (fuel : Nat) :
    setupPasses maps single env (fuel + 1) k nrIo dev = if (env k).adminIrq ≠ 0 then
        ({ dev with maxQid := max (vectors - 1) 1 + poll }, (env k).adminIrq)
      else
        let m := passResult maps (env k) { dev with maxQid := max (vectors - 1) 1 + poll }
        if m.2 ≠ 0 ∨ m.1.onlineQueues < 2 then m
        else if m.1.onlineQueues - 1 < m.1.maxQid then
          if (env k).relock then
            setupPasses maps single env fuel (k + 1) (m.1.onlineQueues - 1)
              { m.1 with onlineQueues := 1 }
          else (m.1, enodev)
        else (m.1, 0) := by
  rw [setupPasses, hirqs]
  rfl

/-- One pass either ends the loop, with at most as many queues as it was to set
    up, or goes on with fewer, whatever fuel is left. -/
theorem setupPasses_cases {k nrIo : Nat} {dev : NvmeDev} (hpos : 1 ≤ nrIo)
    (hone : dev.onlineQueues = 1) :
    (∃ r : NvmeDev × Int, Passed nrIo dev r.1 ∧
      ∀ fuel, setupPasses maps single env (fuel + 1) k nrIo dev = r) ∨
    ∃ dev' nrIo', 1 ≤ nrIo' ∧ nrIo' < nrIo ∧ dev'.onlineQueues = 1 ∧ Passed nrIo dev dev' ∧
      ∀ fuel, setupPasses maps single env (fuel + 1) k nrIo dev =
        setupPasses maps single env fuel (k + 1) nrIo' dev' := by
  cases hirqs : nvmeSetupIrqs dev nrIo single (env k).vectors with
  | none =>
    refine .inl ⟨(dev, eio), ⟨by rw [hone]; omega, rfl, .refl dev⟩, fun fuel => ?_⟩
    rw [setupPasses, hirqs]
  | some irqs =>
    rcases irqs with ⟨vectors, poll⟩
    have htop := nvmeSetupIrqs_maxQid hpos hirqs
    -- The passes differ only in what they do with these queues.
    have hpass := fun fuel => @setupPasses_pass maps single env k nrIo vectors poll dev hirqs fuel
    generalize hdev₁ : { dev with maxQid := max (vectors - 1) 1 + poll } = dev₁ at hpass
    have hone₁ : dev₁.onlineQueues = 1 := by rw [← hdev₁]; exact hone
    have hmax₁ : dev₁.maxQid ≤ nrIo := by rw [← hdev₁]; exact htop
    have hpassed₁ : Passed nrIo dev dev₁ :=
      ⟨by rw [hone₁]; omega, by rw [← hdev₁], by rw [← hdev₁]; exact ⟨rfl, rfl, rfl, fun _ => rfl⟩⟩
    have hspec := passResult_spec maps (env k) hone₁
    generalize passResult maps (env k) dev₁ = m at hpass hspec
    have hpassed := hpassed₁.trans hspec.1 hmax₁
    by_cases hadmin : (env k).adminIrq ≠ 0
    · refine .inl ⟨(dev₁, (env k).adminIrq), hpassed₁, fun fuel => ?_⟩
      rw [hpass, if_pos hadmin]
    by_cases hend : m.2 ≠ 0 ∨ m.1.onlineQueues < 2
    · refine .inl ⟨m, hpassed, fun fuel => ?_⟩
      rw [hpass, if_neg hadmin, if_pos hend]
    by_cases hless : m.1.onlineQueues - 1 < m.1.maxQid
    · by_cases hlock : (env k).relock = true
      · -- Fewer queues came online than there are ids.
        have hkept := hpassed.kept
        refine .inr ⟨{ m.1 with onlineQueues := 1 }, m.1.onlineQueues - 1, by omega, by omega, rfl,
          ⟨⟨Nat.le_refl 1, Nat.le_add_left 1 _⟩, hpassed.allocated,
            hkept.granted, hkept.cap, hkept.protocol, hkept.legacy⟩, fun fuel => ?_⟩
        rw [hpass, if_neg hadmin, if_neg hend, if_pos hless, if_pos hlock]
      · refine .inl ⟨(m.1, enodev), hpassed, fun fuel => ?_⟩
        rw [hpass, if_neg hadmin, if_neg hend, if_pos hless, if_neg hlock]
    · refine .inl ⟨(m.1, 0), hpassed, fun _ => ?_⟩
      rw [hpass, if_neg hadmin, if_neg hend, if_neg hless]

/-- As many passes as there are queues to set up are enough: more fuel changes
    nothing. -/
theorem setupPasses_fuel (fuel k nrIo : Nat) (dev : NvmeDev) (hpos : 1 ≤ nrIo)
    (hone : dev.onlineQueues = 1) (hfuel : nrIo ≤ fuel) :
    setupPasses maps single env (fuel + 1) k nrIo dev =
      setupPasses maps single env fuel k nrIo dev := by
  induction fuel generalizing k nrIo dev with
  | zero => exact absurd hfuel (by omega)
  | succ fuel ih =>
    rcases setupPasses_cases hpos hone with
      ⟨r, -, hr⟩ | ⟨dev', nrIo', hpos', hless, hone', -, hnext⟩
    · rw [hr, hr]
    · rw [hnext, hnext]
      exact ih (k + 1) nrIo' dev' hpos' hone' (by omega)

/-- However often it goes round, the setup brings at most as many kernel queues
    online as it began with. -/
theorem setupPasses_bound (fuel k nrIo : Nat) (dev : NvmeDev) (hpos : 1 ≤ nrIo)
    (hone : dev.onlineQueues = 1) :
    Passed nrIo dev (setupPasses maps single env fuel k nrIo dev).1 := by
  induction fuel generalizing k nrIo dev with
  | zero => exact ⟨by rw [setupPasses, hone]; omega, rfl, .refl dev⟩
  | succ fuel ih =>
    rcases setupPasses_cases hpos hone with
      ⟨r, hpassed, hr⟩ | ⟨dev', nrIo', hpos', hless, hone', hpassed, hnext⟩
    · rw [hr]
      exact hpassed
    · rw [hnext]
      exact hpassed.trans (ih (k + 1) nrIo' dev' hpos' hone') (Nat.le_of_lt hless)

/-- The doorbells are mapped for some of the queues. -/
theorem remapBar_le {remapOk : Nat → Bool} {n m : Nat} (h : remapBar remapOk n = some m) :
    1 ≤ m ∧ m ≤ n := by
  induction n with
  | zero => cases h
  | succ _ ih =>
    rw [remapBar] at h
    split at h
    · rw [Option.some.injEq] at h
      omega
    · have hrest := ih h
      omega

theorem enodev_ne_zero : enodev ≠ 0 := by decide

theorem enomem_ne_zero : enomem ≠ 0 := by decide

/-- Asking for queues fails with a negative result or not at all. -/
theorem snvmeSetQueueCount_nonpos (count : Nat) (grant : QueueGrant) :
    (snvmeSetQueueCount count grant).1 ≤ 0 := by
  unfold snvmeSetQueueCount
  split
  next hneg => exact Int.le_of_lt hneg
  split
  · exact Int.le_refl 0
  split <;> exact Int.le_refl 0

/-- The kernel's share of a grant, without the old protocol: at most the grant,
    and at most the cap if there is one. -/
theorem capped_le {cap granted nrIo : Nat} {legacy : Bool} (hoff : legacy = false)
    (h : (if cap ≠ 0 ∧ ¬ legacy = true ∧ cap < granted then cap else granted) = nrIo) :
    nrIo ≤ granted ∧ (cap ≠ 0 → nrIo ≤ cap) := by
  by_cases hcapped : cap ≠ 0 ∧ ¬ legacy = true ∧ cap < granted
  · rw [if_pos hcapped] at h
    omega
  · rw [if_neg hcapped] at h
    refine ⟨by omega, fun hcap => ?_⟩
    have hle : ¬ cap < granted := fun hless => hcapped ⟨hcap, by rw [hoff]; simp, hless⟩
    omega

/-- What the controller grants, of what a device without the old protocol asks for. -/
def granted (grant : QueueGrant) : Nat :=
  (snvmeSetQueueCount (u32 (sub32 dev.nrAllocatedQueues 1)) grant).2

/-- A device with what the controller grants written down. -/
structure Negotiated (dev : NvmeDev) (grant : QueueGrant) (dev' : NvmeDev) : Prop where
  online : dev'.onlineQueues = 1
  protocol : dev'.useUserAllocated = false
  cap : dev'.capKernelIoq = dev.capKernelIoq
  legacy : dev'.legacyQids = dev.legacyQids
  allocated : dev'.nrAllocatedQueues = dev.nrAllocatedQueues
  limit : dev'.ctrlMaxIoQueues = granted dev grant
  answered : (snvmeSetQueueCount (u32 (sub32 dev.nrAllocatedQueues 1)) grant).1 = 0

section

variable {dev : NvmeDev} {env : SetupEnv} (hone : dev.onlineQueues = 1)
  (hoff : dev.useUserAllocated = false) (hok : (sNvmeSetupIoQueues maps dev env).2 = 0)

include hone hoff hok

/-- Without the old protocol, a setup that succeeds was granted nothing, or ran its passes
    for at most as many queues as were granted, and as the cap says if there is one. -/
theorem setup_cases :
    ∃ dev', Negotiated dev env.grant dev' ∧ ((sNvmeSetupIoQueues maps dev env).1 = dev' ∨
        ∃ m, 1 ≤ m ∧ m ≤ granted dev env.grant ∧ (dev.capKernelIoq ≠ 0 → m ≤ dev.capKernelIoq) ∧
          (sNvmeSetupIoQueues maps dev env).1 =
            (setupPasses maps env.singleVector env.pass m 0 m dev').1) := by
  unfold sNvmeSetupIoQueues at hok ⊢
  dsimp only at hok ⊢
  -- The module's parameters do not matter here.
  generalize hdev₁ : (if dev.capKernelIoq = 0 then
      { dev with nrWriteQueues := env.writeQueues, nrPollQueues := env.pollQueues }
    else dev) = dev₁ at hok ⊢
  have hsame : dev₁.onlineQueues = 1 ∧ dev₁.useUserAllocated = false ∧
      dev₁.capKernelIoq = dev.capKernelIoq ∧ dev₁.legacyQids = dev.legacyQids ∧
      dev₁.nrAllocatedQueues = dev.nrAllocatedQueues := by
    rw [← hdev₁]
    split
    · exact ⟨hone, hoff, rfl, rfl, rfl⟩
    · exact ⟨hone, hoff, rfl, rfl, rfl⟩
  have hasked : u32 (sub32 dev₁.nrAllocatedQueues 1 +
      if dev₁.useUserAllocated = true then dev₁.nrUserAllocatedCq else 0) =
      u32 (sub32 dev.nrAllocatedQueues 1) := by
    rw [hsame.2.1, hsame.2.2.2.2, if_neg (by simp), Nat.add_zero]
  have hnonpos := snvmeSetQueueCount_nonpos (u32 (sub32 dev.nrAllocatedQueues 1)) env.grant
  have hgranted : granted dev env.grant =
      (snvmeSetQueueCount (u32 (sub32 dev.nrAllocatedQueues 1)) env.grant).2 := rfl
  rw [hasked] at hok ⊢
  generalize hanswer : snvmeSetQueueCount _ env.grant = r at hok hnonpos hgranted ⊢
  by_cases hr : r.1 = 0
  · generalize hdev₂ : (if r.1 = 0 then { dev₁ with ctrlMaxIoQueues := r.2 } else dev₁) = dev₂
      at hok ⊢
    rw [if_pos hr] at hdev₂
    have hneg : Negotiated dev env.grant dev₂ := by
      rw [← hdev₂]
      exact ⟨hsame.1, hsame.2.1, hsame.2.2.1, hsame.2.2.2.1, hsame.2.2.2.2, hgranted.symm,
        by rw [hanswer]; exact hr⟩
    have hsplit : ∀ expect, splitGrant dev₂ expect r.2 = (dev₂, r.2) := fun _ => by
      rw [splitGrant, if_pos (by rw [hneg.protocol]; simp)]
    rw [hsplit, if_neg (by rw [hr]; omega)] at hok ⊢
    refine ⟨dev₂, hneg, ?_⟩
    by_cases hzero : r.2 = 0
    · -- Nothing was granted, and only the admin queue is online.
      rw [if_pos hzero]
      exact .inl rfl
    rw [if_neg hzero] at hok ⊢
    generalize hnr : (if dev₂.capKernelIoq ≠ 0 ∧ ¬ dev₂.useUserAllocated = true ∧
        dev₂.capKernelIoq < r.2 then dev₂.capKernelIoq else r.2) = nrIo at hok ⊢
    have hnrIo := capped_le hneg.protocol hnr
    rw [hneg.cap] at hnrIo
    split at hok
    · exact absurd hok enodev_ne_zero
    next hlock =>
      rw [if_neg hlock]
      split at hok
      · exact absurd hok enomem_ne_zero
      next m hmap =>
        have hm := remapBar_le hmap
        refine .inr ⟨m, hm.1, ?_, fun hcap => Nat.le_trans hm.2 (hnrIo.2 hcap), rfl⟩
        rw [hgranted]
        exact Nat.le_trans hm.2 hnrIo.1
  · -- The controller refused, and so does the setup.
    rw [if_pos (by omega)] at hok
    exact absurd hok hr

/-- Without the old protocol, a setup that succeeds leaves the kernel with at
    most as many queues as were granted, and as the cap says if there is one. -/
theorem setup_within_grant : (sNvmeSetupIoQueues maps dev env).1.onlineQueues ≤
        (sNvmeSetupIoQueues maps dev env).1.ctrlMaxIoQueues + 1 ∧
      (dev.capKernelIoq ≠ 0 →
        (sNvmeSetupIoQueues maps dev env).1.onlineQueues ≤ dev.capKernelIoq + 1) ∧
      (sNvmeSetupIoQueues maps dev env).1.legacyQids = dev.legacyQids := by
  obtain ⟨dev', hneg, heq | ⟨m, hpos, hgrant, hcap, heq⟩⟩ := setup_cases hone hoff hok
  · rw [heq, hneg.online]
    exact ⟨by omega, fun _ => by omega, hneg.legacy⟩
  · have hpassed : Passed m dev' (setupPasses maps env.singleVector env.pass m 0 m dev').1 :=
      setupPasses_bound m 0 m dev' hpos hneg.online
    have honline := hpassed.online.2
    rw [heq, hpassed.kept.granted, hneg.limit]
    refine ⟨by omega, fun hne => ?_, (hpassed.kept.legacy hneg.protocol).trans hneg.legacy⟩
    omega

end

/-- The device as the reset work hands it to the setup. -/
def NvmeDev.restarted (env : ResetEnv) : NvmeDev :=
  { dev with
    onlineQueues := 1
    queueCount := max dev.queueCount 1
    legacyQids := []
    qDepth := env.qDepth
    dbStride := env.dbStride }

theorem nvmeResetWork_setup {dev dev' : NvmeDev} {env : ResetEnv}
    (h : nvmeResetWork maps dev env = some dev') :
    (sNvmeSetupIoQueues maps (dev.restarted env) env.setup).2 = 0 ∧
      dev' = (sNvmeSetupIoQueues maps (dev.restarted env) env.setup).1 := by
  unfold nvmeResetWork at h
  split at h
  · cases h
  dsimp only at h
  split at h
  · cases h
  next hok =>
    split at h
    · exact ⟨Decidable.not_not.mp hok, (Option.some.inj h).symm⟩
    · cases h

end Geminifs.Snvme
