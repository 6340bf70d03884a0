import Geminifs.Core.NvmeService.State

/-!
# How the Service is Set Up

What the check of a configuration says about it, and what the devices of the service have
from the configuration and from their controllers. Only the links that lead to a device
depend on what there was before.

## Main definitions

* `Valid`: What is checked of a configuration.

## Theorems

* `validateConfig_ok_iff`: A configuration is accepted if it is valid.
* `initDevices_spec`: The devices, up to their links.
-/

namespace Geminifs.NvmeService

open LinkTree

/-! ### The configuration -/

/-- What is checked of a configuration. -/
structure Valid (cfg : ServiceConfig) : Prop where
  endpoint : cfg.endpoint ≠ []
  gpus : cfg.gpus ≠ []
  nvmes : cfg.nvmes ≠ []
  gpuIds : (cfg.gpus.map GpuEntry.id).Nodup
  gpu : ∀ g ∈ cfg.gpus, 0 ≤ g.id ∧ g.mountPath ≠ []
  pciAddrs : (cfg.nvmes.map NvmeEntry.pciAddr).Nodup
  mountPaths : (cfg.nvmes.map NvmeEntry.mountPath).Nodup
  nvme : ∀ n ∈ cfg.nvmes, n.pciAddr ≠ [] ∧ n.mountPath ≠ []
  allowed : ∀ n ∈ cfg.nvmes, n.allowedGpus.Nodup ∧ ∀ g ∈ n.allowedGpus, g ∈ cfg.gpus.map GpuEntry.id
  pool : 0 < cfg.queuePool.defaultPerClient ∧
    cfg.queuePool.defaultPerClient ≤ cfg.queuePool.maxPerClient
  lease : 0 < cfg.lease.heartbeatIntervalSec ∧ cfg.lease.heartbeatIntervalSec < cfg.lease.timeoutSec

/-- A check that is passed, and what follows it. -/
theorem guard_ok_iff {α : Type _} {c : Prop} [Decidable c] {e : Bytes} {next : Except Bytes α}
    {a : α} : (if c then .error e else next) = .ok a ↔ ¬ c ∧ next = .ok a := by
  split <;> simp [*]

/-- The ids that are collected are those of the list, in reverse. -/
theorem checkGpus_ok_iff {ids : List Int} (hids : ids.Nodup) (gs : List GpuEntry) (ids' : List Int) :
    checkGpus ids gs = .ok ids' ↔
      ids' = (gs.map GpuEntry.id).reverse ++ ids ∧ (gs.map GpuEntry.id ++ ids).Nodup ∧
        ∀ g ∈ gs, 0 ≤ g.id ∧ g.mountPath ≠ [] := by
  induction gs generalizing ids with
  | nil => simp [checkGpus, hids, eq_comm]
  | cons g gs ih =>
    rw [checkGpus, guard_ok_iff, guard_ok_iff, guard_ok_iff, List.map_cons, List.cons_append,
      List.nodup_cons, List.forall_mem_cons, Int.not_lt]
    by_cases hmem : g.id ∈ ids
    · simp [hmem]
    · -- An id that was met is moved from the list to those that were met before.
      rw [ih (List.nodup_cons.mpr ⟨hmem, hids⟩), List.nodup_middle, List.nodup_cons,
        List.reverse_cons, List.append_assoc, List.singleton_append]
      tauto

theorem checkAllowed_ok_iff (gpuIds : List Int) (pciAddr : Bytes) {seen : List Int}
    (hseen : seen.Nodup) (gids : List Int) :
    checkAllowed gpuIds pciAddr seen gids = .ok () ↔
      (gids ++ seen).Nodup ∧ ∀ g ∈ gids, g ∈ gpuIds := by
  induction gids generalizing seen with
  | nil => simp [checkAllowed, hseen]
  | cons g gids ih =>
    rw [checkAllowed, guard_ok_iff, guard_ok_iff, List.cons_append, List.nodup_cons,
      List.forall_mem_cons, not_not]
    by_cases hmem : g ∈ seen
    · simp [hmem]
    · rw [ih (List.nodup_cons.mpr ⟨hmem, hseen⟩), List.nodup_middle, List.nodup_cons]
      tauto

theorem checkNvmes_ok_iff (gpuIds : List Int) {pcis mounts : List Bytes} (hpcis : pcis.Nodup)
    (hmounts : mounts.Nodup) (ns : List NvmeEntry) :
    checkNvmes gpuIds pcis mounts ns = .ok () ↔ (ns.map NvmeEntry.pciAddr ++ pcis).Nodup ∧
      (ns.map NvmeEntry.mountPath ++ mounts).Nodup ∧
      (∀ n ∈ ns, n.pciAddr ≠ [] ∧ n.mountPath ≠ []) ∧
      ∀ n ∈ ns, n.allowedGpus.Nodup ∧ ∀ g ∈ n.allowedGpus, g ∈ gpuIds := by
  induction ns generalizing pcis mounts with
  | nil => simp [checkNvmes, hpcis, hmounts]
  | cons n ns ih =>
    have hallowed := checkAllowed_ok_iff gpuIds n.pciAddr List.nodup_nil n.allowedGpus
    rw [List.append_nil] at hallowed
    rw [checkNvmes, guard_ok_iff, guard_ok_iff, guard_ok_iff, guard_ok_iff, List.map_cons,
      List.map_cons, List.cons_append, List.cons_append, List.nodup_cons, List.nodup_cons,
      List.forall_mem_cons, List.forall_mem_cons, ← hallowed]
    by_cases hmem : n.pciAddr ∈ pcis ∨ n.mountPath ∈ mounts
    · rcases hmem with hmem | hmem <;> simp [hmem]
    · rw [not_or] at hmem
      cases checkAllowed gpuIds n.pciAddr [] n.allowedGpus with
      | error => simp
      | ok =>
        simp only
        rw [ih (List.nodup_cons.mpr ⟨hmem.1, hpcis⟩) (List.nodup_cons.mpr ⟨hmem.2, hmounts⟩),
          List.nodup_middle, List.nodup_middle, List.nodup_cons, List.nodup_cons]
        tauto

theorem checkPool_ok_iff (q : QueuePoolConfig) :
    checkPool q = .ok () ↔ 0 < q.defaultPerClient ∧ q.defaultPerClient ≤ q.maxPerClient := by
  rw [checkPool, guard_ok_iff, and_iff_left rfl]
  omega

theorem checkLease_ok_iff (l : LeaseConfig) :
    checkLease l = .ok () ↔ 0 < l.heartbeatIntervalSec ∧ l.heartbeatIntervalSec < l.timeoutSec := by
  rw [checkLease, guard_ok_iff, and_iff_left rfl]
  omega

/-- The checks of the pool and of the lease accept their own defaults. -/
theorem defaults_ok : checkPool {} = .ok () ∧ checkLease {} = .ok () := ⟨rfl, rfl⟩

variable (cfg : ServiceConfig) (dev : DeviceState) (gpuId : Int) (cwd : List Bytes)

theorem validateConfig_ok_iff : validateConfig cfg = .ok () ↔ Valid cfg := by
  have hgpus := checkGpus_ok_iff List.nodup_nil cfg.gpus
  have hdevs := checkNvmes_ok_iff (cfg.gpus.map GpuEntry.id).reverse List.nodup_nil List.nodup_nil
    cfg.nvmes
  simp only [List.append_nil, List.mem_reverse] at hgpus hdevs
  rw [validateConfig, guard_ok_iff, guard_ok_iff, guard_ok_iff]
  constructor
  · rintro ⟨hendpoint, hsome, hnvmes, h⟩
    split at h
    · cases h
    next ids hids =>
      rcases (hgpus ids).mp hids with ⟨rfl, hnodup, hgpu⟩
      split at h
      · cases h
      next hok =>
        rcases hdevs.mp hok with ⟨hpcis, hmounts, hnvme, hallowed⟩
        split at h
        · cases h
        next hpool =>
          exact ⟨hendpoint, hsome, hnvmes, hnodup, hgpu, hpcis, hmounts, hnvme, hallowed,
            (checkPool_ok_iff _).mp hpool, (checkLease_ok_iff _).mp h⟩
  · intro h
    refine ⟨h.endpoint, h.gpus, h.nvmes, ?_⟩
    simp only [(hgpus _).mpr ⟨rfl, h.gpuIds, h.gpu⟩, (checkPool_ok_iff _).mpr h.pool,
      hdevs.mpr ⟨h.pciAddrs, h.mountPaths, h.nvme, h.allowed⟩, (checkLease_ok_iff _).mpr h.lease]

/-! ### The devices -/

theorem addView_eq (path : Bytes) :
    ∃ views, dev.addView gpuId path = { dev with gpuViewPaths := views } := ⟨_, rfl⟩

theorem makeLink_device (t : Tree) (dev : DeviceState) (gpuId : Int) (path : Bytes) : ∃ views,
      (makeLink cwd t dev gpuId path).2 = { dev with gpuViewPaths := views } := by
  rw [makeLink]
  split
  · exact ⟨dev.gpuViewPaths, rfl⟩
  · exact addView_eq dev gpuId path

/-- Only the views of a device change. -/
theorem installGpuSymlink_device (s : Tree × DeviceState) (gpuId : Int) : ∃ views,
      (installGpuSymlink cfg cwd s gpuId).2 = { s.2 with gpuViewPaths := views } := by
  rw [installGpuSymlink]
  iterate 3
    split
    · exact ⟨s.2.gpuViewPaths, rfl⟩
  simp only
  split
  · split
    · exact addView_eq _ _ _
    · exact makeLink_device _ _ _ _ _
  · exact ⟨s.2.gpuViewPaths, rfl⟩
  · exact makeLink_device _ _ _ _ _

theorem installGpuSymlinks_device (t : Tree) (dev : DeviceState) : ∃ views,
      (installGpuSymlinks cfg cwd t dev).2 = { dev with gpuViewPaths := views } := by
  have hfold : ∀ (gpus : List Int) (s : Tree × DeviceState), ∃ views,
      (gpus.foldl (installGpuSymlink cfg cwd) s).2 = { s.2 with gpuViewPaths := views } := by
    intro gpus
    induction gpus with
    | nil => exact fun s => ⟨s.2.gpuViewPaths, rfl⟩
    | cons g _ ih =>
      intro s
      rcases installGpuSymlink_device cfg cwd s g with ⟨_, hone⟩
      rcases ih (installGpuSymlink cfg cwd s g) with ⟨views, hrest⟩
      exact ⟨views, by rw [List.foldl_cons, hrest, hone]⟩
  exact hfold dev.allowedGpus (t, dev)

/-- A device has what is said in the configuration and by its controller. -/
def BroughtUp (cfg : ServiceConfig) (env : InitEnv) (nvme : NvmeEntry) (deviceId : Nat)
    (dev : DeviceState) : Prop :=
  ∃ ctrl views, env.controller nvme = .ok ctrl ∧
    dev = { newDevice cfg env nvme deviceId ctrl with gpuViewPaths := views }

/-- A GPU that may use a device is on its list. -/
theorem BroughtUp.allowed {cfg : ServiceConfig} {env : InitEnv} {nvme : NvmeEntry} {deviceId : Nat}
    {dev : DeviceState} (h : BroughtUp cfg env nvme deviceId dev) (g : Int) :
    g ∈ dev.allowedGpus ↔ g ∈ allowList cfg nvme := by
  rcases h with ⟨_, _, -, rfl⟩
  exact ((env.iteration.perm _).mem_iff).trans List.mem_dedup

/-- There is a device for each entry. -/
theorem initDevices_spec {cfg : ServiceConfig} {env : InitEnv} {i : Nat} {t t' : Tree}
    {nvmes : List NvmeEntry} {devs : List DeviceState}
    (h : initDevices cfg env i t nvmes = some (t', devs)) :
    ∀ k dev, devs[k]? = some dev → ∃ nvme, nvmes[k]? = some nvme ∧
      BroughtUp cfg env nvme (i + k) dev := by
  induction nvmes generalizing i t devs with
  | nil =>
    cases h
    intro k dev hk
    cases hk
  | cons nvme _ ih =>
    rw [initDevices] at h
    split at h
    · cases h
    rename_i t₁ dev₁ hone
    rcases Option.map_eq_some_iff.mp h with ⟨⟨_, _⟩, hrest, heq⟩
    cases heq
    intro k dev hk
    cases k with
    | zero =>
      rw [List.getElem?_cons_zero, Option.some.injEq] at hk
      rw [initDevice] at hone
      split at hone
      · cases hone
      rename_i ctrl hctrl
      rcases installGpuSymlinks_device cfg env.cwd t (newDevice cfg env nvme i ctrl) with
        ⟨views, hviews⟩
      rw [Option.some.injEq] at hone
      rw [hone] at hviews
      exact ⟨nvme, rfl, ctrl, views, hctrl, hk.symm.trans hviews⟩
    | succ k =>
      rcases ih hrest k dev hk with ⟨n, hn, hup⟩
      have hindex : i + 1 + k = i + (k + 1) := by omega
      exact ⟨n, hn, hindex ▸ hup⟩

end Geminifs.NvmeService
