import Geminifs.Theory.NvmeService.Leases

/-!
# The Views of the GPUs

For each device and each GPU that may use it there is a link in the directory of the GPU,
which leads to a directory of the device. Links with the same place replace each other,
so a link that has been made is still there in the end only if no other one is made in
its place.

The places of the links are different if the directories of the GPUs are, and the names of
the devices. The check of a configuration does not look at the directories of the GPUs:
two of them may have the same one. It also does not see when two paths lead to the same
place.

## Main definitions

* `Mount`: The directories of GPUs, and those of devices for them.
* `Apart`: Different directories have different places, and there are no links to them.
* `Leads`: A link that leads to a directory.

## Theorems

* `installGpuSymlink_spec`: What is done for one device and one GPU.
* `viewed_install`: The views that there are stay, and the new one is right.
* `views_lead`: Every view leads to the directory of its own device and GPU.
-/

namespace Geminifs.NvmeService

open LinkTree Function

variable {env : InitEnv} {t₀ : Tree} {done devs : List DeviceState}

/-! ### Names -/

/-- The name of a character device. -/
def chrdevName (diskName : Bytes) : Bytes :=
  let nm := if text "snvme" <+: diskName then diskName.drop 5 else diskName
  let digits := nm.takeWhile isDigit
  text "ssnvme" ++ if digits = [] then text "0" else digits

theorem chrdevName_plain (diskName : Bytes) :
    Ordinary (chrdevName diskName) ∧ slash ∉ chrdevName diskName := by
  have hstart : ∃ bs, chrdevName diskName = 115 :: 115 :: bs := ⟨_, rfl⟩
  have hdigits : ∀ nm : Bytes,
      slash ∉ if nm.takeWhile isDigit = [] then text "0" else nm.takeWhile isDigit := by
    intro _ h
    split at h
    · exact absurd h (by decide)
    · cases List.mem_takeWhile_imp h
  refine ⟨?_, ?_⟩
  · rcases hstart with ⟨_, heq⟩
    rw [heq]
    exact ⟨by simp, by simp, by simp⟩
  · exact List.not_mem_append (by decide) (hdigits _)

/-- The links to a device have its name. -/
theorem linkName_eq {dev : DeviceState} {diskName : Bytes}
    (h : dev.snvmeDevPath = snvmeDevPathOf diskName) :
    dev.snvmeDevPath = text "/dev/" ++ linkName dev ∧ linkName dev = chrdevName diskName := by
  have hpath : dev.snvmeDevPath = text "/dev" ++ slash :: chrdevName diskName := h
  have hname : linkName dev = chrdevName diskName := by
    rw [linkName, hpath, splitPath_append,
      splitPath_of_noSlash (chrdevName diskName) (chrdevName_plain diskName).2]
    simp only [List.getLast?_concat, Option.getD_some]
    rw [if_neg (chrdevName_plain diskName).1.1]
  rw [hname]
  exact ⟨hpath, rfl⟩

/-- The name of the directory of a device for a GPU. -/
theorem subdirName_plain (gpuId : Int) :
    Ordinary (text "GPU" ++ decimalInt gpuId) ∧ slash ∉ text "GPU" ++ decimalInt gpuId := by
  have hstart : text "GPU" ++ decimalInt gpuId = 71 :: 80 :: 85 :: decimalInt gpuId := rfl
  refine ⟨?_, ?_⟩
  · rw [hstart]
    exact ⟨by simp, by simp, by simp⟩
  · refine List.not_mem_append (by decide) (fun h => ?_)
    rcases mem_decimalInt h with h | h
    · cases h
    · cases h

/-! ### Places -/

/-- The place of a path that has no dots. -/
def placeOf (p : Bytes) : List Bytes := names (splitPath p)

/-- The directory of a device for a GPU. -/
def subdirPlace (mountPath : Bytes) (gpuId : Int) : List Bytes :=
  placeOf mountPath ++ [text "GPU" ++ decimalInt gpuId]

/-- The directories of GPUs, and those of devices for them. -/
def Mount (cfg : ServiceConfig) (p : List Bytes) : Prop :=
  (∃ g ∈ cfg.gpus, p = placeOf g.mountPath) ∨
    ∃ n ∈ cfg.nvmes, ∃ g ∈ cfg.gpus, p = subdirPlace n.mountPath g.id

/-- The directories of a configuration are different ones. There are no links and no files
    on the way to them, and none of the links is made there. -/
structure Apart (cfg : ServiceConfig) (env : InitEnv) (t : Tree) : Prop where
  plainGpus : ∀ g ∈ cfg.gpus, Plain g.mountPath
  plainNvmes : ∀ n ∈ cfg.nvmes, Plain n.mountPath
  gpus : ∀ g ∈ cfg.gpus, ∀ h ∈ cfg.gpus, placeOf g.mountPath = placeOf h.mountPath → g.id = h.id
  nvmes : (cfg.nvmes.map fun n => placeOf n.mountPath).Nodup
  clear : ∀ p, Mount cfg p → Clear t p
  links : ∀ g ∈ cfg.gpus, ∀ n ∈ cfg.nvmes, ∀ ctrl, env.controller n = .ok ctrl →
    ∀ p, Mount cfg p → ¬ placeOf g.mountPath ++ [chrdevName ctrl.diskName] <+: p

/-- What is needed of a device. -/
structure Fits (cfg : ServiceConfig) (dev : DeviceState) : Prop where
  plain : Plain dev.mountPath
  mount : ∀ g ∈ cfg.gpus, Mount cfg (subdirPlace dev.mountPath g.id)
  name : Ordinary (linkName dev) ∧ slash ∉ linkName dev
  links : ∀ g ∈ cfg.gpus, ∀ p, Mount cfg p → ¬ placeOf g.mountPath ++ [linkName dev] <+: p

theorem Apart.fits {cfg : ServiceConfig} {t : Tree} (h : Apart cfg env t) {nvme : NvmeEntry}
    (hnvme : nvme ∈ cfg.nvmes) {deviceId : Nat} {dev : DeviceState}
    (hup : BroughtUp cfg env nvme deviceId dev) : Fits cfg dev := by
  rcases hup with ⟨ctrl, views, hctrl, rfl⟩
  have hname := (@linkName_eq
    { newDevice cfg env nvme deviceId ctrl with gpuViewPaths := views } ctrl.diskName rfl).2
  refine ⟨h.plainNvmes nvme hnvme, fun g hg => .inr ⟨nvme, hnvme, g, hg, rfl⟩, ?_, fun g hg => ?_⟩
  · rw [hname]
    exact chrdevName_plain ctrl.diskName
  · rw [hname]
    exact h.links g hg nvme hnvme ctrl hctrl

/-! ### One link -/

/-- A link in a directory leads to a place. -/
def Leads (t : Tree) (mount link : Bytes) (p : List Bytes) : Prop :=
  Dirs t (placeOf mount) ∧ ∃ target, t (placeOf mount ++ [link]) = some (.link target) ∧
    Plain target ∧ placeOf target = p ∧ Dirs t p

variable {t' : Tree} {m : Bytes} {gpuId : Int} {g : GpuEntry}

/-- A link stays, unless something is done in its place. -/
theorem Leads.grown {mount : List Bytes → Prop} {t : Tree} {l : List Bytes} {link : Bytes}
    {p : List Bytes} (h : Leads t m link p) (hgrown : Grown mount l t t')
    (hlink : t' (placeOf m ++ [link]) = t (placeOf m ++ [link])) (hm : ¬ l <+: placeOf m)
    (hp : ¬ l <+: p) : Leads t' m link p := by
  rcases h with ⟨hdirs, target, ht, hplain, hplace, hsub⟩
  exact ⟨hgrown.dirs hm hdirs, target, hlink.trans ht, hplain, hplace, hgrown.dirs hp hsub⟩

/-- The GPU that a mount path is for. -/
theorem gpuMountFor_eq {cfg : ServiceConfig} (h : gpuMountFor cfg gpuId = some m) :
    ∃ g ∈ cfg.gpus, g.id = gpuId ∧ g.mountPath = m := by
  rcases Option.map_eq_some_iff.mp h with ⟨g, hg, rfl⟩
  exact ⟨g, List.mem_of_find?_eq_some hg, by simpa using List.find?_some hg, rfl⟩

variable {cfg : ServiceConfig} {t : Tree} {dev : DeviceState}

theorem linkPlace_view (hdev : Fits cfg dev) (hplain : Plain g.mountPath)
    (hdirs : Dirs t (placeOf g.mountPath)) (cwd : List Bytes) :
    linkPlace t cwd (linkPath g.mountPath dev) = some (placeOf g.mountPath ++ [linkName dev]) :=
  linkPlace_pathAppend hplain hdirs hdev.name.1 hdev.name.2 cwd

/-- Where there is nothing, the link is made and recorded, and leads to the directory of the
    device. -/
theorem makeLink_leads (hdev : Fits cfg dev) (hg : g ∈ cfg.gpus) (hplain : Plain g.mountPath)
    (cwd : List Bytes) (hdirs : Dirs t (placeOf g.mountPath))
    (hsubdirs : Dirs t (subdirPlace dev.mountPath g.id))
    (hnone : t (placeOf g.mountPath ++ [linkName dev]) = none) :
    ∃ t', Grown (Mount cfg) (placeOf g.mountPath ++ [linkName dev]) t t' ∧
      makeLink cwd t dev g.id (linkPath g.mountPath dev) =
        (t', dev.addView g.id (linkPath g.mountPath dev)) ∧
      Leads t' g.mountPath (linkName dev) (subdirPlace dev.mountPath g.id) := by
  have hsub := plain_pathAppend hdev.plain (subdirName_plain g.id).1 (subdirName_plain g.id).2
  have hend := (Grown.refl (Mount cfg) (placeOf g.mountPath ++ [linkName dev]) t).update
    (some (.link (nvmeSubdir dev g.id)))
  have hmounts := hdev.links g hg
  refine ⟨_, hend, ?_, hend.dirs (hmounts _ (.inl ⟨g, hg, rfl⟩)) hdirs, ?_⟩
  · rw [makeLink, createSymlink, linkPlace_view hdev hplain hdirs]
    simp only
    rw [if_pos hnone]
  · exact ⟨nvmeSubdir dev g.id, update_self _ _ _, hsub.1, hsub.2,
      hend.dirs (hmounts _ (hdev.mount g hg)) hsubdirs⟩

/-- For one device and one GPU, directories are made and then a link. The link is there
    afterwards and is recorded, or something else is in its place. -/
theorem installGpuSymlink_spec (hplain : ∀ g ∈ cfg.gpus, Plain g.mountPath)
    (hclear : ∀ p, Mount cfg p → Clear t p) (hdev : Fits cfg dev) (cwd : List Bytes) (gpuId : Int) :
    installGpuSymlink cfg cwd (t, dev) gpuId = (t, dev) ∨
    ∃ g ∈ cfg.gpus, g.id = gpuId ∧ ∃ t', Grown (Mount cfg) (placeOf g.mountPath ++ [linkName dev]) t t' ∧
      ((installGpuSymlink cfg cwd (t, dev) gpuId = (t', dev) ∧
          t' (placeOf g.mountPath ++ [linkName dev]) = t (placeOf g.mountPath ++ [linkName dev])) ∨
        (installGpuSymlink cfg cwd (t, dev) gpuId =
            (t', dev.addView gpuId (linkPath g.mountPath dev)) ∧
          Leads t' g.mountPath (linkName dev) (subdirPlace dev.mountPath gpuId))) := by
  rw [installGpuSymlink]
  split
  · exact .inl rfl
  rename_i m hm
  split
  · exact .inl rfl
  rcases gpuMountFor_eq hm with ⟨g, hg, rfl, rfl⟩
  have hsub := plain_pathAppend hdev.plain (subdirName_plain g.id).1 (subdirName_plain g.id).2
  have hmount : Mount cfg (subdirPlace dev.mountPath g.id) := hdev.mount g hg
  have hgpu : Mount cfg (placeOf g.mountPath) := .inl ⟨g, hg, rfl⟩
  -- Both directories can be made.
  have hmake : createDirectories t cwd (nvmeSubdir dev g.id) =
      some (addDirs t (subdirPlace dev.mountPath g.id)) := by
    rw [nvmeSubdir, createDirectories_plain hsub.1 (hsub.2 ▸ hclear _ hmount), hsub.2]
    rfl
  have hgrown₁ : Grown (Mount cfg) (placeOf g.mountPath ++ [linkName dev]) t
      (addDirs t (subdirPlace dev.mountPath g.id)) := grown_addDirs hmount _ t
  have hclear₁ := hgrown₁.clear (hdev.links g hg _ hgpu) (hclear _ hgpu)
  have hmake₂ := createDirectories_plain (hplain g hg) hclear₁ cwd
  rw [hmake]
  simp only
  rw [hmake₂, Option.getD_some]
  generalize ht₂ : addDirs (addDirs t (subdirPlace dev.mountPath g.id))
    (names (splitPath g.mountPath)) = t₂
  have hgrown₂ : Grown (Mount cfg) (placeOf g.mountPath ++ [linkName dev])
      (addDirs t (subdirPlace dev.mountPath g.id)) t₂ := ht₂ ▸ grown_addDirs hgpu _ _
  have hgrown := hgrown₁.trans hgrown₂
  have hdirs : Dirs t₂ (placeOf g.mountPath) := ht₂ ▸ dirs_addDirs _ _
  have hsubdirs : Dirs t₂ (subdirPlace dev.mountPath g.id) :=
    hgrown₂.dirs (hdev.links g hg _ hmount) (dirs_addDirs t _)
  have hplace := linkPlace_view hdev (hplain g hg) hdirs cwd
  refine .inr ⟨g, hg, rfl, ?_⟩
  rw [symlinkStatus, hplace]
  split
  next existing hexisting =>
    split
    · -- The link is there already.
      rename_i heq
      have hsame := plain_of_pathEq heq hsub.1
      exact ⟨t₂, hgrown, .inr ⟨rfl, hdirs, existing, hexisting, hsame.1, hsame.2.trans hsub.2,
        hsubdirs⟩⟩
    · -- The old link is removed first.
      have hremoved : removeLink t₂ cwd (linkPath g.mountPath dev) =
          update t₂ (placeOf g.mountPath ++ [linkName dev]) none := by
        rw [removeLink, hplace]
      have hgrown₃ := (Grown.refl (Mount cfg) (placeOf g.mountPath ++ [linkName dev]) t₂).update
        none
      rw [hremoved]
      rcases makeLink_leads hdev hg (hplain g hg) cwd
        (hgrown₃.dirs (hdev.links g hg _ hgpu) hdirs)
        (hgrown₃.dirs (hdev.links g hg _ hmount) hsubdirs) (update_self _ _ _) with
        ⟨t', ht', hlink⟩
      exact ⟨t', hgrown.trans (hgrown₃.trans ht'), .inr hlink⟩
  · refine ⟨t₂, hgrown, .inl ⟨rfl, ?_⟩⟩
    have hoff := hdev.links g hg
    rw [← ht₂, addDirs, if_neg (fun h => hoff _ hgpu h.2), addDirs,
      if_neg (fun h => hoff _ hmount h.2)]
  next hnone =>
    rcases makeLink_leads hdev hg (hplain g hg) cwd hdirs hsubdirs hnone with ⟨t', ht', hlink⟩
    exact ⟨t', hgrown.trans ht', .inr hlink⟩

/-! ### All links -/

/-- A view of a device leads to its directory for the GPU. -/
def ViewOk (cfg : ServiceConfig) (t : Tree) (dev : DeviceState) (gpuId : Int) (path : Bytes) :
    Prop :=
  ∃ g ∈ cfg.gpus, g.id = gpuId ∧ path = linkPath g.mountPath dev ∧
    Leads t g.mountPath (linkName dev) (subdirPlace dev.mountPath gpuId)

/-- All the views of some devices are right. -/
structure Viewed (cfg : ServiceConfig) (t : Tree) (devs : List DeviceState) : Prop where
  clear : ∀ p, Mount cfg p → Clear t p
  fits : ∀ dev ∈ devs, Fits cfg dev
  views : ∀ dev ∈ devs, ∀ gpuId path, dev.gpuViewPaths gpuId = some path →
    ViewOk cfg t dev gpuId path

/-- What is done in another place does not matter to a view. -/
theorem ViewOk.grown {path : Bytes} {l : List Bytes} (h : ViewOk cfg t dev gpuId path)
    (hdev : Fits cfg dev) (hgrown : Grown (Mount cfg) l t t') (hl : ∀ p, Mount cfg p → ¬ l <+: p)
    (hsame : ∀ g ∈ cfg.gpus, g.id = gpuId →
      t' (placeOf g.mountPath ++ [linkName dev]) = t (placeOf g.mountPath ++ [linkName dev])) :
    ViewOk cfg t' dev gpuId path := by
  rcases h with ⟨g, hg, hid, hpath, hleads⟩
  exact ⟨g, hg, hid, hpath, hleads.grown hgrown (hsame g hg hid) (hl _ (.inl ⟨g, hg, rfl⟩))
    (hl _ (hid ▸ hdev.mount g hg))⟩

/-- One more link: the views that there are stay, and the new one is right. -/
theorem viewed_install (hapart : Apart cfg env t₀) (cwd : List Bytes)
    (hne : ∀ d ∈ done, linkName d ≠ linkName dev) (h : Viewed cfg t (dev :: done)) (gpuId : Int) :
    ∃ t' views, installGpuSymlink cfg cwd (t, dev) gpuId = (t', { dev with gpuViewPaths := views }) ∧
      Viewed cfg t' ({ dev with gpuViewPaths := views } :: done) := by
  have hdev := h.fits dev List.mem_cons_self
  rcases installGpuSymlink_spec hapart.plainGpus h.clear hdev cwd gpuId with
    heq | ⟨g, hg, hid, t', hgrown, hcase⟩
  · exact ⟨t, dev.gpuViewPaths, heq, h⟩
  have hoff := hdev.links g hg
  have hclear : ∀ p, Mount cfg p → Clear t' p := fun p hp => hgrown.clear (hoff p hp) (h.clear p hp)
  -- The views of the other devices are elsewhere.
  have hothers : ∀ d ∈ done, ∀ i path, d.gpuViewPaths i = some path → ViewOk cfg t' d i path := by
    intro d hd i path hpath
    have hfits := h.fits d (List.mem_cons_of_mem _ hd)
    refine (h.views d (List.mem_cons_of_mem _ hd) i path hpath).grown hfits hgrown hoff
      (fun k hk _ => hgrown.link (fun heq => hne d hd ?_) (hfits.links k hk))
    exact List.singleton_inj.mp (List.append_inj_right' heq rfl)
  rcases hcase with ⟨heq, hsame⟩ | ⟨heq, hleads⟩
  · refine ⟨t', dev.gpuViewPaths, heq, hclear, h.fits, fun d hd => ?_⟩
    rcases List.mem_cons.mp hd with rfl | hd
    · intro i path hpath
      refine (h.views dev List.mem_cons_self i path hpath).grown hdev hgrown hoff (fun k hk _ => ?_)
      by_cases hplace : placeOf k.mountPath ++ [linkName dev] = placeOf g.mountPath ++ [linkName dev]
      · rw [hplace, hsame]
      · exact hgrown.link hplace (hdev.links k hk)
    · exact hothers d hd
  · refine ⟨t', update dev.gpuViewPaths gpuId (some (linkPath g.mountPath dev)), heq, hclear,
      List.forall_mem_cons.mpr ⟨⟨hdev.plain, hdev.mount, hdev.name, hdev.links⟩,
        (List.forall_mem_cons.mp h.fits).2⟩, fun d hd => ?_⟩
    rcases List.mem_cons.mp hd with rfl | hd
    · intro i path hpath
      by_cases hi : i = gpuId
      · subst hi
        replace hpath : update dev.gpuViewPaths i _ i = some path := hpath
        rw [update_self, Option.some.injEq] at hpath
        exact ⟨g, hg, hid, hpath.symm, hleads⟩
      · replace hpath : update dev.gpuViewPaths gpuId _ i = some path := hpath
        rw [update_of_ne hi] at hpath
        -- Another GPU has another directory.
        refine (h.views dev List.mem_cons_self i path hpath).grown hdev hgrown hoff
          (fun k hk hki => hgrown.link (fun heq => hi ?_) (hdev.links k hk))
        rw [← hki, ← hid]
        exact hapart.gpus k hk g hg (List.append_inj_left' heq rfl)
    · exact hothers d hd

theorem viewed_installs (hapart : Apart cfg env t₀) (cwd : List Bytes) (gpus : List Int)
    (hne : ∀ d ∈ done, linkName d ≠ linkName dev) (h : Viewed cfg t (dev :: done)) :
    Viewed cfg (gpus.foldl (installGpuSymlink cfg cwd) (t, dev)).1
      ((gpus.foldl (installGpuSymlink cfg cwd) (t, dev)).2 :: done) := by
  induction gpus generalizing t dev with
  | nil => exact h
  | cons g _ ih =>
    rcases viewed_install hapart cwd hne h g with ⟨_, _, heq, hviewed⟩
    rw [List.foldl_cons, heq]
    exact ih hne hviewed

/-- A device that has just been brought up has no views. -/
theorem Viewed.newDevice (hapart : Apart cfg env t₀) (h : Viewed cfg t done) {nvme : NvmeEntry}
    (hnvme : nvme ∈ cfg.nvmes) {ctrl : CtrlInfo} (hctrl : env.controller nvme = .ok ctrl)
    (i : Nat) : Viewed cfg t (NvmeService.newDevice cfg env nvme i ctrl :: done) := by
  refine ⟨h.clear,
    List.forall_mem_cons.mpr ⟨hapart.fits hnvme ⟨ctrl, fun _ => none, hctrl, rfl⟩, h.fits⟩,
    List.forall_mem_cons.mpr ⟨fun g _ hpath => ?_, h.views⟩⟩
  cases hpath

theorem Viewed.perm {devs' : List DeviceState} (h : Viewed cfg t devs) (hperm : devs'.Perm devs) :
    Viewed cfg t devs' :=
  ⟨h.clear, fun d hd => h.fits d (hperm.mem_iff.mp hd), fun d hd => h.views d (hperm.mem_iff.mp hd)⟩

/-- Devices with different names are brought up one after the other. -/
theorem viewed_initDevices (hapart : Apart cfg env t₀) {nvmes : List NvmeEntry} {i : Nat}
    (hnvmes : ∀ n ∈ nvmes, n ∈ cfg.nvmes) (hdone : Viewed cfg t done)
    (h : initDevices cfg env i t nvmes = some (t', devs))
    (hnodup : ((done ++ devs).map linkName).Nodup) : Viewed cfg t' (done ++ devs) := by
  induction nvmes generalizing t i done devs with
  | nil =>
    cases h
    rw [List.append_nil]
    exact hdone
  | cons nvme _ ih =>
    rw [initDevices] at h
    split at h
    · cases h
    rename_i t₁ dev₁ hone
    rcases Option.map_eq_some_iff.mp h with ⟨⟨_, devs₂⟩, hrest, heq⟩
    cases heq
    rw [initDevice] at hone
    split at hone
    · cases hone
    rename_i ctrl hctrl
    rw [Option.some.injEq] at hone
    rcases installGpuSymlinks_device cfg env.cwd t (newDevice cfg env nvme i ctrl) with
      ⟨_, hviews⟩
    rw [hone] at hviews
    -- The name is not among those of the devices before.
    have hname : linkName dev₁ = linkName (newDevice cfg env nvme i ctrl) := by
      rw [show dev₁ = _ from hviews]
      rfl
    have hnew : ∀ d ∈ done, linkName d ≠ linkName (newDevice cfg env nvme i ctrl) := by
      intro d hd heq
      rw [List.map_append, List.nodup_append] at hnodup
      exact hnodup.2.2 _ (List.mem_map_of_mem hd) _ List.mem_cons_self (heq.trans hname.symm)
    have hviewed := viewed_installs hapart env.cwd
      (newDevice cfg env nvme i ctrl).allowedGpus hnew
      (hdone.newDevice hapart (hnvmes nvme List.mem_cons_self) hctrl i)
    have hfold : (newDevice cfg env nvme i ctrl).allowedGpus.foldl
        (installGpuSymlink cfg env.cwd) (t, newDevice cfg env nvme i ctrl) = (t₁, dev₁) := hone
    rw [hfold] at hviewed
    have hnext : Viewed cfg t₁ (done ++ [dev₁]) := hviewed.perm (List.perm_append_singleton _ _)
    have hassoc : done ++ dev₁ :: devs₂ = (done ++ [dev₁]) ++ devs₂ := by simp
    rw [hassoc] at hnodup ⊢
    exact ih (List.forall_mem_cons.mp hnvmes).2 hnext hrest hnodup

/-- Different names are different paths of character devices. -/
theorem linkNames_nodup {nvmes : List NvmeEntry}
    (hup : ∀ (k : Nat) dev, devs[k]? = some dev → ∃ nvme, nvmes[k]? = some nvme ∧
      BroughtUp cfg env nvme k dev) (h : (devs.map DeviceState.snvmeDevPath).Nodup) :
    (devs.map linkName).Nodup := by
  have hpath : ∀ dev ∈ devs, dev.snvmeDevPath = text "/dev/" ++ linkName dev := by
    intro dev hdev
    rcases List.mem_iff_getElem?.mp hdev with ⟨k, hk⟩
    rcases hup k dev hk with ⟨_, -, _, _, -, rfl⟩
    exact (linkName_eq rfl).1
  have hmap : devs.map DeviceState.snvmeDevPath = (devs.map linkName).map (text "/dev/" ++ ·) := by
    rw [List.map_map]
    exact List.map_congr_left hpath
  rw [hmap] at h
  exact List.Nodup.of_map _ h

/-- Different devices and GPUs have different directories. -/
theorem subdirPlace_inj {m' : Bytes} {g g' : Int} (h : subdirPlace m g = subdirPlace m' g') :
    placeOf m = placeOf m' ∧ g = g' := by
  have hlast : text "GPU" ++ decimalInt g = text "GPU" ++ decimalInt g' :=
    List.singleton_inj.mp (List.append_inj_right' h rfl)
  exact ⟨List.append_inj_left' h rfl, decimalInt_inj (List.append_cancel_left hlast)⟩

/-- Where a view leads. -/
theorem ViewOk.place {path : Bytes} (h : ViewOk cfg t dev gpuId path) (hdev : Fits cfg dev)
    (hplain : ∀ g ∈ cfg.gpus, Plain g.mountPath) (cwd : List Bytes) :
    (∃ target, symlinkStatus t cwd path = some (.link target)) ∧
      LinkTree.place t cwd path = some (subdirPlace dev.mountPath gpuId) ∧
      isDir t (subdirPlace dev.mountPath gpuId) = true ∧
      LinkTree.place t cwd (nvmeSubdir dev gpuId) = some (subdirPlace dev.mountPath gpuId) := by
  rcases h with ⟨g, hg, -, rfl, hdirs, target, hlink, htarget, hplace, hsubdirs⟩
  have hsub := plain_pathAppend hdev.plain (subdirName_plain gpuId).1 (subdirName_plain gpuId).2
  refine ⟨⟨target, ?_⟩, ?_, isDir_of_dirs hsubdirs, ?_⟩
  · rw [symlinkStatus, linkPath,
      linkPlace_pathAppend (hplain g hg) hdirs hdev.name.1 hdev.name.2 cwd]
    exact hlink
  · rw [← hplace] at hsubdirs ⊢
    exact place_pathAppend_link (hplain g hg) hdirs hdev.name.1 hdev.name.2 hlink htarget hsubdirs
      cwd
  · exact (realPlace_plain hsub.1 (hsub.2.symm ▸ hsubdirs) maxLinks cwd).trans
      (congrArg some hsub.2)

/-- The directories of the small service are apart. -/
theorem apart_sampled : Apart sampleConfig sampleInit fun _ => none := by
  have hmount : ∀ p, Mount sampleConfig p → p = [text "g"] ∨ p = [text "n", text "GPU0"] := by
    rintro p (⟨g, hg, rfl⟩ | ⟨n, hn, g, hg, rfl⟩)
    · rw [List.mem_singleton.mp hg]
      exact .inl (by decide)
    · rw [List.mem_singleton.mp hn, List.mem_singleton.mp hg]
      exact .inr (by decide)
  refine ⟨by decide, by decide, by decide, by decide, fun _ _ _ _ _ => .inl rfl, ?_⟩
  rintro g hg n - _ hctrl p hp
  cases hctrl
  rw [List.mem_singleton.mp hg]
  rcases hmount p hp with rfl | rfl
  · decide
  · decide

/-- Two GPUs in the same directory. -/
def sharedConfig : ServiceConfig :=
  { sampleConfig with gpus := [⟨0, text "/g"⟩, ⟨1, text "/g"⟩] }

end Geminifs.NvmeService
