import Geminifs.Theory.Files.GpuPool
import Geminifs.Theory.Files.GpuRollback
import Geminifs.Theory.Files.Handles

/-!
# Handles of GPU Files

The NVMe files of a GPU file are opened once, when it is put in the pool. Their handles
are kept by controller and id, and are never given up: not even by deleting the file,
which looks for its handle under another name than it was noted under. But the id is
free again, and the next file that gets it is not opened, since there is a handle.

So the handles that an open file is served with are those of its own NVMe files as long
as no new file gets an id for which there is a handle, and no file is deleted while it
is open (`spans_current`).

What is kept along the way: the handle of each file that is there still is a current
one, each GPU file has NVMe files that it shares with no other, and the span of an open
file is what its mapping leads to now (`Tracked`).

## Main definitions

* `Current`: A handle that was opened from the file which has an id now.
* `Matched`: GPU files have NVMe files of their own.
* `Sparing`: A call that spares handles.
* `Tracked`: The invariant.

## Theorems

* `deviceFileOpenManagedById_holds`: A file that is opened has a current handle.
* `tracked_step`: A call that spares handles keeps the invariant.
* `spans_current`: The spans of open files consist of current handles.
-/

namespace Geminifs.Gemini

open SlotLog Runs

/-! ### One controller -/

variable {r : Option Nat} {ctrl : Controller}

namespace ManagedController

open FileManager

variable {c c' : ManagedController} {id : Nat}

/-- The `NVMe_File` at an address has the header of the file that has the id now, and is
    open on that file. -/
def Current (c : ManagedController) (id fd : Nat) : Prop :=
  ∃ d, c.fm.records id = some d ∧ Denotes c d.name fd

/-- The same for a file that is named by its id, with addresses that are in use. -/
def Holds (c : ManagedController) (id fd : Nat) : Prop :=
  ∃ a f hdr, fd < c.nextAddr ∧ a < c.nextAddr ∧ c.gpu fd = some (.nvmeFile a) ∧
    c.gpu a = some (.header hdr f.serial) ∧
    c.files (c.controller.below (decimal id)) = some f ∧ f.hdr = some hdr

variable {fd : Nat}

theorem Holds.current (hc : Numbered c) (hid : (c.fm.records id).isSome) (h : Holds c id fd) :
    Current c id fd := by
  rcases h with ⟨a, f, hdr, -, -, hfd, ha, hf, hhdr⟩
  rcases Option.isSome_iff_exists.mp hid with ⟨d, hd⟩
  refine ⟨d, hd, a, c.controller.below (decimal id), f, hdr, hfd, ha, ?_, hf, hhdr⟩
  rw [hc.named id d hd]
  exact c.controller.place_joinPath (Controller.plain_decimal id)

theorem Holds.spares {S : Nat → Prop} (h : Holds c id fd) (hspares : Spares c c' S) (hid : S id) :
    Holds c' id fd := by
  rcases h with ⟨a, f, hdr, hfd, ha, hgpu, hcopy, hf, hhdr⟩
  refine ⟨a, f, hdr, ?_, ?_, ?_, ?_, ?_, hhdr⟩
  · rwa [hspares.nextAddr]
  · rwa [hspares.nextAddr]
  · rwa [hspares.gpu]
  · rwa [hspares.gpu]
  · rw [hspares.controller, hspares.files id hid, hf]

theorem Holds.keeps (h : Holds c id fd) (hkeeps : Keeps c c') : Holds c' id fd := by
  rcases h with ⟨a, f, hdr, hfd, ha, hgpu, hcopy, hf, hhdr⟩
  have hle := hkeeps.nextAddr
  refine ⟨a, f, hdr, by omega, by omega, ?_, ?_, ?_, hhdr⟩
  · rw [hkeeps.gpu fd hfd, hgpu]
  · rw [hkeeps.gpu a ha, hcopy]
  · rw [hkeeps.controller, hkeeps.files, hf]

theorem Holds.attach (h : Holds c id fd) (hostFd : HostFd) (hdrSize : Nat) (filename : Bytes) :
    Holds (c.attach hostFd hdrSize filename) id fd := by
  rcases h with ⟨a, f, hdr, hfd, ha, hgpu, hcopy, hf, hhdr⟩
  refine ⟨a, f, hdr, Nat.lt_add_right 2 hfd, Nat.lt_add_right 2 ha, ?_, ?_, hf, hhdr⟩
  · rw [attach_gpu_old hfd, hgpu]
  · rw [attach_gpu_old ha, hcopy]

/-- The path of a file, from a mount point that has an absolute one. -/
theorem joinPath_absolute (h : ctrl.devMountPath.head? = some slash)
    {filename : Bytes} (hplain : Controller.Plain filename) :
    (ctrl.joinPath filename).head? = some slash ∧
      ctrl.place (ctrl.joinPath (ctrl.joinPath filename)) = some (ctrl.below filename) := by
  have hrelative : filename.head? ≠ some slash := fun hhead =>
    hplain.slashFree (List.mem_of_mem_head? hhead)
  have hpath : ctrl.joinPath filename = ctrl.buildFilePath filename := if_neg hrelative
  have hhead : (ctrl.buildFilePath filename).head? = some slash := by
    rcases List.head?_eq_some_iff.mp h with ⟨_, hrest⟩
    rw [Controller.buildFilePath, hrest]
    split <;> rfl
  have hjoin : ctrl.joinPath (ctrl.buildFilePath filename) = ctrl.buildFilePath filename :=
    if_pos hhead
  rw [hpath, hjoin]
  exact ⟨hhead, ctrl.place_buildFilePath hplain⟩

/-- A file that is opened has a current handle. The other handles are as before. -/
theorem deviceFileOpenManagedById_holds (hc : Numbered c) (hid : (c.fm.records id).isSome)
    {env : OpenEnv} (h : c.deviceFileOpenManagedById id env = some (c', r)) :
    Numbered c' ∧ c'.fm.records = c.fm.records ∧ (∀ id' fd, Holds c id' fd → Holds c' id' fd) ∧
      ∀ fd, r = some fd → Holds c' id fd := by
  rcases Option.isSome_iff_exists.mp hid with ⟨d, hd⟩
  have hlookup : c.fm.files.lookup id = some d := hd
  have hname := hc.named id d hd
  rcases joinPath_absolute hc.mounted (Controller.plain_decimal id) with ⟨habsolute, hplace⟩
  rw [deviceFileOpenManagedById, hlookup, Option.map_some, hname] at h
  have hkept : ∀ {c₁}, Keeps c c₁ → Numbered c₁ := by
    intro c₁ hkeeps
    refine ⟨hkeeps.sound hc.sound, ?_, ?_, ?_⟩
    · rw [hkeeps.records]
      exact hc.named
    · rw [hkeeps.controller]
      exact hc.mounted
    · rw [hkeeps.deviceFiles]
      exact hc.handles
  cases deviceFileOpenManaged_opened h with
  | failed _ hkeeps =>
    exact ⟨hkept hkeeps, hkeeps.records, fun _ _ hold => hold.keeps hkeeps, nofun⟩
  | opened c₁ hostFd p f hkeeps hp hf hhdr hserial =>
    have hc₁ := hkept hkeeps
    have hbelow : c.controller.below (decimal id) = p := Option.some.inj (hplace.symm.trans hp)
    refine ⟨⟨hc₁.sound, hc₁.named, hc₁.mounted, List.forall_mem_append.mpr
      ⟨hc₁.handles, List.forall_mem_singleton.mpr habsolute⟩⟩, hkeeps.records,
      fun _ _ hold => (hold.keeps hkeeps).attach _ _ _, fun _ hfd => ?_⟩
    · cases hfd
      refine ⟨c₁.nextAddr, f, hostFd.hdr, Nat.lt_succ_self _, Nat.lt_add_of_pos_right (by omega),
        attach_gpu_nvmeFile .., ?_, ?_, hhdr⟩
      · rw [← hserial]
        exact attach_gpu_header ..
      · show c₁.files (c₁.controller.below (decimal id)) = some f
        rw [hkeeps.controller, hkeeps.files, hbelow, hf]

end ManagedController

variable {mapping : CompactNVMeMapping} {tensorShape : List Nat}

namespace GPUFileManager

open ManagedController

variable {m m' : GPUFileManager} {id : Nat} {news : Nat → List Nat} {fds : List Nat}
  {files : List (Nat × GPUFileDesc)} {is : List (Fin 4)} {c' : ManagedController}

/-! ### Spans -/

/-- The handles of a span are those of its NVMe files. -/
theorem mem_devFdsOf (h : m.devFdsOf mapping is = some fds) {fd : Nat} (hfd : fd ∈ fds) :
    ∃ i ∈ is, i.val < m.controllers.length ∧ mapping.hasNvmeController i = true ∧
      m.devFds.lookup (i.val, (mapping.nvmeFileIds i).toNat) = some fd := by
  induction is generalizing fds with
  | nil =>
    cases h
    cases hfd
  | cons i is ih =>
    rw [devFdsOf] at h
    split at h
    · cases h
      cases hfd
    rename_i hlength
    split at h
    · rcases ih h hfd with ⟨k, hk, hkfound⟩
      exact ⟨k, List.mem_cons_of_mem i hk, hkfound⟩
    rename_i hhas
    split at h
    · cases h
    rename_i found hfound
    rcases Option.map_eq_some_iff.mp h with ⟨_, hothers, rfl⟩
    rcases List.mem_cons.mp hfd with rfl | hfd
    · exact ⟨i, List.mem_cons_self, Nat.lt_of_not_le hlength, by simpa using hhas, hfound⟩
    · rcases ih hothers hfd with ⟨k, hk, hkfound⟩
      exact ⟨k, List.mem_cons_of_mem i hk, hkfound⟩

section

variable (hlength : m'.controllers.length = m.controllers.length)
  (hmore : ∀ k fd, m.devFds.lookup k = some fd → m'.devFds.lookup k = some fd)

include hlength hmore

/-- A span stays what it is if there are more handles. -/
theorem devFdsOf_mono (h : m.devFdsOf mapping is = some fds) : m'.devFdsOf mapping is = some fds := by
  induction is generalizing fds with
  | nil => exact h
  | cons _ _ ih =>
    rw [devFdsOf] at h ⊢
    rw [hlength]
    split at h
    next hlen =>
      rw [if_pos hlen]
      exact h
    rename_i hlen
    rw [if_neg hlen]
    split at h
    next hhas =>
      rw [if_pos hhas]
      exact ih h
    rename_i hhas
    rw [if_neg hhas]
    split at h
    · cases h
    rename_i fd hfd
    rcases Option.map_eq_some_iff.mp h with ⟨_, hothers, rfl⟩
    rw [hmore _ _ hfd, ih hothers]
    rfl

theorem getDevFdById_mono (hdescs : m'.descs.lookup id = m.descs.lookup id) (h : m.getDevFdById id = some fds) :
    m'.getDevFdById id = some fds := by
  rw [getDevFdById] at h ⊢
  rw [hdescs, hlength]
  split at h
  · cases h
  split_ifs at h
  rename_i hvalid
  rw [if_neg hvalid]
  exact devFdsOf_mono hlength hmore h

end

/-! ### The invariant -/

/-- The GPU file `id` has the NVMe file `nvmeId` on the `i`-th controller. -/
def Owns (m : GPUFileManager) (id i nvmeId : Nat) : Prop :=
  ∃ (d : GPUFileDesc) (k : Fin 4), m.descs.lookup id = some d ∧ k.val = i ∧
    i < m.controllers.length ∧ d.nvmeMapping.hasNvmeController k = true ∧
    (d.nvmeMapping.nvmeFileIds k).toNat = nvmeId

/-- GPU files have NVMe files that are there, and that they do not share. -/
structure Matched (m : GPUFileManager) : Prop where
  owned : ∀ id i nvmeId c, m.Owns id i nvmeId → m.controllers[i]? = some c →
    (c.fm.records nvmeId).isSome
  distinct : ∀ id id' i nvmeId, m.Owns id i nvmeId → m.Owns id' i nvmeId → id = id'

/-- What is kept: besides, the handles of files that are there are current ones, and the
    span of an open file is what its mapping leads to. -/
structure Tracked (m : GPUFileManager) : Prop where
  numbered : ∀ c ∈ m.controllers, Numbered c
  matched : Matched m
  handles : ∀ i id fd c, m.devFds.lookup (i, id) = some fd → m.controllers[i]? = some c →
    (c.fm.records id).isSome → Holds c id fd
  spans : ∀ id fds, m.ctxs.lookup id = some fds → m.getDevFdById id = some fds

/-- No NVMe file is made under an id for which there is a handle. -/
def NoReuse (m m' : GPUFileManager) : Prop :=
  ∀ i id c c', m.controllers[i]? = some c → m'.controllers[i]? = some c' →
    (m.devFds.lookup (i, id)).isSome → c.fm.records id = none → c'.fm.records id = none

/-- A call that makes no file under an id for which there is a handle, and deletes no file
    that is open. -/
def Sparing (m : GPUFileManager) : Call → Prop
  | .createGPUFile totalFileSize tensorShape env =>
    ∀ m', m.step (.createGPUFile totalFileSize tensorShape env) = some m' → NoReuse m m'
  | .createGPUFiles totalFileSize toCreate tensorShape env =>
    ∀ m', m.step (.createGPUFiles totalFileSize toCreate tensorShape env) = some m' → NoReuse m m'
  | .deleteGPUFile id _ => m.ctxs.lookup id = none
  | _ => True

/-- The span of an open file consists of the current handles of its NVMe files. -/
theorem Tracked.current (hm : Tracked m) (h : m.getNVMeFilesSpanById id = some fds) :
    ∃ d, m.descs.lookup id = some d ∧ ∀ fd ∈ fds, ∃ (i : Fin 4) (c : ManagedController),
      d.nvmeMapping.hasNvmeController i = true ∧ m.controllers[i.val]? = some c ∧
        Current c (d.nvmeMapping.nvmeFileIds i).toNat fd := by
  have hspan := hm.spans id fds h
  rw [getDevFdById] at hspan
  cases hd : m.descs.lookup id with
  | none =>
    rw [hd] at hspan
    cases hspan
  | some d =>
    rw [hd] at hspan
    simp only at hspan
    split_ifs at hspan
    refine ⟨d, rfl, fun fd hfd => ?_⟩
    rcases mem_devFdsOf hspan hfd with ⟨i, -, hi, hhas, hfound⟩
    have hc := List.getElem?_eq_getElem hi
    have hnumbered := hm.numbered _ (List.getElem_mem hi)
    have hrecord := hm.matched.owned id i _ _ ⟨d, i, hd, rfl, hi, hhas, rfl⟩ hc
    exact ⟨i, _, hhas, hc, (hm.handles i _ fd _ hfound hc hrecord).current hnumbered hrecord⟩

/-! ### Creating files -/

/-- What creating files does: `news` are added to the controllers, and `files` to the map,
    each with the next of them on each controller. -/
structure Maps (m : GPUFileManager) (news : Nat → List Nat) (files : List (Nat × GPUFileDesc))
    (m' : GPUFileManager) : Prop where
  added : AddedAll m.controllers news m'.controllers
  fresh : Fresh m files
  names : ∀ (t : Nat) (e : Nat × GPUFileDesc), files[t]? = some e →
    NamesHeads e.2.nvmeMapping m.controllers (fun j => (news j)[t]?)
  descs : m'.descs = addDescs m.descs files
  ctxs : m'.ctxs = m.ctxs
  devFds : m'.devFds = m.devFds

/-- A call that fails adds nothing to the map. -/
theorem maps_nil (hadded : AddedAll m.controllers news m'.controllers) (hdescs : m'.descs = m.descs)
    (hctxs : m'.ctxs = m.ctxs) (hdevFds : m'.devFds = m.devFds) : Maps m news [] m' :=
  ⟨hadded, fresh_nil m, nofun, hdescs, hctxs, hdevFds⟩

theorem CreatedOne.maps {totalFileSize : Nat} {env : CreateOneEnv}
    (hs : ∀ c ∈ m.controllers, FileManager.Sound c.fm)
    (h : CreatedOne m totalFileSize tensorShape env m' r) : ∃ news files, Maps m news files m' := by
  rcases h.added hs with ⟨news, hadded, -⟩
  cases h with
  | refused | failed | undone => exact ⟨news, [], maps_nil hadded rfl rfl rfl⟩
  | created _ ids slot hnvme hfresh =>
    rcases createNVMeFilesForGPUFile_added hs hnvme with ⟨hall, hlength⟩
    refine ⟨fun j => ids[j]?.toList, _, ?_, hfresh, fun t e he => ?_, countWrites_descs ..,
      countWrites_ctxs .., countWrites_devFds ..⟩
    · rw [countWrites_controllers]
      exact hall
    · rcases List.getElem?_eq_some_iff.mp he with ⟨ht, he⟩
      have ht0 : t = 0 := by simpa using ht
      subst ht0
      have hnames : NamesHeads (GPUFileDesc.new slot totalFileSize tensorShape ids).nvmeMapping
          m.controllers (fun j => ids[j]?) :=
        namesHeads_of_added hall (hlength ids rfl) slot totalFileSize tensorShape
      have hfirst : ∀ j : Nat, (ids[j]?.toList)[0]? = ids[j]? := by
        intro j
        cases ids[j]? <;> rfl
      rw [← he]
      simpa only [hfirst, List.getElem_cons_zero] using hnames

theorem CreatedMany.maps {totalFileSize toCreate : Nat}
    {env : CreateManyEnv} {r : Option (List Nat)} (hs : ∀ c ∈ m.controllers, FileManager.Sound c.fm)
    (h : CreatedMany m totalFileSize toCreate tensorShape env m' r) :
    ∃ news files, Maps m news files m' := by
  rcases h.added hs with ⟨news, hadded, -⟩
  cases h with
  | refused | failed | undone => exact ⟨news, [], maps_nil hadded rfl rfl rfl⟩
  | created _ results _ hnvme hgood hslots hfresh =>
    rcases createOnAll_added hs hnvme with ⟨hall, hlength, -⟩
    refine ⟨fun j => results.getD j [], _, ?_, hfresh, fun t e he => ?_, countWrites_descs ..,
      countWrites_ctxs .., countWrites_devFds ..⟩
    · rw [countWrites_controllers]
      exact hall
    · exact newFiles_names hall hlength
        (fun ids hids => by rw [length_of_good hgood ids hids, hslots]) t he

variable {i : Nat}

section

variable (h : Maps m news files m')

include h

/-- The NVMe files of a file in the new map: the file was there, or they are new. -/
theorem Maps.owns {nvmeId : Nat} (howns : m'.Owns id i nvmeId) :
    m.Owns id i nvmeId ∨ ∃ (t : Nat) (e : Nat × GPUFileDesc), files[t]? = some e ∧ e.1 = id ∧
      i < m.controllers.length ∧ (news i)[t]? = some nvmeId := by
  rcases howns with ⟨d, k, hd, hk, hi, hhas, hnvme⟩
  rw [h.descs] at hd
  rw [h.added.length] at hi
  rcases lookup_addDescs files m.descs h.fresh.nodup with ⟨hin, hout⟩
  by_cases hmem : id ∈ files.map Prod.fst
  · rcases List.mem_map.mp hmem with ⟨e, he, rfl⟩
    rw [hin e he, Option.some.injEq] at hd
    rcases List.mem_iff_getElem?.mp he with ⟨t, ht⟩
    have hhead := ((h.names t e ht).2 k).2 (hk ▸ hi)
    rw [hd, hnvme] at hhead
    exact .inr ⟨t, e, ht, rfl, hi, hk ▸ hhead⟩
  · rw [hout id hmem] at hd
    exact .inl ⟨d, k, hd, hk, hi, hhas, hnvme⟩

/-- A controller after files were created, with what it was before. -/
theorem Maps.before (hnumbered : ∀ c ∈ m.controllers, Numbered c)
    (hc' : m'.controllers[i]? = some c') :
    ∃ c, m.controllers[i]? = some c ∧ Added c (news i) c' ∧ Numbered c' ∧
      Spares c c' (fun id => (c.fm.records id).isSome) := by
  have hi : i < m.controllers.length := by
    rw [← h.added.length]
    exact (List.getElem?_eq_some_iff.mp hc').1
  rcases h.added.exists_at hi with ⟨c, _, hc, hc₁, hadded⟩
  rw [hc', Option.some.injEq] at hc₁
  subst hc₁
  exact ⟨c, hc, hadded, hadded.worked.spares (hnumbered c (List.mem_of_getElem? hc))⟩

/-- New files have NVMe files of their own. -/
theorem Maps.matched (hm : Tracked m) : Matched m' := by
  -- An NVMe file that was there is not among the new ones.
  have hapart : ∀ id i nvmeId (t : Nat), m.Owns id i nvmeId → i < m.controllers.length →
      (news i)[t]? ≠ some nvmeId := by
    intro id i nvmeId t howns hi hnew
    rcases h.added.exists_at hi with ⟨c, c', hc, -, hadded⟩
    have hsome := hm.matched.owned id i nvmeId c howns hc
    rw [hadded.free nvmeId (List.mem_of_getElem? hnew)] at hsome
    cases hsome
  constructor
  · intro id i nvmeId c' howns hc'
    rcases h.before hm.numbered hc' with ⟨c, hc, hadded, -, hspares⟩
    rcases h.owns howns with hold | ⟨t, e, -, -, -, hnew⟩
    · have hsome := hm.matched.owned id i nvmeId c hold hc
      rw [hspares.records nvmeId hsome]
      exact hsome
    · rcases hadded.named nvmeId (List.mem_of_getElem? hnew) with ⟨d, hd, -⟩
      rw [hd]
      rfl
  · intro id id' i nvmeId howns howns'
    rcases h.owns howns with hold | ⟨t, e, he, rfl, hi, hnew⟩
    · rcases h.owns howns' with hold' | ⟨t', e', -, -, hi, hnew'⟩
      · exact hm.matched.distinct id id' i nvmeId hold hold'
      · exact absurd hnew' (hapart id i nvmeId t' hold hi)
    · rcases h.owns howns' with hold' | ⟨t', _, he', rfl, -, hnew'⟩
      · exact absurd hnew (hapart id' i nvmeId t hold' hi)
      · -- No file is twice among those of a controller.
        rcases h.added.exists_at hi with ⟨c, _, -, -, hadded⟩
        have ht : t = t' :=
          (List.getElem?_inj (List.getElem?_eq_some_iff.mp hnew).1 hadded.nodup).mp
            (hnew.trans hnew'.symm)
        rw [ht, he', Option.some.injEq] at he
        rw [he]

theorem Maps.tracked (hm : Tracked m) (hreuse : NoReuse m m') : Tracked m' where
  numbered c' hmem := by
    rcases List.mem_iff_getElem?.mp hmem with ⟨i, hc'⟩
    rcases h.before hm.numbered hc' with ⟨c, -, -, hnumbered, -⟩
    exact hnumbered
  matched := h.matched hm
  handles i id fd c' hfd hc' hsome := by
    rw [h.devFds] at hfd
    rcases h.before hm.numbered hc' with ⟨c, hc, -, -, hspares⟩
    cases hold : c.fm.records id with
    | none =>
      have hnone := hreuse i id c c' hc hc' (by rw [hfd]; rfl) hold
      rw [hnone] at hsome
      cases hsome
    | some =>
      have hthere : (c.fm.records id).isSome := by rw [hold]; rfl
      exact (hm.handles i id fd c hfd hc hthere).spares hspares hthere
  spans id fds hspan := by
    rw [h.ctxs] at hspan
    have hold := hm.spans id fds hspan
    have hfound : (m.descs.lookup id).isSome := by
      rw [getDevFdById] at hold
      split at hold
      · cases hold
      next d hd =>
        rw [hd]
        rfl
    refine getDevFdById_mono h.added.length (fun k _ hfd => ?_) ?_ hold
    · rw [h.devFds]
      exact hfd
    · rw [h.descs]
      refine (lookup_addDescs files m.descs h.fresh.nodup).2 id (fun hmem => ?_)
      rcases List.mem_map.mp hmem with ⟨e, he, rfl⟩
      rw [(h.fresh.free e he).2.2] at hfound
      cases hfound

end

/-! ### Deleting a file -/

/-- What deleting the NVMe files of a mapping does to a controller. -/
theorem deleteNVMeFiles_spares {cs : List ManagedController} (hcs : ∀ c ∈ cs, Numbered c)
    (mapping : CompactNVMeMapping) (env : Nat → DeleteEnv)
    (hc' : (deleteNVMeFilesForGPUFile cs mapping env).1[i]? = some c') :
    ∃ c, cs[i]? = some c ∧ Numbered c' ∧ (c' = c ∨ ∃ k : Fin 4, k.val = i ∧
      mapping.hasNvmeController k = true ∧ c'.fm.records (mapping.nvmeFileIds k).toNat = none ∧
        Spares c c' (· ≠ (mapping.nvmeFileIds k).toNat)) := by
  rw [deleteNVMeFiles_eq, List.getElem?_mapIdx] at hc'
  rcases Option.map_eq_some_iff.mp hc' with ⟨c, hc, rfl⟩
  have hnum := hcs c (List.mem_of_getElem? hc)
  rcases deletedAt_cases mapping env i c with heq | ⟨k, hk, hhas, heq⟩
  · rw [heq]
    exact ⟨c, hc, hnum, .inl rfl⟩
  · rcases hostFileDeleteManaged_spares hnum (mapping.nvmeFileIds k).toNat (env k) with
      ⟨hnumbered, hspares, hgone⟩
    rw [heq]
    exact ⟨c, hc, hnumbered, hgone.imp_right (fun hnone => ⟨k, hk, hhas, hnone, hspares⟩)⟩

/-- A file that is not open is deleted. -/
theorem Tracked.removed (hm : Tracked m) {env : DeleteGPUEnv} {deleted : Bool}
    (h : Removed m id env m' deleted) (hclosed : m.ctxs.lookup id = none) : Tracked m' := by
  cases h with
  | refused => exact hm
  | removed d hd =>
    set cs := (deleteNVMeFilesForGPUFile m.controllers d.nvmeMapping env.delete).1 with hcs
    set m₁ := ((m.vacate id cs).recordAll
      (if env.recordOk then [(id, .blank)] else [])).countWrites 1 env.persist with hm₁
    have hcontrollers : m₁.controllers = cs := countWrites_controllers ..
    have hdescs : m₁.descs = m.descs.erase id := countWrites_descs ..
    have hdevFds : m₁.devFds = m.devFds := countWrites_devFds ..
    have hctxs : m₁.ctxs = m.ctxs := countWrites_ctxs ..
    have hlength : m₁.controllers.length = m.controllers.length := by
      rw [hcontrollers, hcs, deleteNVMeFiles_eq, List.length_mapIdx]
    have hbefore : ∀ {i c'}, m₁.controllers[i]? = some c' → _ := fun {i c'} hc' =>
      deleteNVMeFiles_spares hm.numbered d.nvmeMapping env.delete
        (show cs[i]? = some c' by rw [← hcontrollers]; exact hc')
    -- The files of the others were theirs before.
    have howns : ∀ {id' i nvmeId}, m₁.Owns id' i nvmeId → id' ≠ id ∧ m.Owns id' i nvmeId := by
      rintro id' i nvmeId ⟨d', k, hd', hk, hi, hhas⟩
      rw [hdescs] at hd'
      exact ⟨(lookup_of_erase hd').1, d', k, (lookup_of_erase hd').2, hk, hlength ▸ hi, hhas⟩
    refine ⟨fun c' hmem => ?_, ⟨fun id' i nvmeId c' how hc' => ?_, fun id' _ i nvmeId how how' =>
      hm.matched.distinct _ _ i nvmeId (howns how).2 (howns how').2⟩,
      fun i nvmeId fd _ hfd hc' hsome => ?_, fun id' fds hspan => ?_⟩
    · rcases List.mem_iff_getElem?.mp hmem with ⟨i, hc'⟩
      rcases hbefore hc' with ⟨c, -, hnumbered, -⟩
      exact hnumbered
    · rcases howns how with ⟨hne, hold⟩
      rcases hbefore hc' with ⟨c, hc, -, rfl | ⟨k, hk, hhas, -, hspares⟩⟩
      · exact hm.matched.owned id' i nvmeId _ hold hc
      · have hi := (List.getElem?_eq_some_iff.mp hc).1
        have hother : nvmeId ≠ (d.nvmeMapping.nvmeFileIds k).toNat := by
          rintro rfl
          exact hne (hm.matched.distinct id' id i _ hold ⟨d, k, hd, hk, hi, hhas, rfl⟩)
        rw [hspares.records nvmeId hother]
        exact hm.matched.owned id' i nvmeId c hold hc
    · rw [hdevFds] at hfd
      rcases hbefore hc' with ⟨c, hc, -, rfl | ⟨k, -, -, hnone, hspares⟩⟩
      · exact hm.handles i nvmeId fd _ hfd hc hsome
      · have hother : nvmeId ≠ (d.nvmeMapping.nvmeFileIds k).toNat := by
          rintro rfl
          rw [hnone] at hsome
          cases hsome
        have hthere : (c.fm.records nvmeId).isSome := hspares.records nvmeId hother ▸ hsome
        exact (hm.handles i nvmeId fd c hfd hc hthere).spares hspares hother
    · rw [hctxs] at hspan
      have hne : id' ≠ id := by
        rintro rfl
        rw [hclosed] at hspan
        cases hspan
      refine getDevFdById_mono hlength (fun k _ hfd => ?_) ?_ (hm.spans id' fds hspan)
      · rw [hdevFds]
        exact hfd
      · rw [hdescs, AList.lookup_erase_ne hne]

/-! ### Opening NVMe files -/

/-- A controller opens a file, and the handle is kept. -/
theorem Tracked.opens (hm : Tracked m) {c : ManagedController} (hc : m.controllers[i]? = some c)
    (hid : (c.fm.records id).isSome) {env : OpenEnv}
    (h : c.deviceFileOpenManagedById id env = some (c', r))
    {devFds : AList (fun _ : Nat × Nat => Nat)}
    (hmore : ∀ k fd, m.devFds.lookup k = some fd → devFds.lookup k = some fd)
    (honly : ∀ k fd, devFds.lookup k = some fd →
      m.devFds.lookup k = some fd ∨ k = (i, id) ∧ r = some fd) :
    Tracked { m with controllers := m.controllers.set i c', devFds := devFds } := by
  rcases deviceFileOpenManagedById_holds (hm.numbered c (List.mem_of_getElem? hc)) hid h with
    ⟨hnumbered, hrecords, hholds, hnew⟩
  have hi := (List.getElem?_eq_some_iff.mp hc).1
  have hlength : (m.controllers.set i c').length = m.controllers.length := List.length_set
  -- The controllers have the records that they had.
  have hbefore : ∀ {j a'}, (m.controllers.set i c')[j]? = some a' →
      ∃ a, m.controllers[j]? = some a ∧ a'.fm.records = a.fm.records ∧
        (∀ id' fd, Holds a id' fd → Holds a' id' fd) ∧ (i = j → a' = c') := by
    intro j a' ha'
    rw [List.getElem?_set] at ha'
    split at ha'
    next hij =>
      rw [Option.some.injEq] at ha'
      subst ha' hij
      exact ⟨c, hc, hrecords, hholds, fun _ => rfl⟩
    next hij => exact ⟨a', ha', rfl, fun _ _ hold => hold, fun heq => absurd heq hij⟩
  have howns : ∀ {id' j nvmeId},
      Owns { m with controllers := m.controllers.set i c', devFds := devFds } id' j nvmeId →
        m.Owns id' j nvmeId := by
    rintro id' j nvmeId ⟨d, k, hd, hk, hj, hhas⟩
    exact ⟨d, k, hd, hk, hlength ▸ hj, hhas⟩
  refine ⟨fun a' hmem => ?_, ⟨fun id' j nvmeId a' how ha' => ?_, fun id' id'' j nvmeId how how' =>
    hm.matched.distinct id' id'' j nvmeId (howns how) (howns how')⟩,
    fun j nvmeId fd a' hfd ha' hsome => ?_, fun id' fds hspan => ?_⟩
  · rcases List.mem_or_eq_of_mem_set hmem with hmem | rfl
    · exact hm.numbered a' hmem
    · exact hnumbered
  · rcases hbefore ha' with ⟨a, ha, hsame, -⟩
    rw [hsame]
    exact hm.matched.owned id' j nvmeId a (howns how) ha
  · rcases hbefore ha' with ⟨a, ha, hsame, hold, hself⟩
    rcases honly (j, nvmeId) fd hfd with hfd | ⟨hk, hr⟩
    · rw [hsame] at hsome
      exact hold nvmeId fd (hm.handles j nvmeId fd a hfd ha hsome)
    · rw [Prod.mk.injEq] at hk
      rw [hself hk.1.symm, hk.2]
      exact hnew fd hr
  · have hdescs : { m with controllers := m.controllers.set i c', devFds := devFds }.descs.lookup
        id' = m.descs.lookup id' := rfl
    exact getDevFdById_mono hlength hmore hdescs (hm.spans id' fds hspan)

/-- The loop of `initGPUFile`, for a file of the map. -/
theorem Tracked.openMapped (hm : Tracked m) {d : GPUFileDesc} (hd : m.descs.lookup id = some d)
    {env : Nat → OpenEnv} {ok : Bool} (h : openMapped d.nvmeMapping env is m = some (m', ok)) :
    Tracked m' := by
  induction is generalizing m with
  | nil =>
    cases h
    exact hm
  | cons i _ ih =>
    rw [GPUFileManager.openMapped] at h
    split at h
    · cases h
      exact hm
    rename_i c hc
    split at h
    · exact ih hm hd h
    rename_i hopen
    rw [not_or, not_not] at hopen
    have hi := (List.getElem?_eq_some_iff.mp hc).1
    have hid := hm.matched.owned id i _ c ⟨d, i, hd, rfl, hi, hopen.1, rfl⟩ hc
    have hnone : m.devFds.lookup (i.val, (d.nvmeMapping.nvmeFileIds i).toNat) = none := by
      simpa using hopen.2
    split at h
    · cases h
    next c' hfailed =>
      cases h
      exact hm.opens hc hid hfailed (fun _ _ hfd => hfd) (fun _ _ hfd => .inl hfd)
    next c' fd hopened =>
      refine ih (hm.opens hc hid hopened (fun k fd' hfd => ?_) (fun k _ hfd => ?_)) hd h
      · have hne : k ≠ (i.val, (d.nvmeMapping.nvmeFileIds i).toNat) := by
          rintro rfl
          rw [hnone] at hfd
          cases hfd
        rw [AList.lookup_insert_ne hne]
        exact hfd
      · rw [lookup_insert_apply] at hfd
        split at hfd
        next hk => exact .inr ⟨hk, hfd⟩
        · exact .inl hfd

/-! ### Any number of calls -/

/-- Only the pool changes, and the files that are open. -/
theorem Tracked.withCtxs (hm : Tracked m) (freeList : List Nat)
    {ctxs : AList (fun _ : Nat => List Nat)}
    (hspans : ∀ id fds, ctxs.lookup id = some fds → m.getDevFdById id = some fds) :
    Tracked { m with freeList := freeList, ctxs := ctxs } :=
  ⟨hm.numbered, ⟨hm.matched.owned, hm.matched.distinct⟩, hm.handles, hspans⟩

theorem tracked_step (hm : Tracked m) {c : Call} (hc : Sparing m c) (h : m.step c = some m') :
    Tracked m' := by
  have hs : ∀ c ∈ m.controllers, FileManager.Sound c.fm := fun c hc => (hm.numbered c hc).sound
  cases step_stepped h with
  | one hcreate | many hcreate =>
    rcases hcreate.maps hs with ⟨news, files, hmaps⟩
    exact hmaps.tracked hm (hc m' h)
  | inited h =>
    cases h with
    | refused => exact hm
    | failed _ d hd hopen => exact hm.openMapped hd hopen
    | pooled m₂ d hd hopen =>
      have hm₂ := hm.openMapped hd hopen
      exact hm₂.withCtxs _ hm₂.spans
  | opened h =>
    cases h with
    | refused => exact hm
    | opened id rest fds _ hfds =>
      refine hm.withCtxs rest (fun id' fds' hspan => ?_)
      rw [lookup_insert_apply] at hspan
      split at hspan
      next hid =>
        rw [hid, ← Option.some.inj hspan]
        exact hfds
      · exact hm.spans id' fds' hspan
  | @closed id _ _ h =>
    have hkept : ∀ id' fds, (m.ctxs.erase id).lookup id' = some fds →
        m.getDevFdById id' = some fds := fun id' fds hspan =>
      hm.spans id' fds (lookup_of_erase hspan).2
    cases h with
    | refused => exact hm
    | doubled => exact hm.withCtxs m.freeList hkept
    | closed freeList => exact hm.withCtxs freeList hkept
  | removed h => exact hm.removed h hc

/-- Along calls that spare handles, each handle in the span of an open file was opened from
    the NVMe file that the file has on that controller now. -/
theorem spans_current (log : Option ByteFile) (controllers : List ManagedController)
    (threshold : Nat) (junk : LogHeader) (hctrls : ∀ c ∈ controllers, Numbered c)
    (hmatched : Matched (construct log controllers threshold junk)) (calls : List Call)
    (m : GPUFileManager)
    (hrun : run (lift step) (some (construct log controllers threshold junk)) calls = some m)
    (hcalls : Runs.Along (lift step) (fun s c => ∀ m, s = some m → Sparing m c)
      (some (construct log controllers threshold junk)) calls)
    (id : Nat) (fds : List Nat) (hspan : m.getNVMeFilesSpanById id = some fds) :
    ∃ d, m.descs.lookup id = some d ∧ ∀ fd ∈ fds, ∃ (i : Fin 4) (c : ManagedController),
      d.nvmeMapping.hasNvmeController i = true ∧ m.controllers[i.val]? = some c ∧
        Current c (d.nvmeMapping.nvmeFileIds i).toNat fd := by
  have hstart : Tracked (construct log controllers threshold junk) := by
    refine ⟨hctrls, hmatched, fun i id fd c hfd => ?_, fun id fds hctx => ?_⟩
    · cases hfd
    · cases hctx
  have htracked : Tracked m :=
    run_lift_invariant (fun _ _ _ hm hc hstep => tracked_step hm hc hstep) hstart hcalls hrun
  exact htracked.current hspan

theorem numbered_fresh (h : ctrl.devMountPath.head? = some slash) :
    Numbered (ManagedController.fresh ctrl) :=
  ⟨FileManager.sound_fresh 1000, fun _ d hd => absurd hd (by simp [records_fresh]), h, nofun⟩

/-- A new log has no files that could share one. -/
theorem matched_fresh (controllers : List ManagedController) (threshold : Nat) :
    Matched (fresh controllers threshold) := by
  have hnone : ∀ id i nvmeId, ¬ Owns (fresh controllers threshold) id i nvmeId := by
    rintro id i nvmeId ⟨d, k, hd, -⟩
    simp [fresh] at hd
  exact ⟨fun id i n _ h => absurd h (hnone id i n), fun id _ i n h => absurd h (hnone id i n)⟩

/-- A file with an NVMe file on each of two controllers, created and opened. -/
theorem spans_current_twoControllers : ∃ m d,
    run (lift step) (some (construct none twoControllers 4 (newHeader 0 0)))
      [.createGPUFile 131072 [1, 1, 4096] createOk, .initGPUFile 0 initOk,
        .openGPUFile true true] = some m ∧
    m.getNVMeFilesSpanById 0 = some [3, 3] ∧ m.descs.lookup 0 = some d ∧
    ∀ fd ∈ [3, 3], ∃ (i : Fin 4) (c : ManagedController),
      d.nvmeMapping.hasNvmeController i = true ∧ m.controllers[i.val]? = some c ∧
        Current c (d.nvmeMapping.nvmeFileIds i).toNat fd := by
  have hrun : ((run (lift step) (some (construct none twoControllers 4 (newHeader 0 0)))
      [.createGPUFile 131072 [1, 1, 4096] createOk, .initGPUFile 0 initOk,
        .openGPUFile true true]).map fun m => m.getNVMeFilesSpanById 0) = some (some [3, 3]) := by
    rw [construct_none]
    decide
  rcases Option.map_eq_some_iff.mp hrun with ⟨m, hrun, hspan⟩
  have hctrls : ∀ c ∈ twoControllers, Numbered c :=
    List.forall_mem_cons.mpr ⟨numbered_fresh rfl, List.forall_mem_singleton.mpr (numbered_fresh rfl)⟩
  have hmatched : Matched (construct none twoControllers 4 (newHeader 0 0)) := by
    rw [construct_none]
    exact matched_fresh twoControllers 4
  have hfirst : Sparing (construct none twoControllers 4 (newHeader 0 0))
      (.createGPUFile 131072 [1, 1, 4096] createOk) := by
    -- There are no handles at first.
    intro m' _ i id c c' _ _ hsome
    cases hsome
  rcases spans_current none twoControllers 4 (newHeader 0 0) hctrls hmatched _ m hrun
    ⟨fun _ heq => Option.some.inj heq ▸ hfirst, fun _ _ => trivial, fun _ _ => trivial, trivial⟩
    0 [3, 3] hspan with ⟨d, hd, hcurrent⟩
  exact ⟨m, d, hrun, hspan, hd, hcurrent⟩

/-- The extents of the header that the `NVMe_File` at an address points to. -/
def extentsAt (c : ManagedController) (fd : Nat) : Option (List FiemapExtent) :=
  match c.gpu fd with
  | some (.nvmeFile a) =>
    match c.gpu a with
    | some (.header hdr _) => some hdr.extents
    | _ => none
  | _ => none

/-- The second NVMe file of a GPU file cannot be opened. -/
def initFirst : Nat → OpenEnv :=
  fun i => if i = 0 then initOk 0 else ⟨true, [], ⟨false, true, true, true⟩⟩

/-- A file is created elsewhere on the disk. -/
def createElsewhere : CreateOneEnv :=
  { createOk with new := fun _ => ManagedController.madeWith [] [⟨512, 9437184, 65536, 1⟩] }

/-- A file is put in the pool and deleted, and another one is created: its span leads to the
    extents of the first one. So it is if the first one was never in the pool, as the second
    of its NVMe files could not be opened. -/
theorem span_of_deleted_file : ((run (lift step) (some (construct none
      [ManagedController.fresh ManagedController.mountM] 4 (newHeader 0 0)))
      [.createGPUFile 65536 [1, 1, 4096] createOk, .initGPUFile 0 initOk,
        .deleteGPUFile 0 deleteOk, .createGPUFile 65536 [1, 1, 4096] createElsewhere,
        .initGPUFile 0 initOk, .openGPUFile true true]).map fun m =>
          (m.getNVMeFilesSpanById 0, m.controllers.map fun c =>
            (extentsAt c 3, (c.storedHdr (c.controller.joinPath [48])).map GeminiHdr.extents))) =
      some (some [3], [(some [⟨512, 1048576, 65536, 1⟩], some [⟨512, 9437184, 65536, 1⟩])]) ∧
    ((run (lift step) (some (construct none twoControllers 4 (newHeader 0 0)))
      [.createGPUFile 131072 [1, 1, 4096] createOk, .initGPUFile 0 initFirst,
        .deleteGPUFile 0 deleteOk, .createGPUFile 131072 [1, 1, 4096] createElsewhere,
        .initGPUFile 0 initOk, .openGPUFile true true]).map fun m =>
          (m.getNVMeFilesSpanById 0, (m.controllers.take 1).map fun c =>
            (extentsAt c 3, (c.storedHdr (c.controller.joinPath [48])).map GeminiHdr.extents))) =
      some (some [3, 4], [(some [⟨512, 1048576, 65536, 1⟩], some [⟨512, 9437184, 65536, 1⟩])]) := by
  rw [construct_none, construct_none]
  exact ⟨by decide, by decide⟩

end GPUFileManager

end Geminifs.Gemini
